import Yuyan.Proofs.Elaboration.Completeness
import Yuyan.Proofs.Elaboration.Soundness

/-!
# Elaborating an elaborated program

A program that was accepted can be written out and is accepted again, as the same program.
Writing out changes what the parts of an expression expect of each other: a text that was
made a character is now a character from the start, so that the other side of an equality
is elaborated where a character is expected and no longer a text.

Expressions do not mind. Where its own type is expected, an elaborated expression becomes
itself, whatever was expected when it was elaborated first; and where nothing was expected
before, nothing need be expected now (`Elaborates.again`). What an array without elements
needs is therefore there: wherever one was accepted a type was expected, and the type that
it got is expected again.
-/

namespace Yuyan

open Typed (Expr elementsToSource allToSource)

/-! ### Expressions -/

/-- An expression is written out as an array without elements only if it was written as
one. -/
theorem Elaborates.isEmptyArray_toSource {scope : Scope} :
    ∀ {x : Option Ty} {e : Source.Expr} {e' : Expr}, Elaborates scope x e e' →
      e'.toSource.isEmptyArray = e.isEmptyArray
  | _, _, _, .paren he => he.isEmptyArray_toSource
  | _, _, _, .int | _, _, _, .float | _, _, _, .bool | _, _, _, .char | _, _, _, .text _
  | _, _, _, .character _ | _, _, _, .name _ | _, _, _, .unary _ _
  | _, _, _, .equalityRight _ _ _ _ _ | _, _, _, .equality _ _ _ _ _ | _, _, _, .binary _ _ _ _
  | _, _, _, .emptyArray | _, _, _, .array _ _ | _, _, _, .index _ _ _ _ _ => rfl

/-- A text that is made a character is no array, as before. -/
theorem Typed.Expr.isEmptyArray_asChar (e : Expr) :
    e.asChar.toSource.isEmptyArray = e.toSource.isEmptyArray := by
  unfold Expr.asChar
  split
  · split
    · rfl
    · rfl
  · rfl

/-- If an expression becomes itself where nothing is expected, so does the character that it
is made. -/
theorem Elaborates.asChar {scope : Scope} {e : Expr} (h : Elaborates scope none e.toSource e) :
    Elaborates scope none e.asChar.toSource e.asChar := by
  unfold Expr.asChar
  split
  · split
    · exact .char
    · exact h
  · exact h

/-- An equality becomes itself if its sides do, the left one where nothing is expected. -/
theorem Elaborates.equality_again {scope : Scope} {x : Option Ty} {op : BinOp} {l r : Expr} {t : Ty}
    {s : Span} (hop : op.isEquality = true) (hne : l.toSource.isEmptyArray = false)
    (hl : Elaborates scope none l.toSource l) (hr : Elaborates scope (some r.ty) r.toSource r)
    (ht : op.resultTy l r s = .ok t) :
    Elaborates scope x (.binary op l.toSource r.toSource s) (.binary op l r t s) := by
  have hty : l.ty = r.ty := (BinOp.ty_of_isEquality hop ht).1
  -- a left side that is a character is no text that could be made one
  have hl' : (if r.ty = .char then l.asChar else l) = l := by
    split
    · rename_i hc; exact hl.wellTyped.asChar_eq (hty.trans hc)
    · rfl
  have h := Elaborates.equality (x := x) hop hne hl (hty ▸ hr) (by rw [hl']; exact ht)
  rwa [hl'] at h

mutual

/-- An elaborated expression becomes itself again where its own type is expected, and where
nothing is if nothing was. -/
theorem Elaborates.again {scope : Scope} : ∀ {x : Option Ty} {e : Source.Expr} {e' : Expr},
    Elaborates scope x e e' → ∀ {y : Option Ty}, (∀ t ∈ y, t = e'.ty) → (y = none → x = none) →
      Elaborates scope y e'.toSource e'
  | _, _, _, .int, _, _, _ => .int
  | _, _, _, .float, _, _, _ => .float
  | _, _, _, .bool, _, _, _ => .bool
  | _, _, _, .char, _, _, _ | _, _, _, .character _, _, _, _ => .char
  | _, _, _, .text _, _, hy, _ => by
    refine .text fun hc => ?_
    cases hy .char hc
  | _, _, _, .name hv, _, _, _ => by
    have hn := (Scope.mem_visible_of_lookup? hv).2
    exact .name (by rw [hn, hv])
  | _, _, _, .paren he, _, hy, hx => he.again hy hx
  | _, _, _, .unary he ht, _, _, _ => .unary (he.again nofun fun _ => rfl) ht
  | _, _, _, .equalityRight hop hl hr' hl' ht, _, _, _ => by
    have hty := (BinOp.ty_of_isEquality hop ht).1
    refine .equalityRight hop ?_ (hr'.again nofun fun _ => rfl) (hl'.again ?_ nofun) ht
    · rw [hl'.isEmptyArray_toSource, hl]
    · simp [hty]
  | _, _, _, @Elaborates.equality _ _ _ _ _ l r _ _ hop hl hl' hr' ht, _, _, _ => by
    have hne : l.toSource.isEmptyArray = false := hl'.isEmptyArray_toSource.trans hl
    have hln : Elaborates scope none l.toSource l := hl'.again nofun fun _ => rfl
    have hr : Elaborates scope (some r.ty) r.toSource r := hr'.again (by simp) nofun
    by_cases hc : r.ty = .char
    · rw [if_pos hc] at ht ⊢
      exact .equality_again hop ((Expr.isEmptyArray_asChar l).trans hne) hln.asChar hr ht
    · rw [if_neg hc] at ht ⊢
      exact .equality_again hop hne hln hr ht
  | _, _, _, .binary hop hl hr ht, _, _, _ =>
    .binary hop (hl.again nofun fun _ => rfl) (hr.again nofun fun _ => rfl) ht
  | _, _, _, .emptyArray, y, hy, hx => by
    -- a type was expected, so one is
    cases y with
    | none => cases hx rfl
    | some t =>
      obtain rfl := hy t rfl
      exact .emptyArray
  | _, _, _, .array he hes, y, hy, hx => by
    refine .array (he.again ?_ ?_) hes.again
    · intro u hu
      obtain ⟨t, ht, hu⟩ := Option.bind_eq_some_iff.1 hu
      rw [hy t ht] at hu
      cases hu
      rfl
    · intro hn
      cases y with
      | none => rw [hx rfl]; rfl
      | some t =>
        obtain rfl := hy t rfl
        cases hn
  | _, _, _, .index ha hat hi hit hc, _, _, _ =>
    .index (ha.again nofun fun _ => rfl) hat (hi.again nofun fun _ => rfl) hit hc

theorem ElaboratesElements.again {scope : Scope} :
    ∀ {t : Ty} {es : List Source.Expr} {es' : List Expr}, ElaboratesElements scope t es es' →
      ElaboratesElements scope t (elementsToSource es') es'
  | _, _, _, .nil => .nil
  | _, _, _, .cons he ht hes => .cons (he.again (by simp [ht]) nofun) ht hes.again

end

/-! ### Statements -/

mutual

/-- An elaborated statement becomes itself again from the same state. -/
theorem ElaboratesStmt.again : ∀ {c : Context} {s : Source.Stmt} {s' : Typed.Stmt},
    ElaboratesStmt c s s' → ElaboratesStmt c s'.toSource s'
  | c, .decl written target _ _, .decl _ _ e' s, .decl he ht hf => by
    have he' : Elaborates c.scope (some (written.resolve.toSource s).resolve) e'.toSource e' :=
      he.again (by simp [ht]) nofun
    have h : ElaboratesStmt c
        (.decl (written.resolve.toSource s) ⟨target.name, s⟩ e'.toSource s)
        (.decl (written.resolve.toSource s).resolve
          ⟨target.name, (written.resolve.toSource s).resolve, c.declared + 1⟩ e' s) :=
      .decl he' (by simp [ht]) hf
    rwa [Ty.resolve_toSource] at h
  | c, .assign target _ _, .assign x _ _, .assign hx he ht => by
    have hn : x.name = target.name := (Scope.mem_visible_of_lookup? hx).2
    exact .assign (by rw [hn, hx]) (he.again (by simp [ht]) nofun) ht
  | _, _, _, .print he => .print (he.again nofun fun _ => rfl)
  | _, _, _, .loop he ht hss => .loop (he.again nofun fun _ => rfl) ht hss.again
  | _, _, _, .condOnly he ht hss => .condOnly (he.again nofun fun _ => rfl) ht hss.again
  | _, _, _, .condElse he ht hss hus =>
    .condElse (he.again nofun fun _ => rfl) ht hss.again hus.again
  | _, _, _, .skip => .skip
  | _, _, _, .ret hr he => .ret hr (he.again nofun fun _ => rfl)

theorem ElaboratesAll.again : ∀ {c : Context} {ss : List Source.Stmt} {ss' : List Typed.Stmt},
    ElaboratesAll c ss ss' → ElaboratesAll c (allToSource ss') ss'
  | _, _, _, .nil => .nil
  | _, _, _, .cons hs hss => .cons hs.again hss.again

end

/-! ### Programs -/

namespace Source.Program

/-- **An accepted program is accepted again as itself** when it is written out, with its
arrays that have no elements and its texts that became characters. -/
theorem analyze_toSource_of_analyze {u : Source.Program} {p : Typed.Program}
    (h : u.analyze.value = .ok p) : p.toSource.analyze.value = .ok p := by
  obtain ⟨hss, -⟩ := analyze_eq_ok_iff.1 h
  exact analyze_eq_ok_iff.2 ⟨hss.again, rfl⟩

theorem analyze_toSource_spelling :
    spelling.analyze.value = .ok typedSpelling ∧
      typedSpelling.toSource.analyze.value = .ok typedSpelling := by
  have h : spelling.analyze.value = .ok typedSpelling := rfl
  exact ⟨h, analyze_toSource_of_analyze h⟩

end Source.Program

end Yuyan
