import Yuyan.Proofs.Elaboration.Completeness
import Yuyan.Proofs.Elaboration.Names
import Yuyan.Proofs.Elaboration.Soundness

/-!
# Accepted programs are well formed

The converse of completeness: what elaboration accepts is well formed
(`Source.Program.wellFormed_of_analyze`). That types and names are right is shown where
the rules for them are; here are the two other promises.

Every index has been checked where it was elaborated, and no rule changes an index
afterwards: the only expression that is rebuilt after it was elaborated is a text.

The declarations in a statement have the numbers after those of the declarations before
it. A body counts on from what is before it, and what follows the body counts on from the
end of the body, so the numbers are in program order whatever the nesting. An analysis
begins by forgetting the state that it starts from, so the numbers begin with `1` whatever
was analyzed before.
-/

namespace Yuyan

open Typed (Expr NumberedFrom nodesOfAll expressionsOfAll declarationsOfAll)

/-! ### Indices -/

/-- A text that is made a character has no index inside, as before. -/
theorem Typed.Expr.inRange_asChar {e : Expr} (h : ∀ n ∈ e.nodes, n.InRange) :
    ∀ n ∈ e.asChar.nodes, n.InRange := by
  unfold Expr.asChar
  split
  · split
    · exact List.forall_mem_singleton.2 trivial
    · exact h
  · exact h

mutual

/-- Every index in an elaborated expression has passed the check. -/
theorem Elaborates.inRange {scope : Scope} : ∀ {x : Option Ty} {e : Source.Expr} {e' : Expr},
    Elaborates scope x e e' → ∀ n ∈ e'.nodes, n.InRange
  | _, _, _, .int | _, _, _, .float | _, _, _, .bool | _, _, _, .char => by
    simp [Expr.nodes, Expr.InRange]
  | _, _, _, .text _ | _, _, _, .character _ | _, _, _, .name _ => by
    simp [Expr.nodes, Expr.InRange]
  | _, _, _, .paren he => he.inRange
  | _, _, _, .unary he _ => List.forall_mem_cons.2 ⟨trivial, he.inRange⟩
  | _, _, _, .equalityRight _ _ hr hl _ | _, _, _, .binary _ hl hr _ => by
    rw [Expr.nodes, List.forall_mem_cons, List.forall_mem_append]
    exact ⟨trivial, hl.inRange, hr.inRange⟩
  | _, _, _, .equality _ _ hl hr _ => by
    rw [Expr.nodes, List.forall_mem_cons, List.forall_mem_append]
    refine ⟨trivial, ?_, hr.inRange⟩
    split
    · exact Expr.inRange_asChar hl.inRange
    · exact hl.inRange
  | _, _, _, .emptyArray => by simp [Expr.nodes, nodesOfAll, Expr.InRange]
  | _, _, _, .array he hes => by
    rw [Expr.nodes, nodesOfAll, List.forall_mem_cons, List.forall_mem_append]
    exact ⟨trivial, he.inRange, hes.inRange⟩
  | _, _, _, .index ha _ hi _ hc => by
    rw [Expr.nodes, List.forall_mem_cons, List.forall_mem_append]
    exact ⟨checkIndex_eq_ok_iff.1 hc, ha.inRange, hi.inRange⟩

theorem ElaboratesElements.inRange {scope : Scope} :
    ∀ {t : Ty} {es : List Source.Expr} {es' : List Expr},
      ElaboratesElements scope t es es' → ∀ n ∈ nodesOfAll es', n.InRange
  | _, _, _, .nil => by simp [nodesOfAll]
  | _, _, _, .cons he _ hes => by
    rw [nodesOfAll, List.forall_mem_append]
    exact ⟨he.inRange, hes.inRange⟩

end

mutual

/-- What holds of the nodes of every elaborated expression holds of all expressions of an
elaborated statement. -/
theorem ElaboratesStmt.forall_expressions {P : Expr → Prop}
    (hP : ∀ {scope : Scope} {x : Option Ty} {e : Source.Expr} {e' : Expr},
      Elaborates scope x e e' → ∀ n ∈ e'.nodes, P n) :
    ∀ {c : Context} {s : Source.Stmt} {s' : Typed.Stmt}, ElaboratesStmt c s s' →
      ∀ n ∈ s'.expressions, P n
  | _, _, _, .decl he _ _ | _, _, _, .assign _ he _ => hP he
  | _, _, _, .print he | _, _, _, .ret _ he => hP he
  | _, _, _, .loop he _ hss | _, _, _, .condOnly he _ hss => by
    rw [Typed.Stmt.expressions, List.forall_mem_append]
    exact ⟨hP he, hss.forall_expressions hP⟩
  | _, _, _, .condElse he _ hss hus => by
    rw [Typed.Stmt.expressions, List.forall_mem_append, List.forall_mem_append]
    exact ⟨hP he, hss.forall_expressions hP, hus.forall_expressions hP⟩
  | _, _, _, .skip => by simp [Typed.Stmt.expressions]

theorem ElaboratesAll.forall_expressions {P : Expr → Prop}
    (hP : ∀ {scope : Scope} {x : Option Ty} {e : Source.Expr} {e' : Expr},
      Elaborates scope x e e' → ∀ n ∈ e'.nodes, P n) :
    ∀ {c : Context} {ss : List Source.Stmt} {ss' : List Typed.Stmt}, ElaboratesAll c ss ss' →
      ∀ n ∈ expressionsOfAll ss', P n
  | _, _, _, .nil => by simp [expressionsOfAll]
  | _, _, _, .cons hs hss => by
    rw [expressionsOfAll, List.forall_mem_append]
    exact ⟨hs.forall_expressions hP, hss.forall_expressions hP⟩

end

/-! ### Numbers of declarations -/

mutual

/-- The declarations in a statement have the numbers after those of the declarations before
it, in program order. -/
theorem ElaboratesStmt.numbered : ∀ {c : Context} {s : Source.Stmt} {s' : Typed.Stmt},
    ElaboratesStmt c s s' → NumberedFrom c.declared s'.declarations
  | _, _, _, .decl _ _ _ => Typed.numberedFrom_singleton.2 rfl
  | _, _, _, .assign _ _ _ | _, _, _, .print _ | _, _, _, .skip | _, _, _, .ret _ _ => rfl
  | _, _, _, .loop _ _ hss | _, _, _, .condOnly _ _ hss => hss.numbered
  | _, _, _, .condElse _ _ hss hus => by
    -- the alternate starts from the number that the consequent has left
    rw [Typed.Stmt.declarations, Typed.numberedFrom_append]
    exact ⟨hss.numbered, hus.numbered⟩

theorem ElaboratesAll.numbered : ∀ {c : Context} {ss : List Source.Stmt} {ss' : List Typed.Stmt},
    ElaboratesAll c ss ss' → NumberedFrom c.declared (declarationsOfAll ss')
  | _, _, _, .nil => rfl
  | _, _, _, .cons hs hss => by
    rw [declarationsOfAll, Typed.numberedFrom_append]
    exact ⟨hs.numbered, hss.numbered⟩

end

/-! ### Programs -/

namespace Source.Program

/-- **What is accepted is well formed.** -/
theorem wellFormed_of_analyze {u : Source.Program} {p : Typed.Program}
    (h : u.analyze.value = .ok p) : p.WellFormed := by
  obtain ⟨h, -⟩ := analyze_eq_ok_iff.1 h
  have hd : Scope.root.Distinct := List.nodup_nil
  exact {
    wellTyped := h.wellTyped
    resolved := h.resolved hd
    numbered := h.numbered
    inBodies := h.not_isReturn rfl
    inRange := h.forall_expressions Elaborates.inRange }

/-- **Declarations are numbered `1, 2, …`** in program order through all bodies, with no
number left out or used twice, and what becomes of a program is the same from whatever state
the analysis of other programs has left. -/
theorem numbered_of_elaborate (c : Context) (u : Source.Program) :
    (u.elaborate c).result = u.analyze.value ∧
      ∀ p, (u.elaborate c).result = .ok p → NumberedFrom 0 p.declarations := by
  -- nothing of the state is looked at before it is replaced
  have hc : (u.elaborate c).result = u.analyze.value := rfl
  refine ⟨hc, fun p hp => ?_⟩
  rw [hc] at hp
  exact (wellFormed_of_analyze hp).numbered

/-- A program that is rejected in a body, at its third declaration. -/
def redeclared : Source.Program :=
  ⟨[declarationOf "x", .loop .whileLoop (.bool true {})
      (.mk [declarationOf "y", declarationOf "x"] {}) {}], {}⟩

/-- From the state that the rejected program has left, with a number used up for each of its
declarations, bodies beside each other are numbered from the start. -/
theorem numbered_after_redeclared :
    (redeclared.elaborate {}).context.declared = 3 ∧
      (nested.elaborate (redeclared.elaborate {}).context).result = .ok typedNested ∧
      (nested.elaborate (redeclared.elaborate {}).context).result = nested.analyze.value ∧
      NumberedFrom 0 typedNested.declarations := by
  obtain ⟨hc, hn⟩ := numbered_of_elaborate (redeclared.elaborate {}).context nested
  have h : nested.analyze.value = .ok typedNested := rfl
  have h' := hc.trans h
  exact ⟨by decide, h', hc, hn _ h'⟩

end Source.Program

end Yuyan
