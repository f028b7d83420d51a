import Yuyan.Proofs.Elaboration.Statements
import Yuyan.Proofs.Typed.ToSource
import Yuyan.Proofs.Typed.WellFormed

/-!
# Well-formed programs are accepted

A well-formed program that is written out is accepted and becomes itself again: each
node follows the rule for its constructor. The surroundings of a part expect its own
type or none, and neither makes anything else of it; the state from which a statement
is elaborated has the variables that are visible there and the number of the
declarations before it.

An array without elements has no type of its own once it is written out, so there must
be none.
-/

namespace Yuyan

open Typed (Expr NumberedFrom sitesOfAll declarationsOfAll expressionsOfAll)

/-! ### Expressions -/

namespace Typed.Expr

/-- What is asked of a node besides its type. -/
def Writable (e : Expr) : Prop := e.InRange ∧ ¬ e.IsEmptyArray

/-- An expression that is written out is an array without elements only if it was. -/
theorem isEmptyArray_toSource {e : Expr} (h : ¬ e.IsEmptyArray) :
    e.toSource.isEmptyArray = false := by
  cases e with
  | lit v => cases v <;> rfl
  | array es =>
    cases es with
    | nil => exact absurd rfl h
    | cons e es => rfl
  | _ => rfl

/-- A character is no text that could be made one. -/
theorem WellTyped.asChar_eq {e : Expr} (h : e.WellTyped) (hc : e.ty = .char) : e.asChar = e := by
  cases h with
  | @lit v s =>
    cases v with
    | char c => rfl
    | _ => cases hc
  | _ => rfl

end Typed.Expr

/-- The check of an index is passed exactly by what is in range. -/
theorem checkIndex_eq_ok_iff {a i : Expr} {t : Ty} {s : Span} :
    checkIndex a i = .ok () ↔ (Expr.index a i t s).InRange := by
  unfold checkIndex
  rw [Expr.InRange]
  cases i.constant?.bind Literal.int? with
  | none => exact iff_of_true rfl nofun
  | some m =>
    have hlen : a.length?.any (fun length => length ≤ m.toInt) = true ↔
        ¬ ∀ k ∈ a.length?, m.toInt < k := by
      cases a.length? <;> simp
    have hneg : m < 0 ↔ ¬ 0 ≤ m.toInt := by
      rw [Int64.lt_iff_toInt_lt, Int.not_le, Int64.toInt_zero]
    simp only [hlen, hneg, ← Classical.not_and_iff_not_or_not, Option.mem_def, Option.some.injEq,
      forall_eq']
    split
    · rename_i h; exact iff_of_false nofun h
    · rename_i h; exact iff_of_true rfl (Classical.not_not.1 h)

/-- The only visible variable of its name is the one that the name is looked up as. -/
theorem Scope.lookup?_of_filter_eq {s : Scope} {x : Variable}
    (h : s.visible.filter (·.name = x.name) = [x]) : s.lookup? x.name = some x := by
  have hf : s.visible.filter (·.name == x.name) = [x] := by
    rw [← h]
    refine List.filter_congr fun v _ => ?_
    rw [Bool.eq_iff_iff, beq_iff_eq, decide_eq_true_iff]
  rw [lookup?, ← List.head?_filter, hf]
  rfl

theorem ElaboratesElements.of_forall {scope : Scope} {t : Ty} {es : List Expr}
    (h : ∀ e ∈ es, Elaborates scope (some t) e.toSource e ∧ e.ty = t) :
    ElaboratesElements scope t (Typed.elementsToSource es) es := by
  induction es with
  | nil => exact .nil
  | cons e es ih =>
    rw [List.forall_mem_cons] at h
    exact .cons h.1.1 h.1.2 (ih h.2)

/-- A well-typed expression is what it becomes, where its own type is expected or none. -/
theorem Elaborates.of_wellTyped {scope : Scope} {e : Expr} (h : e.WellTyped)
    (hn : ∀ n ∈ e.nodes, n.Writable) (hr : ∀ v ∈ e.references, scope.lookup? v.name = some v)
    {x : Option Ty} (hx : ∀ t ∈ x, t = e.ty) : Elaborates scope x e.toSource e := by
  induction h generalizing x with
  | @lit v s =>
    cases v with
    | string t =>
      refine .text fun hc => ?_
      cases hx .char hc
    | boolean => exact .bool
    | int => exact .int
    | float => exact .float
    | char => exact .char
  | var => exact .name (hr _ (by simp))
  | unary _ ht ih =>
    rw [Expr.nodes, List.forall_mem_cons] at hn
    exact .unary (ih hn.2 hr nofun) ht
  | @binary op l r t s hl _ ht ihl ihr =>
    rw [Expr.nodes, List.forall_mem_cons, List.forall_mem_append] at hn
    obtain ⟨-, hnl, hnr⟩ := hn
    rw [Expr.references_binary, List.forall_mem_append] at hr
    obtain ⟨hrl, hrr⟩ := hr
    by_cases hop : op.isEquality = true
    · obtain ⟨hty, -⟩ := BinOp.ty_of_isEquality hop ht
      have hne : l.toSource.isEmptyArray = false :=
        Expr.isEmptyArray_toSource (hnl l l.mem_nodes_self).2
      -- the left operand has been elaborated to what it is, a character included
      have hl' : (if r.ty = .char then l.asChar else l) = l := by
        split
        · rename_i hc; exact hl.asChar_eq (hty.trans hc)
        · rfl
      have h := Elaborates.equality hop hne (ihl hnl hrl nofun) (ihr hnr hrr (by simp [hty]))
        (by rw [hl']; exact ht) (x := x)
      rw [hl'] at h
      exact h
    · exact .binary (by simpa using hop) (ihl hnl hrl nofun) (ihr hnr hrr nofun) ht
  | @array es t s _ hty ih =>
    rw [Expr.nodes, List.forall_mem_cons, Typed.forall_mem_nodesOfAll] at hn
    obtain ⟨⟨-, hne⟩, hn⟩ := hn
    rw [Expr.references_array, List.forall_mem_flatMap] at hr
    cases es with
    | nil => exact absurd rfl hne
    | cons e es =>
      rw [List.forall_mem_cons] at hn hr hty ih
      obtain ⟨rfl, hty⟩ := hty
      refine .array (ih.1 hn.1 hr.1 fun u hu => ?_) (.of_forall fun e' he' => ⟨?_, hty e' he'⟩)
      · obtain ⟨t', ht', hu⟩ := Option.bind_eq_some_iff.1 hu
        rw [hx t' ht'] at hu
        cases hu
        rfl
      · exact ih.2 e' he' (hn.2 e' he') (hr.2 e' he') (by simp [hty e' he'])
  | index _ _ hat hit iha ihi =>
    rw [Expr.nodes, List.forall_mem_cons, List.forall_mem_append] at hn
    obtain ⟨⟨hin, -⟩, hna, hni⟩ := hn
    rw [Expr.references_index, List.forall_mem_append] at hr
    obtain ⟨hra, hri⟩ := hr
    exact .index (iha hna hra nofun) hat (ihi hni hri nofun) hit (checkIndex_eq_ok_iff.2 hin)

/-! ### Statements -/

theorem Elaborates.of_resolved {scope : Scope} {e : Expr} (h : e.WellTyped)
    (hn : ∀ n ∈ e.nodes, n.Writable) (hr : ∀ site ∈ e.sites scope.visible, site.Resolved)
    {x : Option Ty} (hx : ∀ t ∈ x, t = e.ty) : Elaborates scope x e.toSource e := by
  rw [Expr.sites, List.forall_mem_map] at hr
  exact .of_wellTyped h hn (fun v hv => Scope.lookup?_of_filter_eq (hr v hv)) hx

mutual

/-- A well-formed statement is what it becomes, from a state that has what is visible
there and the number of the declarations before it. -/
theorem ElaboratesStmt.of_wellTyped : ∀ {s : Typed.Stmt} {c : Context}, s.WellTyped →
    (∀ n ∈ s.expressions, n.Writable) → (∀ site ∈ s.sites c.scope.visible, site.Resolved) →
    NumberedFrom c.declared s.declarations → (s.IsReturn → c.scope.isRoot = false) →
    ElaboratesStmt c s.toSource s
  | .decl t ⟨name, ty, id⟩ e s, c, .decl hd he ht, hn, hr, hnum, _ => by
    rw [Typed.Stmt.sites, List.forall_mem_append, List.forall_mem_singleton] at hr
    obtain ⟨hr, hfresh⟩ := hr
    obtain rfl : id = c.declared + 1 := Typed.numberedFrom_singleton.1 hnum
    obtain rfl : ty = t := hd
    have he' : Elaborates c.scope (some (ty.toSource s).resolve) e.toSource e :=
      .of_resolved he hn hr (by simp [ht])
    have h : ElaboratesStmt c (.decl (ty.toSource s) ⟨name, s⟩ e.toSource s)
        (.decl (ty.toSource s).resolve ⟨name, (ty.toSource s).resolve, c.declared + 1⟩ e s) :=
      .decl he' (by simp [ht]) (Scope.isVisible_eq_false_iff.2 hfresh)
    rw [Ty.resolve_toSource] at h
    exact h
  | .assign x e s, c, .assign he ht, hn, hr, _, _ => by
    rw [Typed.Stmt.sites, List.forall_mem_cons] at hr
    obtain ⟨hx, hr⟩ := hr
    exact .assign (Scope.lookup?_of_filter_eq hx) (.of_resolved he hn hr (by simp [ht])) ht
  | .print e s, c, .print he, hn, hr, _, _ => .print (.of_resolved he hn hr nofun)
  | .loop kind e ss s, c, .loop he ht hss, hn, hr, hnum, _ => by
    rw [Typed.Stmt.expressions, List.forall_mem_append] at hn
    rw [Typed.Stmt.sites, List.forall_mem_append] at hr
    obtain ⟨hne, hnss⟩ := hn
    obtain ⟨hre, hrss⟩ := hr
    -- a return can stand in any body
    exact .loop (.of_resolved he hne hre nofun) ht
      (.of_wellTyped hss hnss hrss hnum fun _ _ _ => rfl)
  | .cond e ss none s, c, .cond he ht hss _, hn, hr, hnum, _ => by
    rw [Typed.Stmt.expressions, List.forall_mem_append] at hn
    rw [Typed.Stmt.sites, List.forall_mem_append] at hr
    obtain ⟨hne, hnss⟩ := hn
    obtain ⟨hre, hrss⟩ := hr
    exact .condOnly (.of_resolved he hne hre nofun) ht
      (.of_wellTyped hss hnss hrss hnum fun _ _ _ => rfl)
  | .cond e ss (some us) s, c, .cond he ht hss hus, hn, hr, hnum, _ => by
    rw [Typed.Stmt.expressions, List.forall_mem_append, List.forall_mem_append] at hn
    rw [Typed.Stmt.sites, List.forall_mem_append, List.forall_mem_append] at hr
    rw [Typed.Stmt.declarations, Typed.numberedFrom_append] at hnum
    obtain ⟨hne, hnss, hnus⟩ := hn
    obtain ⟨hre, hrss, hrus⟩ := hr
    obtain ⟨hnumss, hnumus⟩ := hnum
    exact .condElse (.of_resolved he hne hre nofun) ht
      (.of_wellTyped hss hnss hrss hnumss fun _ _ _ => rfl)
      (.of_wellTyped (hus us rfl) hnus hrus hnumus fun _ _ _ => rfl)
  | .skip s, c, _, _, _, _, _ => .skip
  | .ret e s, c, .ret he, hn, hr, _, hroot => .ret (hroot trivial) (.of_resolved he hn hr nofun)
termination_by structural s => s

theorem ElaboratesAll.of_wellTyped : ∀ {ss : List Typed.Stmt} {c : Context},
    (∀ s ∈ ss, s.WellTyped) → (∀ n ∈ expressionsOfAll ss, n.Writable) →
    (∀ site ∈ sitesOfAll c.scope.visible ss, site.Resolved) →
    NumberedFrom c.declared (declarationsOfAll ss) →
    (∀ s ∈ ss, s.IsReturn → c.scope.isRoot = false) →
    ElaboratesAll c (Typed.allToSource ss) ss
  | [], c, _, _, _, _, _ => .nil
  | s :: ss, c, hw, hn, hr, hnum, hroot => by
    rw [List.forall_mem_cons] at hw hroot
    rw [expressionsOfAll, List.forall_mem_append] at hn
    rw [sitesOfAll, List.forall_mem_append, ← Context.visible_after] at hr
    rw [declarationsOfAll, Typed.numberedFrom_append] at hnum
    exact .cons (.of_wellTyped hw.1 hn.1 hr.1 hnum.1 hroot.1)
      (.of_wellTyped hw.2 hn.2 hr.2 hnum.2 hroot.2)
termination_by structural ss => ss

end

/-! ### Programs -/

namespace Typed.Program

/-- **Nothing well formed is rejected.** A well-formed program without arrays that have
no elements, written out, is accepted and becomes itself again. -/
theorem analyze_toSource {p : Program} (h : p.WellFormed)
    (hne : ∀ e ∈ p.expressions, ¬ e.IsEmptyArray) : p.toSource.analyze.value = .ok p := by
  refine analyze_eq_ok_iff.2 ⟨?_, rfl⟩
  have hn : ∀ e ∈ p.expressions, e.Writable := fun e he => ⟨h.inRange e he, hne e he⟩
  have hroot : ∀ s ∈ p.statements, s.IsReturn → Scope.root.isRoot = false :=
    fun s hs hret => absurd hret (h.inBodies s hs)
  exact .of_wellTyped h.wellTyped hn h.resolved h.numbered hroot

/-- Arrays that are read at a known place, a body that returns, and another one that
reuses its name. -/
def lookups : Program :=
  let xs : Variable := ⟨"xs", .array .char, 1⟩
  let letter (c : Char) : Expr := .ofLiteral (.char c) {}
  let first (a : Expr) : Expr := .index a (.ofLiteral (.int 0) {}) .char {}
  let test : Expr := .binary .eq (first (.ofVariable xs {})) (letter 'a') .boolean {}
  ⟨[.decl xs.ty xs (.array [letter 'a', letter 'b'] xs.ty {}) {},
    .loop .whileLoop test
      [.decl .char ⟨"x", .char, 2⟩ (first (.array [letter 'c'] xs.ty {})) {},
       .ret (.ofVariable ⟨"x", .char, 2⟩ {}) {}] {},
    .cond test [.decl .string ⟨"x", .string, 3⟩ (.ofLiteral (.string "d") {}) {}] none {}], {}⟩

theorem wellFormed_lookups : lookups.WellFormed where
  wellTyped := by
    have letters (cs : List Char) : (Expr.array (cs.map fun c => .ofLiteral (.char c) {})
        (.array .char) {}).WellTyped := by
      refine .array ?_ ?_
      · exact List.forall_mem_map.2 fun _ _ => .lit
      · exact List.forall_mem_map.2 fun _ _ => rfl
    have test : (Expr.binary .eq (.index (.ofVariable ⟨"xs", .array .char, 1⟩ {})
        (.ofLiteral (.int 0) {}) .char {}) (.ofLiteral (.char 'a') {}) .boolean {}).WellTyped :=
      .binary (.index .var .lit rfl rfl) .lit rfl
    refine List.forall_mem_cons.2 ⟨.decl rfl (letters ['a', 'b']) rfl, ?_⟩
    refine List.forall_mem_cons.2 ⟨.loop test rfl ?_, ?_⟩
    · refine List.forall_mem_cons.2 ⟨.decl rfl (.index (letters ['c']) .lit rfl rfl) rfl, ?_⟩
      exact List.forall_mem_singleton.2 (.ret .var)
    · exact List.forall_mem_singleton.2
        (.cond test rfl (List.forall_mem_singleton.2 (.decl rfl .lit rfl)) nofun)
  resolved := by decide
  numbered := rfl
  inBodies := by decide
  inRange := by decide

theorem analyze_toSource_lookups :
    lookups.WellFormed ∧ (∀ e ∈ lookups.expressions, ¬ e.IsEmptyArray) ∧
      lookups.toSource.analyze.value = .ok lookups := by
  have hne : ∀ e ∈ lookups.expressions, ¬ e.IsEmptyArray := by decide
  exact ⟨wellFormed_lookups, hne, analyze_toSource wellFormed_lookups hne⟩

end Typed.Program

end Yuyan
