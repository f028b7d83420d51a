import Yuyan.Proofs.Elaboration.Statements
import Yuyan.Proofs.Typed.WellTyped

/-!
# Elaborated programs are well typed

Whatever surroundings a type was expected from, every rule of elaboration gives a node
the type that its parts call for. The rules that look at the surroundings are those for
texts and for arrays without elements, and the one for equalities, which makes a
character of a left operand that is elaborated already: a literal has its own type
either way, and an array without elements has any.
-/

namespace Yuyan

open Typed (Expr)

/-! ### Expressions -/

/-- A text that is made a character is as well typed as it was. -/
theorem Typed.Expr.WellTyped.asChar {e : Expr} (h : e.WellTyped) : e.asChar.WellTyped := by
  unfold Expr.asChar
  split
  · split
    · exact .lit
    · exact h
  · exact h

mutual

theorem Elaborates.wellTyped {scope : Scope} : ∀ {x : Option Ty} {e : Source.Expr} {e' : Expr},
    Elaborates scope x e e' → e'.WellTyped
  | _, _, _, .int | _, _, _, .float | _, _, _, .bool | _, _, _, .char => .lit
  | _, _, _, .text _ | _, _, _, .character _ => .lit
  | _, _, _, .name _ => .var
  | _, _, _, .paren he => he.wellTyped
  | _, _, _, .unary he ht => .unary he.wellTyped ht
  | _, _, _, .equalityRight _ _ hr hl ht => .binary hl.wellTyped hr.wellTyped ht
  | _, _, _, .equality _ _ hl hr ht => by
    refine .binary ?_ hr.wellTyped ht
    split
    · exact hl.wellTyped.asChar
    · exact hl.wellTyped
  | _, _, _, .binary _ hl hr ht => .binary hl.wellTyped hr.wellTyped ht
  | _, _, _, .emptyArray => .array (by simp) (by simp)
  | _, _, _, .array he hes => by
    refine .array ?_ ?_
    · exact List.forall_mem_cons.2 ⟨he.wellTyped, fun e h => (hes.wellTyped e h).1⟩
    · exact List.forall_mem_cons.2 ⟨rfl, fun e h => (hes.wellTyped e h).2⟩
  | _, _, _, .index ha hat hi hit _ => .index ha.wellTyped hi.wellTyped hat hit

theorem ElaboratesElements.wellTyped {scope : Scope} :
    ∀ {t : Ty} {es : List Source.Expr} {es' : List Expr},
      ElaboratesElements scope t es es' → ∀ e ∈ es', e.WellTyped ∧ e.ty = t
  | _, _, _, .nil => by simp
  | _, _, _, .cons he ht hes => List.forall_mem_cons.2 ⟨⟨he.wellTyped, ht⟩, hes.wellTyped⟩

end

/-! ### Statements -/

mutual

theorem ElaboratesStmt.wellTyped : ∀ {c : Context} {s : Source.Stmt} {s' : Typed.Stmt},
    ElaboratesStmt c s s' → s'.WellTyped
  | _, _, _, .decl he ht _ => .decl rfl he.wellTyped ht
  | _, _, _, .assign _ he ht => .assign he.wellTyped ht
  | _, _, _, .print he => .print he.wellTyped
  | _, _, _, .loop he ht hss => .loop he.wellTyped ht hss.wellTyped
  | _, _, _, .condOnly he ht hss => .cond he.wellTyped ht hss.wellTyped (by simp)
  | _, _, _, .condElse he ht hss hus => by
    refine .cond he.wellTyped ht hss.wellTyped ?_
    rintro _ ⟨⟩
    exact hus.wellTyped
  | _, _, _, .skip => .skip
  | _, _, _, .ret _ he => .ret he.wellTyped

theorem ElaboratesAll.wellTyped : ∀ {c : Context} {ss : List Source.Stmt} {ss' : List Typed.Stmt},
    ElaboratesAll c ss ss' → ∀ s ∈ ss', s.WellTyped
  | _, _, _, .nil => by simp
  | _, _, _, .cons hs hss => List.forall_mem_cons.2 ⟨hs.wellTyped, hss.wellTyped⟩

end

/-- A return is not at the top level. -/
theorem ElaboratesStmt.not_isReturn {c : Context} {s : Source.Stmt} {s' : Typed.Stmt}
    (h : ElaboratesStmt c s s') (hc : c.scope.isRoot = true) : ¬ s'.IsReturn := by
  cases h with
  | ret inside => rw [hc] at inside; cases inside
  | _ => exact id

theorem ElaboratesAll.not_isReturn {c : Context} {ss : List Source.Stmt} {ss' : List Typed.Stmt}
    (h : ElaboratesAll c ss ss') (hc : c.scope.isRoot = true) : ∀ s ∈ ss', ¬ s.IsReturn := by
  induction ss' generalizing c ss with
  | nil => simp
  | cons s' ss' ih =>
    cases h with
    | cons hs hss =>
      -- no statement opens or closes a scope for those after it
      have hc' : (c.after s').scope.isRoot = true := by rw [Context.isRoot_after, hc]
      exact List.forall_mem_cons.2 ⟨hs.not_isReturn hc, ih hss hc'⟩

/-! ### Programs -/

namespace Source.Program

/-- **An accepted program is well typed** at every depth, none of its returns stands at
the top level, and no text literal stands where a character is called for. -/
theorem wellTyped_of_analyze {u : Source.Program} {p : Typed.Program}
    (h : u.analyze.value = .ok p) :
    p.WellTyped ∧ (∀ s ∈ p.statements, ¬ s.IsReturn) ∧
      ∀ e ∈ p.expressions, e.WellTyped ∧ (e.ty = .char → ∀ t, e.literal? ≠ some (.string t)) := by
  obtain ⟨h, -⟩ := analyze_eq_ok_iff.1 h
  have hw : p.WellTyped := h.wellTyped
  refine ⟨hw, h.not_isReturn rfl, ?_⟩
  intro e he
  have hwe : e.WellTyped :=
    Typed.forall_mem_expressionsOfAll.2 (fun s hs => (hw s hs).expressions) e he
  refine ⟨hwe, fun hc t ht => ?_⟩
  have hs : e.ty = .string := hwe.ty_of_literal? ht
  rw [hc] at hs
  cases hs

/-- Texts that stand for characters beside a character in an array, before one in an
equality and inside nested arrays, and arrays without elements on either side. -/
def spelling : Source.Program :=
  let xs : Source.Expr := .name "xs" {}
  ⟨[.decl (.array (.char {}) {}) ⟨"xs", {}⟩ (.array [.char 'a' {}, .string "b" {}] {}) {},
    .decl (.array (.array (.char {}) {}) {}) ⟨"yss", {}⟩
      (.array [.array [.string "c" {}] {}, .array [] {}] {}) {},
    .loop .whileLoop (.binary .eq (.string "a" {}) (.index xs (.int 0 {}) {}) {})
      (.mk [.cond (.binary .ne (.array [] {}) xs {}) (.mk [.ret (.string "d" {}) {}] {}) none {}]
        {}) {}], {}⟩

/-- What becomes of it. -/
def typedSpelling : Typed.Program :=
  let char (c : Char) : Typed.Expr := .ofLiteral (.char c) {}
  let xs : Variable := ⟨"xs", .array .char, 1⟩
  let yss : Variable := ⟨"yss", .array (.array .char), 2⟩
  ⟨[.decl xs.ty xs (.array [char 'a', char 'b'] xs.ty {}) {},
    .decl yss.ty yss (.array [.array [char 'c'] xs.ty {}, .array [] xs.ty {}] yss.ty {}) {},
    .loop .whileLoop
      (.binary .eq (char 'a') (.index (.ofVariable xs {}) (.ofLiteral (.int 0) {}) .char {})
        .boolean {})
      [.cond (.binary .ne (.array [] xs.ty {}) (.ofVariable xs {}) .boolean {})
        [.ret (.ofLiteral (.string "d") {}) {}] none {}] {}], {}⟩

theorem wellTyped_spelling :
    spelling.analyze.value = .ok typedSpelling ∧ typedSpelling.WellTyped ∧
      (∀ s ∈ typedSpelling.statements, ¬ s.IsReturn) ∧
      ∀ e ∈ typedSpelling.expressions,
        e.WellTyped ∧ (e.ty = .char → ∀ t, e.literal? ≠ some (.string t)) := by
  have h : spelling.analyze.value = .ok typedSpelling := rfl
  exact ⟨h, wellTyped_of_analyze h⟩

end Source.Program

end Yuyan
