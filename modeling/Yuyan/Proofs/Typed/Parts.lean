import Yuyan.Proofs.Typed.Visibility
import Yuyan.Proofs.Typed.WellTyped

/-!
# The statements inside a statement

Loops and choices have statements inside them, at any depth. `Stmt.parts` lists them
with the statement itself, in program order.
-/

namespace Yuyan.Typed

mutual

/-- A statement and all statements inside it. -/
def Stmt.parts : Stmt → List Stmt
  | s@(.loop _ _ body _) => s :: partsOfAll body
  | s@(.cond _ consequent none _) => s :: partsOfAll consequent
  | s@(.cond _ consequent (some alternate) _) =>
    s :: (partsOfAll consequent ++ partsOfAll alternate)
  | s@(.decl ..) | s@(.assign ..) | s@(.print ..) | s@(.skip _) | s@(.ret ..) => [s]
termination_by structural s => s

/-- The parts of each statement in turn. -/
def partsOfAll : List Stmt → List Stmt
  | [] => []
  | s :: ss => s.parts ++ partsOfAll ss
termination_by structural ss => ss

end

/-- All statements of a program, at any depth. -/
def Program.parts (p : Program) : List Stmt := partsOfAll p.statements

theorem Stmt.parts_cond (test : Expr) (c : List Stmt) (a : Option (List Stmt)) (s : Span) :
    (cond test c a s).parts = cond test c a s :: (partsOfAll c ++ partsOfAll (a.getD [])) := by
  cases a with
  | none => rw [parts, Option.getD_none, partsOfAll, List.append_nil]
  | some a => rfl

theorem partsOfAll_append (ss us : List Stmt) :
    partsOfAll (ss ++ us) = partsOfAll ss ++ partsOfAll us := by
  induction ss with
  | nil => rfl
  | cons s ss ih => rw [List.cons_append, partsOfAll, partsOfAll, ih, List.append_assoc]

theorem partsOfAll_singleton (s : Stmt) : partsOfAll [s] = s.parts := List.append_nil _

theorem forall_mem_partsOfAll {P : Stmt → Prop} {ss : List Stmt} :
    (∀ s ∈ partsOfAll ss, P s) ↔ ∀ s ∈ ss, ∀ s' ∈ s.parts, P s' := by
  induction ss with
  | nil => simp [partsOfAll]
  | cons s ss ih => rw [partsOfAll, List.forall_mem_append, ih, List.forall_mem_cons]

/-! ### What holds of all parts -/

/-- The variable that the statement declares. -/
def Stmt.declared? : Stmt → Option Variable
  | .decl _ x _ _ => some x
  | _ => none

mutual

/-- The declarations in a statement are those of its parts. -/
theorem Stmt.declarations_eq_filterMap : ∀ s : Stmt,
    s.declarations = s.parts.filterMap Stmt.declared?
  | .decl .. | .assign .. | .print .. | .skip _ | .ret .. => rfl
  | .loop _ _ body _ => by
    rw [Stmt.declarations, Stmt.parts, List.filterMap_cons_none rfl,
      declarationsOfAll_eq_filterMap body]
  | .cond _ c none _ => by
    rw [Stmt.declarations, Stmt.parts, List.filterMap_cons_none rfl,
      declarationsOfAll_eq_filterMap c]
  | .cond _ c (some a) _ => by
    rw [Stmt.declarations, Stmt.parts, List.filterMap_cons_none rfl, List.filterMap_append,
      declarationsOfAll_eq_filterMap c, declarationsOfAll_eq_filterMap a]
termination_by structural s => s

theorem declarationsOfAll_eq_filterMap : ∀ ss : List Stmt,
    declarationsOfAll ss = (partsOfAll ss).filterMap Stmt.declared?
  | [] => rfl
  | s :: ss => by
    rw [declarationsOfAll, partsOfAll, List.filterMap_append, Stmt.declarations_eq_filterMap s,
      declarationsOfAll_eq_filterMap ss]
termination_by structural ss => ss

end

/-- The expression that stands in the statement itself, outside of its bodies. -/
def Stmt.own? : Stmt → Option Expr
  | .decl _ _ e _ | .assign _ e _ | .print e _ | .loop _ e _ _ | .cond e _ _ _ | .ret e _ => some e
  | .skip _ => none

mutual

/-- The expressions in a statement are those inside the own expressions of its parts. -/
theorem Stmt.expressions_eq_flatMap_own? : ∀ s : Stmt,
    s.expressions = (s.parts.filterMap Stmt.own?).flatMap Expr.nodes
  | .decl .. | .assign .. | .print .. | .ret .. => (List.append_nil _).symm
  | .skip _ => rfl
  | .loop _ _ body _ => by
    simp only [Stmt.expressions, Stmt.parts, Stmt.own?, List.filterMap_cons, List.flatMap_cons,
      expressionsOfAll_eq_flatMap_own? body]
  | .cond _ c none _ => by
    simp only [Stmt.expressions, Stmt.parts, Stmt.own?, List.filterMap_cons, List.flatMap_cons,
      expressionsOfAll_eq_flatMap_own? c]
  | .cond _ c (some a) _ => by
    simp only [Stmt.expressions, Stmt.parts, Stmt.own?, List.filterMap_cons, List.flatMap_cons,
      List.filterMap_append, List.flatMap_append, expressionsOfAll_eq_flatMap_own? c,
      expressionsOfAll_eq_flatMap_own? a]
termination_by structural s => s

theorem expressionsOfAll_eq_flatMap_own? : ∀ ss : List Stmt,
    expressionsOfAll ss = ((partsOfAll ss).filterMap Stmt.own?).flatMap Expr.nodes
  | [] => rfl
  | s :: ss => by
    rw [expressionsOfAll, partsOfAll, List.filterMap_append, List.flatMap_append,
      Stmt.expressions_eq_flatMap_own? s, expressionsOfAll_eq_flatMap_own? ss]
termination_by structural ss => ss

end

theorem mem_expressionsOfAll_iff {ss : List Stmt} {n : Expr} :
    n ∈ expressionsOfAll ss ↔ ∃ s ∈ partsOfAll ss, ∃ e ∈ s.own?, n ∈ e.nodes := by
  rw [expressionsOfAll_eq_flatMap_own?]
  simp only [List.mem_flatMap, List.mem_filterMap, Option.mem_def]
  constructor
  · rintro ⟨e, ⟨s, hs, he⟩, hn⟩
    exact ⟨s, hs, e, he, hn⟩
  · rintro ⟨s, hs, e, he, hn⟩
    exact ⟨e, ⟨s, hs, he⟩, hn⟩

/-- The parts of a well-typed statement are well typed. -/
theorem Stmt.WellTyped.parts {s : Stmt} (h : s.WellTyped) : ∀ s' ∈ s.parts, s'.WellTyped := by
  induction h with
  | loop ht hb hss ih =>
    rw [Stmt.parts, List.forall_mem_cons, forall_mem_partsOfAll]
    exact ⟨.loop ht hb hss, ih⟩
  | @cond _ _ a _ ht hb hc ha ihc iha =>
    rw [parts_cond, List.forall_mem_cons, List.forall_mem_append, forall_mem_partsOfAll,
      forall_mem_partsOfAll]
    refine ⟨.cond ht hb hc ha, ihc, ?_⟩
    cases a with
    | none => exact List.forall_mem_nil _
    | some a => exact iha a rfl
  | decl hd he ht => exact List.forall_mem_singleton.2 (.decl hd he ht)
  | assign he ht => exact List.forall_mem_singleton.2 (.assign he ht)
  | print he => exact List.forall_mem_singleton.2 (.print he)
  | skip => exact List.forall_mem_singleton.2 .skip
  | ret he => exact List.forall_mem_singleton.2 (.ret he)

theorem Program.WellTyped.parts {p : Program} (h : p.WellTyped) : ∀ s ∈ p.parts, s.WellTyped :=
  forall_mem_partsOfAll.2 fun s hs => (h s hs).parts

end Yuyan.Typed
