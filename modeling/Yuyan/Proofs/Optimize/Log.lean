import Yuyan.Proofs.Optimize.Constants
import Yuyan.Proofs.Optimize.Size

/-!
# What the optimizer tells

Besides the rewrites of operators the log of the optimizer tells of two things, that an
assignment was removed and that a choice was replaced. Each of these events belongs to one
statement of the program, in a branch that is left out as well as elsewhere
(`Stmt.notice?`, `Stmt.countP_optimize`).

The numbers in the last line are not taken from the log. They are what two counters come to that
are carried through the run beside it, also through the branches that are left out. A step whose
counters go up by as much as there are events of their kind `Tallies`, and this is kept when
steps are put together (`Sweep.Tallies.bind`). So the last line tells how many of the lines
before it there are of each kind (`counters_optimizeAll`), and how many statements made way.

With the account of sizes this is all there is to say about a run (`Program.size_optimize`):
nothing is changed without being told, and whatever is told has made the program smaller.
-/

namespace Yuyan

/-- A statement was removed. -/
def Event.isRemoval : Event → Bool
  | removedSelfAssignment _ => true
  | _ => false

/-- A choice was replaced by one of its branches. -/
def Event.isPruning : Event → Bool
  | keptConsequent | keptAlternate => true
  | _ => false

/-- An operator made way for something simpler. -/
def Event.isRewrite : Event → Bool
  | folded .. | foldedUnary .. | droppedIdentity _ | negated | collapsed .. => true
  | _ => false

theorem Event.isRemoval_of_isRewrite {event : Event} (h : event.isRewrite = true) :
    event.isRemoval = false := by
  cases event <;> first | rfl | cases h

theorem Event.isPruning_of_isRewrite {event : Event} (h : event.isRewrite = true) :
    event.isPruning = false := by
  cases event <;> first | rfl | cases h

/-- Among rewrites of operators there are no events of another kind. -/
theorem Event.countP_eq_zero_of_isRewrite {kind : Event → Bool} {events : List Event}
    (hk : ∀ event, event.isRewrite = true → kind event = false)
    (h : ∀ event ∈ events, event.isRewrite = true) : events.countP kind = 0 := by
  rw [List.countP_eq_zero]
  intro event he
  rw [hk event (h event he)]
  exact Bool.false_ne_true

namespace Typed

/-! ### Expressions -/

namespace Expr

section Operators

variable (op : BinOp) (l r e : Expr) (t : Ty) (s : Span)

theorem isRewrite_reduceUnary (op : UnOp) :
    ∀ event ∈ (reduceUnary op e t s).events, event.isRewrite = true := by
  unfold reduceUnary
  split
  · split <;> simp [Event.isRewrite]
  · simp

theorem isRewrite_collapse (value : Option Literal) :
    ∀ event ∈ (collapse op value l r t s).events, event.isRewrite = true := by
  cases value <;> simp [collapse, Event.isRewrite]

theorem isRewrite_applyIdentity :
    ∀ event ∈ (applyIdentity op l r t s).events, event.isRewrite = true := by
  unfold applyIdentity
  split
  · simp
  · split <;> simp [Event.isRewrite]
  · split <;> simp [Event.isRewrite]
  · split
    · exact List.forall_mem_cons.2 ⟨rfl, isRewrite_reduceUnary r t s .neg⟩
    · simp
  · exact isRewrite_collapse op l r t s _
  · exact isRewrite_collapse op l r t s _

theorem isRewrite_reduceBinary :
    ∀ event ∈ (reduceBinary op l r t s).events, event.isRewrite = true := by
  unfold reduceBinary
  split
  · split <;> simp [Event.isRewrite]
  · exact isRewrite_applyIdentity op l r t s

end Operators

theorem mem_events_optimizeElements {es : List Expr} {event : Event} :
    event ∈ (optimizeElements es).events ↔ ∃ e ∈ es, event ∈ e.optimize.events := by
  induction es with
  | nil => simp [optimizeElements]
  | cons e es ih => simp [optimizeElements, ih]

theorem events_optimize_array (es : List Expr) (t : Ty) (s : Span) :
    (array es t s).optimize.events = (optimizeElements es).events := List.append_nil _

theorem events_optimize_index (a i : Expr) (t : Ty) (s : Span) :
    (index a i t s).optimize.events = a.optimize.events ++ i.optimize.events :=
  congrArg (a.optimize.events ++ ·) (List.append_nil _)

/-- In an expression, nothing but operators is rewritten. -/
theorem isRewrite_optimize (e : Expr) : ∀ event ∈ e.optimize.events, event.isRewrite = true := by
  induction e with
  | lit | var => exact List.forall_mem_nil _
  | unary op e t s ih =>
    rw [events_optimize_unary, List.forall_mem_append]
    exact ⟨ih, isRewrite_reduceUnary _ t s op⟩
  | binary op l r t s ihl ihr =>
    rw [events_optimize_binary, List.forall_mem_append, List.forall_mem_append]
    exact ⟨ihl, ihr, isRewrite_reduceBinary op _ _ t s⟩
  | array es t s ih =>
    intro event h
    rw [events_optimize_array, mem_events_optimizeElements] at h
    obtain ⟨e, he, h⟩ := h
    exact ih e he event h
  | index a i t s iha ihi =>
    rw [events_optimize_index, List.forall_mem_append]
    exact ⟨iha, ihi⟩

end Expr

/-! ### Statements -/

namespace Stmt

/-- What the log tells of a statement itself, apart from what is inside it. -/
def notice? : Stmt → Option Event
  | assign x e _ =>
    if e.optimize.value.target? = some x then some (.removedSelfAssignment x.name) else none
  | cond test _ _ _ =>
    (test.optimize.value.literal?.bind Literal.bool?).map fun b =>
      if b then .keptConsequent else .keptAlternate
  | _ => none

theorem events_optimize_assign (x : Variable) (e : Expr) (s : Span) :
    (assign x e s).optimize.events = e.optimize.events ++ (assign x e s).notice?.toList := by
  show e.optimize.events ++ (reduceAssign x e.optimize.value s).events = _
  congr 1
  unfold reduceAssign notice?
  split
  · rename_i h
    rw [h]
    split <;> simp_all [Expr.target?]
  · rename_i h
    have other : e.optimize.value.target? ≠ some x := by
      intro ht
      cases he : e.optimize.value with
      | var y t s => exact h y t s he
      | _ => simp [he, Expr.target?] at ht
    simp [other]

theorem events_optimize_cond (test : Expr) (c : List Stmt) (a : Option (List Stmt)) (s : Span) :
    (cond test c a s).optimize.events = test.optimize.events ++ ((optimizeAll c).events ++
      ((optimizeAll (a.getD [])).events ++ (cond test c a s).notice?.toList)) := by
  have own (c' : List Stmt) (a' : Option (List Stmt)) :
      (reduceCond test.optimize.value c' a' s).events = (cond test c a s).notice?.toList := by
    rw [reduceCond, notice?]
    cases test.optimize.value.literal?.bind Literal.bool? with
    | none => rfl
    | some b => cases b <;> rfl
  rw [← own (optimizeAll c).value (a.map fun ss => (optimizeAll ss).value)]
  cases a <;> rfl

theorem events_optimize_loop (kind : Loop) (test : Expr) (body : List Stmt) (s : Span) :
    (loop kind test body s).optimize.events =
      test.optimize.events ++ (optimizeAll body).events :=
  congrArg (test.optimize.events ++ ·) (List.append_nil _)

end Stmt

theorem events_optimizeAll (ss : List Stmt) :
    (optimizeAll ss).events = ss.flatMap fun s => s.optimize.events := by
  induction ss with
  | nil => rfl
  | cons s ss ih => simp [optimizeAll, ih]

section Counts

variable {kind : Event → Bool}

/-- The events of a kind that the optimizer tells of a statement itself. -/
theorem countP_notice? (s : Stmt) (ss : List Stmt) :
    (s :: ss).countP (fun s => s.notice?.any kind) =
      s.notice?.toList.countP kind + ss.countP fun s => s.notice?.any kind := by
  cases h : s.notice? with
  | none => simp [h]
  | some event => simp [h, List.countP_cons, Nat.add_comm]

theorem countP_optimizeAll {ss : List Stmt}
    (h : ∀ s ∈ ss, s.optimize.events.countP kind = s.parts.countP fun s => s.notice?.any kind) :
    (optimizeAll ss).events.countP kind = (partsOfAll ss).countP fun s => s.notice?.any kind := by
  induction ss with
  | nil => rfl
  | cons s ss ih =>
    rw [List.forall_mem_cons] at h
    have tail := ih h.2
    rw [events_optimizeAll] at tail ⊢
    rw [List.flatMap_cons, List.countP_append, partsOfAll, List.countP_append, h.1, tail]

/-- Events other than rewrites of operators are told of as many statements, at any depth. -/
theorem Stmt.countP_optimize (hk : ∀ event, event.isRewrite = true → kind event = false)
    (s : Stmt) :
    s.optimize.events.countP kind = s.parts.countP fun s => s.notice?.any kind := by
  have rewrites (e : Expr) : e.optimize.events.countP kind = 0 :=
    Event.countP_eq_zero_of_isRewrite hk e.isRewrite_optimize
  induction s with
  | decl t x e s | print e s | ret e s =>
    rw [parts, countP_notice?]
    exact (congrArg _ (List.append_nil _)).trans (rewrites e)
  | assign x e s =>
    rw [events_optimize_assign, List.countP_append, rewrites, parts, countP_notice?]
    simp
  | loop loop test body s ih =>
    rw [events_optimize_loop, List.countP_append, rewrites, countP_optimizeAll ih, parts,
      countP_notice?]
    rfl
  | cond test c a s ihc iha =>
    rw [events_optimize_cond, List.countP_append, List.countP_append, List.countP_append, rewrites,
      countP_optimizeAll ihc, countP_optimizeAll iha, parts_cond, countP_notice?,
      List.countP_append]
    omega
  | skip s => rfl

end Counts

/-! ### Counters -/

/-- The counters after events, each of which is counted if it is of the kind. -/
def Counters.after (c : Counters) (events : List Event) : Counters :=
  ⟨c.removed + events.countP Event.isRemoval, c.pruned + events.countP Event.isPruning⟩

theorem Counters.after_append (c : Counters) (xs ys : List Event) :
    c.after (xs ++ ys) = (c.after xs).after ys := by
  simp only [after, List.countP_append, Nat.add_assoc]

/-- Rewrites of operators are not counted. -/
theorem Counters.after_of_isRewrite {events : List Event}
    (h : ∀ event ∈ events, event.isRewrite = true) (c : Counters) : c.after events = c := by
  have removals : events.countP Event.isRemoval = 0 :=
    Event.countP_eq_zero_of_isRewrite (fun _ => Event.isRemoval_of_isRewrite) h
  have prunings : events.countP Event.isPruning = 0 :=
    Event.countP_eq_zero_of_isRewrite (fun _ => Event.isPruning_of_isRewrite) h
  rw [after, removals, prunings]
  rfl

/-- The counters go up by as much as there are events of their kind. -/
def Sweep.Tallies {α : Type} (x : Sweep α) : Prop := ∀ c, x.counters c = c.after x.events

namespace Sweep

variable {α β : Type}

theorem tallies_pure (a : α) : (pure a : Sweep α).Tallies := fun _ => rfl

theorem Tallies.bind {x : Sweep α} {f : α → Sweep β} (hx : x.Tallies)
    (hf : (f x.value).Tallies) : (x >>= f).Tallies := by
  intro c
  calc (x >>= f).counters c = (f x.value).counters (x.counters c) := rfl
    _ = (c.after x.events).after (f x.value).events := by rw [hx c, hf]
    _ = c.after (x >>= f).events := (c.after_append _ _).symm

end Sweep

open Sweep (tallies_pure)

/-- An expression counts nothing, as only operators are rewritten in it. -/
theorem Expr.tallies_optimize (e : Expr) : (liftM e.optimize : Sweep Expr).Tallies := fun c =>
  (Counters.after_of_isRewrite e.isRewrite_optimize c).symm

namespace Stmt

theorem tallies_reduceAssign (x : Variable) (e : Expr) (s : Span) :
    (reduceAssign x e s).Tallies := by
  unfold reduceAssign
  split
  · split
    · exact fun _ => rfl
    · exact tallies_pure _
  · exact tallies_pure _

theorem tallies_reduceCond (test : Expr) (c : List Stmt) (a : Option (List Stmt)) (s : Span) :
    (reduceCond test c a s).Tallies := by
  unfold reduceCond
  split
  · exact fun _ => rfl
  · exact fun _ => rfl
  · exact tallies_pure _

end Stmt

theorem tallies_optimizeAll {ss : List Stmt} (h : ∀ s ∈ ss, s.optimize.Tallies) :
    (optimizeAll ss).Tallies := by
  induction ss with
  | nil => exact tallies_pure _
  | cons s ss ih =>
    rw [List.forall_mem_cons] at h
    rw [optimizeAll]
    exact h.1.bind ((ih h.2).bind (tallies_pure _))

/-- Whatever becomes of a statement, the events in it are counted. -/
theorem Stmt.tallies_optimize (s : Stmt) : s.optimize.Tallies := by
  induction s with
  | decl t x e s | print e s | ret e s =>
    rw [optimize]
    exact e.tallies_optimize.bind (tallies_pure _)
  | assign x e s =>
    rw [optimize]
    exact e.tallies_optimize.bind (tallies_reduceAssign x _ s)
  | loop kind test body s ih =>
    rw [optimize]
    exact test.tallies_optimize.bind ((tallies_optimizeAll ih).bind (tallies_pure _))
  | cond test c a s ihc iha =>
    cases a with
    | none =>
      rw [optimize]
      exact test.tallies_optimize.bind
        ((tallies_optimizeAll ihc).bind (tallies_reduceCond _ _ none s))
    | some a =>
      rw [optimize]
      exact test.tallies_optimize.bind ((tallies_optimizeAll ihc).bind
        ((tallies_optimizeAll iha).bind (tallies_reduceCond _ _ (some _) s)))
  | skip s => exact tallies_pure _

/-- From `0` on, each counter comes to the number of the events of its kind. -/
theorem counters_optimizeAll (ss : List Stmt) :
    (optimizeAll ss).counters {} = ⟨(optimizeAll ss).events.countP Event.isRemoval,
      (optimizeAll ss).events.countP Event.isPruning⟩ := by
  rw [tallies_optimizeAll fun s _ => s.tallies_optimize, Counters.after, Nat.zero_add,
    Nat.zero_add]

/-! ### Programs -/

namespace Program

theorem events_optimize (p : Program) : p.optimize.events =
    (optimizeAll p.statements).events ++
      [.swept ((optimizeAll p.statements).counters {}).removed
        ((optimizeAll p.statements).counters {}).pruned] := rfl

/-- **Nothing is changed in silence, and nothing grows.** The optimized program is smaller than
the program by at least the number of traced events, and it is the program itself if there is
none. One more event comes last. Its numbers are those of the events that tell of removed
assignments and of replaced choices, one for each such statement of the program. -/
theorem size_optimize (p : Program) :
    p.optimize.value.size + p.optimize.events.countP (·.level = .trace) ≤ p.size ∧
    (p.optimize.events.countP (·.level = .trace) = 0 → p.optimize.value = p) ∧
    ∃ steps removed pruned, p.optimize.events = steps ++ [.swept removed pruned] ∧
      (∀ event ∈ steps, event.level = .trace) ∧
      (removed = steps.countP Event.isRemoval ∧
        removed = p.parts.countP fun s => s.notice?.any Event.isRemoval) ∧
      pruned = steps.countP Event.isPruning ∧
        pruned = p.parts.countP fun s => s.notice?.any Event.isPruning := by
  have account : (optimizeAll p.statements).Shrinks sizeOfAll p.statements :=
    shrinks_optimizeAll fun s _ => s.shrinks_optimize
  have traced : p.optimize.events.countP (·.level = .trace) =
      (optimizeAll p.statements).events.length := by
    rw [events_optimize, List.countP_append, List.countP_eq_length.2]
    · rfl
    · simpa using account.traced
  have told {kind : Event → Bool} (hk : ∀ event, event.isRewrite = true → kind event = false) :
      (optimizeAll p.statements).events.countP kind =
        p.parts.countP fun s => s.notice?.any kind :=
    countP_optimizeAll fun s _ => s.countP_optimize hk
  -- the last line tells the counters, which are carried apart from the lines that they count
  have removed := congrArg Counters.removed (counters_optimizeAll p.statements)
  have pruned := congrArg Counters.pruned (counters_optimizeAll p.statements)
  rw [traced]
  refine ⟨account.size_le, fun h => ?_, _, _, _, p.events_optimize, account.traced,
    ⟨removed, removed.trans (told fun _ => Event.isRemoval_of_isRewrite)⟩,
    pruned, pruned.trans (told fun _ => Event.isPruning_of_isRewrite)⟩
  rw [List.length_eq_zero_iff] at h
  rw [value_optimize, account.unchanged h]

/-- A choice whose test is known, with an assignment in the branch that it does not take:
`int n = 0 - 5; if 1 < 2 { print n } else { n = n + 0 }`. -/
def swept : Program :=
  let int (n : Int64) : Expr := .ofLiteral (.int n) {}
  let n : Variable := ⟨"n", .int, 1⟩
  ⟨[.decl .int n (.binary .sub (int 0) (int 5) .int {}) {},
    .cond (.binary .lt (int 1) (int 2) .boolean {}) [.print (.ofVariable n {}) {}]
      (some [.assign n (.binary .add (.ofVariable n {}) (int 0) .int {}) {}]) {}], {}⟩

/-- Five events take ten nodes and statements away, among them the assignment. The second time
there is nothing to tell. -/
theorem size_optimize_swept :
    (swept.optimize.value.size = 4 ∧ swept.optimize.events.countP (·.level = .trace) = 5 ∧
      swept.size = 14 ∧ 4 + 5 ≤ 14) ∧
    swept.optimize.value.optimize.events.countP (·.level = .trace) = 0 ∧
    swept.optimize.value.optimize.value = swept.optimize.value ∧
    swept.optimize.events.getLast? = some (.swept 1 1) := by
  have quiet : swept.optimize.value.optimize.events.countP (·.level = .trace) = 0 := rfl
  refine ⟨⟨rfl, rfl, rfl, (size_optimize swept).1⟩, quiet, ?_, rfl⟩
  exact (size_optimize swept.optimize.value).2.1 quiet

end Program

end Typed

end Yuyan
