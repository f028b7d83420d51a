import Yuyan.Proofs.Elaboration.Names

/-!
# Scopes as a stack of tables

The open scopes are a stack of tables, one for each scope, into which declarations are
written one after the other. A declaration is refused if any table has its name; closing a
scope throws its table away, and is refused at the top level. `Tables` are such a stack,
with nothing else to them, and whatever is asked of the open scopes in whatever order,
the tables are asked with the same success and stay the same (`tables_afterAll`).

A name is looked up from the inside out, and the first variable found is taken. The tables
have no such order: a name means the variable that stands under it in any table. It is the
same because no name stands twice (`Scope.Distinct`), which every call keeps.

What is done between entering a scope and leaving it again concerns the scopes around it
only as far as it looks at them: whatever it declares is gone with the scope it was
declared in (`afterAll_of_balanced`).
-/

namespace Yuyan.Scope

/-! ### Calls -/

/-- What is asked of the open scopes. -/
inductive Call where
  | declare (v : Variable) (span : Span)
  | enter
  | leave
  deriving DecidableEq

/-- The open scopes after a call, unless it is refused. -/
def call? (s : Scope) : Call → Option Scope
  | .declare v span => (s.declare v span).toOption
  | .enter => some s.enter
  | .leave => s.leave?

/-- The open scopes after a call. One that is refused changes nothing. -/
def after (s : Scope) (c : Call) : Scope := (s.call? c).getD s

/-- The open scopes after calls in order. -/
def afterAll (s : Scope) (cs : List Call) : Scope := cs.foldl after s

/-- How many of the calls close a scope, from the open scopes `s` on. -/
def closings (s : Scope) : List Call → Nat
  | [] => 0
  | c :: cs => (if c = .leave ∧ (s.call? c).isSome then 1 else 0) + (s.after c).closings cs

/-- A declaration is accepted exactly where its name is not visible. -/
theorem call?_declare (s : Scope) (v : Variable) (span : Span) :
    s.call? (.declare v span) =
      if s.isVisible v.name then none else some ⟨v :: s.locals, s.enclosing⟩ := by
  rw [call?, Scope.declare]
  split <;> rfl

theorem after_declare (s : Scope) (v : Variable) (span : Span) :
    s.after (.declare v span) =
      if s.isVisible v.name then s else ⟨v :: s.locals, s.enclosing⟩ := by
  rw [after, call?_declare]
  split <;> rfl

theorem after_leave_of_eq_some {s s' : Scope} (h : s.leave? = some s') : s.after .leave = s' := by
  rw [after, call?, h, Option.getD_some]

/-- Only the top level cannot be left. -/
theorem leave?_eq_none_iff {s : Scope} : s.leave? = none ↔ s.isRoot = true := by
  rcases s with ⟨locals, enclosing⟩
  cases enclosing with
  | nil => exact iff_of_true rfl rfl
  | cons table enclosing => exact iff_of_false nofun nofun

theorem afterAll_append (s : Scope) (cs ds : List Call) :
    s.afterAll (cs ++ ds) = (s.afterAll cs).afterAll ds :=
  List.foldl_append

/-! ### Tables -/

/-- The variables of each open scope, from the inside out, and in each scope as they were
declared. -/
abbrev Tables := List (List Variable)

namespace Tables

/-- The table of the top level before anything is declared. -/
def root : Tables := [[]]

/-- Whether a table has a name. -/
def knows (t : Tables) (name : String) : Bool := t.any fun table => table.any (·.name == name)

/-- The tables after a call, unless it is refused. -/
def call? (t : Tables) : Call → Option Tables
  | .declare v _ => if t.knows v.name then none else some (t.modifyHead (· ++ [v]))
  | .enter => some ([] :: t)
  | .leave =>
    match t with
    | _ :: table :: around => some (table :: around)
    | _ => none

/-- The tables after a call. One that is refused changes nothing. -/
def after (t : Tables) (c : Call) : Tables := (t.call? c).getD t

/-- The tables after calls in order. -/
def afterAll (t : Tables) (cs : List Call) : Tables := cs.foldl after t

end Tables

/-- The tables of the open scopes. -/
def tables (s : Scope) : Tables := (s.locals :: s.enclosing).map List.reverse

theorem mem_tables_iff {s : Scope} {v : Variable} :
    (∃ table ∈ s.tables, v ∈ table) ↔ v ∈ s.visible := by
  simp only [tables, visible, ← List.flatten_cons, List.mem_flatten, List.mem_map]
  constructor
  · rintro ⟨_, ⟨table, ht, rfl⟩, hv⟩
    exact ⟨table, ht, List.mem_reverse.1 hv⟩
  · rintro ⟨table, ht, hv⟩
    exact ⟨_, ⟨table, ht, rfl⟩, List.mem_reverse.2 hv⟩

theorem knows_tables (s : Scope) (name : String) : s.tables.knows name = s.isVisible name := by
  rw [Bool.eq_iff_iff, isVisible_iff]
  simp only [Tables.knows, List.any_eq_true, beq_iff_eq]
  constructor
  · rintro ⟨table, ht, v, hv, hn⟩
    exact ⟨v, mem_tables_iff.1 ⟨table, ht, hv⟩, hn⟩
  · rintro ⟨v, hv, hn⟩
    obtain ⟨table, ht, hv⟩ := mem_tables_iff.2 hv
    exact ⟨table, ht, v, hv, hn⟩

/-- The tables accept the calls that the open scopes accept, and stay their tables. -/
theorem call?_tables (s : Scope) (c : Call) : s.tables.call? c = (s.call? c).map tables := by
  cases c with
  | declare v span =>
    rw [call?_declare, Tables.call?, knows_tables]
    split
    · rfl
    · simp [tables]
  | enter => rfl
  | leave =>
    rcases s with ⟨locals, enclosing⟩
    cases enclosing <;> rfl

theorem tables_after (s : Scope) (c : Call) : (s.after c).tables = s.tables.after c := by
  rw [Tables.after, call?_tables, after]
  cases s.call? c <;> rfl

/-- Whatever is called, the tables stay those of the open scopes. -/
theorem tables_afterAll (s : Scope) (cs : List Call) :
    (s.afterAll cs).tables = s.tables.afterAll cs := by
  induction cs generalizing s with
  | nil => rfl
  | cons c cs ih =>
    have h := ih (s.after c)
    rwa [tables_after] at h

/-! ### One variable for a name -/

/-- What is looked up is the only visible variable of its name. -/
theorem Distinct.lookup?_eq_some_iff {s : Scope} (h : s.Distinct) {name : String} {v : Variable} :
    s.lookup? name = some v ↔ v ∈ s.visible ∧ v.name = name := by
  constructor
  · exact mem_visible_of_lookup?
  · rintro ⟨hv, rfl⟩
    have hx : s.isVisible v.name = true := isVisible_iff.2 ⟨v, hv, rfl⟩
    obtain ⟨x, hx⟩ := Option.isSome_iff_exists.1 hx
    -- the variable found and `v` are both all there is under the name
    have hv' := filter_eq_of_nodup_map h hv
    have hx' := h.filter_eq hx
    rw [(mem_visible_of_lookup? hx).2, hv'] at hx'
    rw [hx, List.singleton_inj.1 hx']

/-- No call makes a name visible twice. -/
theorem Distinct.after {s : Scope} (h : s.Distinct) (c : Call) : (s.after c).Distinct := by
  cases c with
  | declare v span =>
    rw [after_declare]
    split
    · exact h
    · rename_i hv
      have hv := isVisible_eq_false_iff.1 (Bool.eq_false_iff.2 hv)
      refine List.nodup_cons.2 ⟨fun hm => ?_, h⟩
      obtain ⟨x, hx, hn⟩ := List.mem_map.1 hm
      exact hv x hx hn
  | enter => exact h
  | leave =>
    rcases s with ⟨locals, enclosing⟩
    cases enclosing with
    | nil => exact h
    | cons table enclosing =>
      have hs : (table ++ enclosing.flatten).Sublist (locals ++ (table ++ enclosing.flatten)) :=
        List.sublist_append_right _ _
      exact h.sublist (hs.map Variable.name)

theorem Distinct.afterAll {s : Scope} (h : s.Distinct) (cs : List Call) :
    (s.afterAll cs).Distinct := by
  induction cs generalizing s with
  | nil => exact h
  | cons c cs ih => exact ih (h.after c)

/-! ### Depth -/

/-- A scope that is entered lies one deeper, until it is left. -/
theorem depth_after (s : Scope) (c : Call) :
    (s.after c).depth + (if c = .leave ∧ (s.call? c).isSome then 1 else 0) =
      s.depth + if c = .enter then 1 else 0 := by
  cases c with
  | declare v span =>
    rw [after_declare]
    split <;> rfl
  | enter => rfl
  | leave =>
    rcases s with ⟨locals, enclosing⟩
    cases enclosing <;> rfl

/-- The depth is the number of scopes that were entered and not left. -/
theorem depth_afterAll (s : Scope) (cs : List Call) :
    (s.afterAll cs).depth + s.closings cs = s.depth + cs.count .enter := by
  induction cs generalizing s with
  | nil => rfl
  | cons c cs ih =>
    have hc := depth_after s c
    have hcs := ih (s.after c)
    simp only [afterAll, List.foldl_cons, closings, List.count_cons, beq_iff_eq] at hcs ⊢
    omega

/-! ### Bodies -/

/-- Calls in which every scope that is entered is left, and no other one is. -/
inductive Balanced : List Call → Prop where
  | nil : Balanced []
  | declare {v : Variable} {span : Span} {cs : List Call} (rest : Balanced cs) :
      Balanced (.declare v span :: cs)
  | body {inner cs : List Call} (inside : Balanced inner) (rest : Balanced cs) :
      Balanced (.enter :: (inner ++ .leave :: cs))

/-- Balanced calls leave nothing but declarations in the innermost scope. -/
theorem afterAll_of_balanced {cs : List Call} (h : Balanced cs) (s : Scope) :
    ∃ new, s.afterAll cs = ⟨new ++ s.locals, s.enclosing⟩ := by
  induction h generalizing s with
  | nil => exact ⟨[], rfl⟩
  | @declare v span cs _ ih =>
    obtain ⟨new, hn⟩ := ih (s.after (.declare v span))
    rw [afterAll, List.foldl_cons]
    rw [afterAll] at hn
    rw [hn, after_declare]
    split
    · exact ⟨new, rfl⟩
    · exact ⟨new ++ [v], by rw [List.append_assoc, List.singleton_append]⟩
  | @body inner cs _ _ ihi ih =>
    obtain ⟨gone, hg⟩ := ihi s.enter
    obtain ⟨new, hn⟩ := ih s
    refine ⟨new, ?_⟩
    -- leaving throws away `gone`, and there is nothing else to restore
    have hl : (s.enter.afterAll inner).after .leave = s := by
      rw [hg]
      rfl
    calc s.afterAll (.enter :: (inner ++ .leave :: cs))
        = s.enter.afterAll (inner ++ .leave :: cs) := rfl
      _ = ((s.enter.afterAll inner).after .leave).afterAll cs := afterAll_append _ _ _
      _ = ⟨new ++ s.locals, s.enclosing⟩ := by rw [hl, hn]

/-- A scope that is entered can be left after balanced calls, and nothing of it stays. -/
theorem leave?_afterAll_of_balanced {cs : List Call} (h : Balanced cs) (s : Scope) :
    (s.enter.afterAll cs).leave? = some s := by
  obtain ⟨new, hn⟩ := afterAll_of_balanced h s.enter
  rw [hn]
  rfl

/-! ### Any calls -/

/-- The open scopes `s` behave as the tables `t`. -/
structure Follows (s : Scope) (t : Tables) : Prop where
  /-- A name is looked up as the variable that stands under it in some table. -/
  lookup : ∀ name v, s.lookup? name = some v ↔ ∃ table ∈ t, v ∈ table ∧ v.name = name
  /-- No name stands twice, be it in one scope or in two. -/
  distinct : s.Distinct
  /-- The same calls are accepted. -/
  accepts : ∀ c, (s.call? c).isSome = (t.call? c).isSome
  /-- A name can be declared where it is not visible. -/
  declares : ∀ v span, (s.call? (.declare v span)).isSome = !s.isVisible v.name
  /-- A declaration that is refused changes nothing. -/
  redeclares : ∀ v span, s.isVisible v.name = true → s.after (.declare v span) = s
  /-- The top level lies in no scope. -/
  isRoot : s.isRoot = true ↔ s.depth = 0
  /-- The top level cannot be left, and trying to changes nothing. -/
  root : s.isRoot = true → s.leave? = none ∧ s.after .leave = s
  /-- A scope that is entered can be left after any balanced calls, and all is as before. -/
  body : ∀ inner, Balanced inner →
    ((s.after .enter).afterAll inner).leave? = some s ∧
      s.afterAll (.enter :: (inner ++ [.leave])) = s

/-- **The open scopes are a stack of tables**: after any calls they behave as the tables do
after the same calls, and they are as deep as the number of scopes entered less the number
of scopes left. -/
theorem follows_afterAll_root (cs : List Call) :
    (root.afterAll cs).Follows (Tables.root.afterAll cs) ∧
      (root.afterAll cs).depth + root.closings cs = cs.count .enter := by
  have ht : (root.afterAll cs).tables = Tables.root.afterAll cs := tables_afterAll root cs
  have hr : root.Distinct := List.nodup_nil
  have hd : (root.afterAll cs).Distinct := hr.afterAll cs
  have depth : (root.afterAll cs).depth + root.closings cs = cs.count .enter := by
    rw [depth_afterAll]
    exact Nat.zero_add _
  generalize root.afterAll cs = s at ht hd depth
  rw [← ht]
  refine ⟨?_, depth⟩
  exact {
    lookup := fun name v => by
      rw [hd.lookup?_eq_some_iff, ← mem_tables_iff]
      simp only [← and_assoc, exists_and_right]
    distinct := hd
    accepts := fun c => by rw [call?_tables, Option.isSome_map]
    declares := fun v span => by
      rw [call?_declare]
      cases s.isVisible v.name <;> rfl
    redeclares := fun v span h => by rw [after_declare, if_pos h]
    isRoot := isRoot_iff
    root := fun h => by
      have hl : s.leave? = none := leave?_eq_none_iff.2 h
      exact ⟨hl, by rw [after, call?, hl, Option.getD_none]⟩
    body := fun inner h => by
      have hl : (s.enter.afterAll inner).leave? = some s := leave?_afterAll_of_balanced h s
      exact ⟨hl, (afterAll_append s.enter inner [.leave]).trans (after_leave_of_eq_some hl)⟩ }

end Yuyan.Scope

/-! ### The calls of an analysis -/

namespace Yuyan.Analysis

/-- Declaring a variable is one call, whether it is accepted or not. -/
theorem scope_declare (target : Source.Ident) (t : Ty) (c : Context) :
    (declare target t c).context.scope =
      c.scope.after (.declare ⟨target.name, t, c.declared + 1⟩ target.span) := by
  rw [declare, Scope.after, Scope.call?]
  cases c.scope.declare ⟨target.name, t, c.declared + 1⟩ target.span <;> rfl

/-- A body is analyzed between a scope entered and that scope left. -/
theorem scope_inBody {α : Type} (body : Analysis α) (c : Context) :
    (inBody body c).context.scope =
      (body { c with scope := c.scope.after .enter }).context.scope.after .leave := rfl

end Yuyan.Analysis
