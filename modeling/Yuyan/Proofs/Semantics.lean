import Yuyan.Constant

/-!
# What a typed program does

A reference semantics of typed programs. All variables live in one flat
environment, keyed by the whole variable: since no two declarations of a program
share a number, no variable needs a scope to be told from another.

Literals are computed as the constant folder computes them, and what the folder
refuses makes the run fail. Equality is the folder's on two integers; on any other
two values it is a parameter. The run of a statement is given fuel, of which every
round of a loop takes one unit, and ends in one of three ways: it comes to the end
of the statement, it returns a value, or it has no fuel left.

* `Typed.Expr.eval`: the value of an expression.
* `Typed.Stmt.run`, `Typed.runAll`, `Typed.Program.run`: what running leaves.
* `Run.Refines`: one run does what another does, where the other does not fail.
* `Run.repeatWhile_round`: a round of a loop, for bodies that give no fuel back, as
  none does (`Typed.spends_runAll`).
-/

namespace Yuyan

/-- A value: a literal or an array of values. -/
inductive Value where
  | lit (v : Literal)
  | array (elements : List Value)

namespace Value

/-- The value is an integer. -/
def isInt : Value → Bool
  | lit (.int _) => true
  | _ => false

theorem isInt_of_ty {v : Literal} (h : v.ty = .int) : (lit v).isInt = true := by
  cases v with
  | int n => rfl
  | _ => cases h

/-- The truth value that a test needs. -/
def truth? : Value → Option Bool
  | lit v => v.bool?
  | array _ => none

/-- The element at a position of an array. There is none out of range. -/
def at? : Value → Value → Option Value
  | array vs, lit (.int n) => if n < 0 then none else vs[n.toInt.toNat]?
  | _, _ => none

end Value

/-- What equality means where the operands are not two integers. -/
abbrev Comparison : Type := BinOp → Value → Value → Option Value

/-- The value of an operator on a value. -/
def UnOp.denote (op : UnOp) : Value → Option Value
  | .lit a => (op.eval? a).map .lit
  | .array _ => none

/-- The value of an operator on two values, computed as on literals. -/
def BinOp.onLiterals? (op : BinOp) : Value → Value → Option Value
  | .lit a, .lit b => (op.eval? a b).map .lit
  | _, _ => none

/-- The value of an operator on two values. -/
def BinOp.denote (compare : Comparison) (op : BinOp) (v w : Value) : Option Value :=
  if op.isEquality && !(v.isInt && w.isInt) then compare op v w else op.onLiterals? v w

/-- The values of the variables that have one. -/
abbrev Environment : Type := Variable → Option Value

/-- The environment after a variable got a value. -/
def Environment.set (σ : Environment) (x : Variable) (v : Value) : Environment :=
  fun y => if y = x then some v else σ y

/-- A variable that gets the value it has keeps the environment as it is. -/
theorem Environment.set_of_eq {σ : Environment} {x : Variable} {v : Value} (h : σ x = some v) :
    σ.set x v = σ := by
  funext y
  unfold Environment.set
  split
  · rename_i hy; rw [hy, h]
  · rfl

/-! ### Expressions -/

namespace Typed

mutual

/-- The value of an expression. -/
def Expr.eval (compare : Comparison) (σ : Environment) : Expr → Option Value
  | .lit v _ _ => some (.lit v)
  | .var x _ _ => σ x
  | .unary op e _ _ => (e.eval compare σ).bind op.denote
  | .binary op l r _ _ =>
    (l.eval compare σ).bind fun v => (r.eval compare σ).bind fun w => op.denote compare v w
  | .array es _ _ => (evalElements compare σ es).map .array
  | .index a i _ _ => (a.eval compare σ).bind fun v => (i.eval compare σ).bind v.at?
termination_by structural e => e

/-- The values of the elements of an array. -/
def evalElements (compare : Comparison) (σ : Environment) : List Expr → Option (List Value)
  | [] => some []
  | e :: es =>
    (e.eval compare σ).bind fun v => (evalElements compare σ es).map fun vs => v :: vs
termination_by structural es => es

end

end Typed

/-! ### Runs -/

/-- How a run that does not fail comes to its end. -/
inductive Ending where
  | finished
  | returned (v : Value)
  | outOfFuel

/-- The state of a run. -/
structure Machine where
  /-- The values of the variables. -/
  env : Environment
  /-- What was printed, the first value first. -/
  output : List Value
  /-- How many rounds of loops may still be run. -/
  fuel : Nat

/-- A run from a state: the ending and the last state, or `none` if it fails. -/
abbrev Run : Type := Machine → Option (Ending × Machine)

namespace Run

/-- The run that does nothing. -/
def skip : Run := fun m => some (.finished, m)

/-- The second run after the first, if that one finishes. -/
def seq (x y : Run) : Run := fun m =>
  match x m with
  | some (.finished, m') => y m'
  | r => r

/-- The run that a value decides, computed in the environment at its start; it fails
if there is no such value. -/
def given {α : Type} (value : Environment → Option α) (next : α → Run) : Run := fun m =>
  (value m.env).bind fun v => next v m

/-- Give a variable a value. -/
def store (x : Variable) (v : Value) : Run := fun m =>
  some (.finished, { m with env := m.env.set x v })

/-- Print a value. -/
def emit (v : Value) : Run := fun m => some (.finished, { m with output := m.output ++ [v] })

/-- End the program with a value. -/
def exit (v : Value) : Run := fun m => some (.returned v, m)

/-- The body again and again, while the test is true. The fuel that is left after
the body is never more than it was before. -/
def repeatWhile (test : Environment → Option Bool) (body : Run) (m : Machine) :
    Option (Ending × Machine) :=
  match test m.env with
  | none => none
  | some false => some (.finished, m)
  | some true =>
    match _h : m.fuel with
    | 0 => some (.outOfFuel, m)
    | n + 1 =>
      seq body (fun m' => repeatWhile test body { m' with fuel := min m'.fuel n })
        { m with fuel := n }
termination_by m.fuel
decreasing_by omega

end Run

namespace Typed

/-- The truth value of a test. -/
def Expr.holds? (compare : Comparison) (e : Expr) (σ : Environment) : Option Bool :=
  (e.eval compare σ).bind Value.truth?

mutual

/-- What running a statement does. -/
def Stmt.run (compare : Comparison) : Stmt → Run
  | .decl _ x e _ | .assign x e _ => .given (e.eval compare) (.store x)
  | .print e _ => .given (e.eval compare) .emit
  | .loop _ test body _ => .repeatWhile (test.holds? compare) (runAll compare body)
  | .cond test consequent none _ =>
    .given (test.holds? compare) fun b => if b then runAll compare consequent else .skip
  | .cond test consequent (some alternate) _ =>
    .given (test.holds? compare) fun b =>
      if b then runAll compare consequent else runAll compare alternate
  | .skip _ => .skip
  | .ret e _ => .given (e.eval compare) .exit
termination_by structural s => s

/-- What running statements in order does. -/
def runAll (compare : Comparison) : List Stmt → Run
  | [] => .skip
  | s :: ss => .seq (s.run compare) (runAll compare ss)
termination_by structural ss => ss

end

/-- What running a program does, from an environment and with an amount of fuel. -/
def Program.run (compare : Comparison) (p : Program) (σ : Environment) (fuel : Nat) :
    Option (Ending × Machine) :=
  runAll compare p.statements ⟨σ, [], fuel⟩

end Typed

/-! ### Refinement of runs -/

namespace Run

variable {x x' y y' : Run}

/-- One run does what another does, wherever that one does not fail. -/
def Refines (x y : Run) : Prop := ∀ m r, x m = some r → y m = some r

theorem Refines.refl (x : Run) : Refines x x := fun _ _ h => h

theorem seq_skip (x : Run) : seq x skip = x := by
  funext m
  rcases hx : x m with _ | ⟨_ | _ | _, m'⟩ <;> simp [seq, skip, hx]

theorem seq_assoc (x y z : Run) : seq (seq x y) z = seq x (seq y z) := by
  funext m
  rcases hx : x m with _ | ⟨_ | _ | _, m'⟩ <;> simp [seq, hx]

/-- Two runs in sequence do not fail if the first comes to an end that stops the
program, or the second goes on from where the first has finished. -/
theorem seq_eq_some_iff {m : Machine} {r : Ending × Machine} :
    seq x y m = some r ↔
      (∃ m', x m = some (.finished, m') ∧ y m' = some r) ∨ (x m = some r ∧ r.1 ≠ .finished) := by
  rcases hx : x m with _ | ⟨e, m'⟩
  · simp [seq, hx]
  · cases e with
    | finished =>
      simp only [seq, hx]
      constructor
      · intro h
        exact .inl ⟨m', rfl, h⟩
      · rintro (⟨_, ⟨⟩, h⟩ | ⟨⟨⟩, hr⟩)
        · exact h
        · exact absurd rfl hr
    | returned v | outOfFuel =>
      simp only [seq, hx]
      constructor
      · rintro ⟨⟩
        exact .inr ⟨rfl, nofun⟩
      · rintro (⟨_, ⟨⟩, _⟩ | ⟨h, -⟩)
        exact h

theorem Refines.seq (hx : Refines x x') (hy : Refines y y') : Refines (seq x y) (seq x' y') := by
  intro m r h
  rw [seq_eq_some_iff] at h ⊢
  rcases h with ⟨m', h₁, h₂⟩ | ⟨h₁, hr⟩
  · exact .inl ⟨m', hx _ _ h₁, hy _ _ h₂⟩
  · exact .inr ⟨hx _ _ h₁, hr⟩

theorem Refines.given {α : Type} {f f' : Environment → Option α} {g g' : α → Run}
    (hf : ∀ σ v, f σ = some v → f' σ = some v) (hg : ∀ v, Refines (g v) (g' v)) :
    Refines (given f g) (given f' g') := by
  intro m r h
  obtain ⟨v, hv, hr⟩ := Option.bind_eq_some_iff.1 h
  exact Option.bind_eq_some_iff.2 ⟨v, hf _ _ hv, hg v _ _ hr⟩

/-- A run that a value decides refines into the run for that value, where there can
be no other value. -/
theorem Refines.of_given {α : Type} {f : Environment → Option α} {g : α → Run} {v : α}
    (hf : ∀ σ u, f σ = some u → u = v) (hg : Refines (g v) y) : Refines (Run.given f g) y := by
  intro m r h
  obtain ⟨u, hu, hr⟩ := Option.bind_eq_some_iff.1 h
  obtain rfl := hf _ _ hu
  exact hg _ _ hr

/-! ### Rounds of a loop -/

section

variable {test : Environment → Option Bool} {m : Machine}

theorem repeatWhile_of_false (h : test m.env = some false) :
    repeatWhile test x m = some (.finished, m) := by
  rw [repeatWhile, h]

theorem repeatWhile_of_no_fuel (h : test m.env = some true) (hf : m.fuel = 0) :
    repeatWhile test x m = some (.outOfFuel, m) := by
  rw [repeatWhile, h]
  dsimp only
  split
  · rfl
  · omega

theorem repeatWhile_of_fuel {n : Nat} (h : test m.env = some true) (hf : m.fuel = n + 1) :
    repeatWhile test x m =
      seq x (fun m' => repeatWhile test x { m' with fuel := min m'.fuel n })
        { m with fuel := n } := by
  rw [repeatWhile, h]
  dsimp only
  split
  · omega
  · rename_i k hk
    obtain rfl : k = n := by omega
    rfl

end

/-! ### Runs spend fuel -/

/-- A run leaves no more fuel than it was given. -/
def Spends (x : Run) : Prop := ∀ m r, x m = some r → r.2.fuel ≤ m.fuel

theorem Spends.skip : Spends skip := by
  rintro m r ⟨⟩
  exact Nat.le_refl _

theorem Spends.store (y : Variable) (v : Value) : Spends (store y v) := by
  rintro m r ⟨⟩
  exact Nat.le_refl _

theorem Spends.emit (v : Value) : Spends (emit v) := by
  rintro m r ⟨⟩
  exact Nat.le_refl _

theorem Spends.exit (v : Value) : Spends (exit v) := by
  rintro m r ⟨⟩
  exact Nat.le_refl _

theorem Spends.seq (hx : Spends x) (hy : Spends y) : Spends (seq x y) := by
  intro m r h
  rcases seq_eq_some_iff.1 h with ⟨m', h₁, h₂⟩ | ⟨h₁, -⟩
  · exact Nat.le_trans (hy _ _ h₂) (hx _ _ h₁)
  · exact hx _ _ h₁

theorem Spends.given {α : Type} {f : Environment → Option α} {g : α → Run}
    (hg : ∀ v, Spends (g v)) : Spends (given f g) := by
  intro m r h
  obtain ⟨v, -, hr⟩ := Option.bind_eq_some_iff.1 h
  exact hg v _ _ hr

theorem Spends.repeatWhile {test : Environment → Option Bool} (hx : Spends x) :
    Spends (repeatWhile test x) := by
  intro m
  induction hn : m.fuel using Nat.strongRecOn generalizing m with
  | ind n ih =>
    intro r h
    rcases hb : test m.env with _ | _ | _
    · rw [Run.repeatWhile, hb] at h
      simp at h
    · rw [repeatWhile_of_false hb] at h
      cases h
      exact Nat.le_of_eq hn
    · cases n with
      | zero =>
        rw [repeatWhile_of_no_fuel hb hn] at h
        cases h
        exact Nat.le_of_eq hn
      | succ n =>
        rw [repeatWhile_of_fuel hb hn, seq_eq_some_iff] at h
        rcases h with ⟨m', -, h₂⟩ | ⟨h₁, -⟩
        · have := ih (min m'.fuel n) (by omega) _ rfl r h₂
          omega
        · exact Nat.le_succ_of_le (hx _ _ h₁)

/-- One round of a loop whose body only spends fuel: the body with one unit less, and
then the loop again with what the body has left. -/
theorem repeatWhile_round {test : Environment → Option Bool} {m : Machine} {n : Nat}
    (hx : Spends x) (h : test m.env = some true) (hf : m.fuel = n + 1) :
    repeatWhile test x m = seq x (repeatWhile test x) { m with fuel := n } := by
  rw [repeatWhile_of_fuel h hf]
  rcases hr : x { m with fuel := n } with _ | ⟨_ | _ | _, m'⟩ <;> simp only [seq, hr]
  have hle : m'.fuel ≤ n := hx _ _ hr
  rw [Nat.min_eq_left hle]

/-- A loop refines another if its test and its body do. The induction is on the fuel:
a round leaves less of it to the rounds that follow. -/
theorem Refines.repeatWhile {test test' : Environment → Option Bool}
    (ht : ∀ σ b, test σ = some b → test' σ = some b) (hx : Refines x x') :
    Refines (repeatWhile test x) (repeatWhile test' x') := by
  intro m
  induction hn : m.fuel using Nat.strongRecOn generalizing m with
  | ind n ih =>
    intro r h
    rcases hb : test m.env with _ | _ | _
    · rw [Run.repeatWhile, hb] at h
      simp at h
    · rw [repeatWhile_of_false hb] at h
      rwa [repeatWhile_of_false (ht _ _ hb)]
    · cases n with
      | zero =>
        rw [repeatWhile_of_no_fuel hb hn] at h
        rwa [repeatWhile_of_no_fuel (ht _ _ hb) hn]
      | succ n =>
        rw [repeatWhile_of_fuel hb hn, seq_eq_some_iff] at h
        rw [repeatWhile_of_fuel (ht _ _ hb) hn, seq_eq_some_iff]
        rcases h with ⟨m', h₁, h₂⟩ | ⟨h₁, hr⟩
        · exact .inl ⟨m', hx _ _ h₁, ih _ (by simp only; omega) _ rfl _ h₂⟩
        · exact .inr ⟨hx _ _ h₁, hr⟩

end Run

/-! ### Lists of statements -/

namespace Typed

variable (compare : Comparison)

theorem runAll_singleton (s : Stmt) : runAll compare [s] = s.run compare := Run.seq_skip _

theorem runAll_append (ss ss' : List Stmt) :
    runAll compare (ss ++ ss') = .seq (runAll compare ss) (runAll compare ss') := by
  induction ss with
  | nil => rfl
  | cons s ss ih => rw [List.cons_append, runAll, ih, runAll, Run.seq_assoc]

/-- A choice without an alternate does nothing where the test fails. -/
theorem run_cond (test : Expr) (c : List Stmt) (a : Option (List Stmt)) (s : Span) :
    (Stmt.cond test c a s).run compare =
      .given (test.holds? compare) fun b =>
        if b then runAll compare c else runAll compare (a.getD []) := by
  cases a <;> rfl

mutual

/-- Running a statement gives no fuel back. -/
theorem Stmt.spends_run : ∀ s : Stmt, Run.Spends (s.run compare)
  | .decl _ x e _ | .assign x e _ => by
    rw [Stmt.run]
    exact .given fun v => .store x v
  | .print e _ => by
    rw [Stmt.run]
    exact .given .emit
  | .ret e _ => by
    rw [Stmt.run]
    exact .given .exit
  | .loop _ _ body _ => .repeatWhile (spends_runAll body)
  | .cond _ c none _ => .given fun b => by
    cases b
    · exact .skip
    · exact spends_runAll c
  | .cond _ c (some a) _ => .given fun b => by
    cases b
    · exact spends_runAll a
    · exact spends_runAll c
  | .skip _ => .skip
termination_by structural s => s

theorem spends_runAll : ∀ ss : List Stmt, Run.Spends (runAll compare ss)
  | [] => .skip
  | s :: ss => .seq (s.spends_run) (spends_runAll ss)
termination_by structural ss => ss

end

end Typed

end Yuyan
