import Yuyan.Optimize.Operator

/-!
# Optimization

One pass over a typed program, from the leaves up. Every operator is simplified
after its operands. An assignment of a variable to itself is removed. A choice
whose test has become a literal is replaced by the statements of the branch it
takes; both branches are optimized all the same. Loops are kept, also those whose
test never holds.

Every expression that is replaced leaves its span to what replaces it, except
that an operand which takes the place of an operator keeps its own.

A run over statements has two counters, which are `0` when it begins: one for
assignments that are removed and one for choices that are replaced. They are
counted up beside the log and not read off it. Nothing is decided by them, and
their numbers are told in the end.
-/

namespace Yuyan.Typed

/-! ### Expressions -/

mutual

/-- The optimized expression. -/
def Expr.optimize : Expr → Logged Expr
  | e@(.lit ..) | e@(.var ..) => return e
  | .unary op e t s => do Expr.reduceUnary op (← e.optimize) t s
  | .binary op l r t s => do
    let l ← l.optimize
    let r ← r.optimize
    Expr.reduceBinary op l r t s
  | .array es t s => do return .array (← optimizeElements es) t s
  | .index a i t s => do
    let a ← a.optimize
    let i ← i.optimize
    return .index a i t s
termination_by structural e => e

/-- The optimized expressions. -/
def optimizeElements : List Expr → Logged (List Expr)
  | [] => return []
  | e :: es => do
    let e ← e.optimize
    return e :: (← optimizeElements es)
termination_by structural es => es

end

/-! ### Counters -/

/-- What a run over statements counts. -/
structure Counters where
  /-- How many assignments were removed. -/
  removed : Nat := 0
  /-- How many choices were replaced by one of their branches. -/
  pruned : Nat := 0
  deriving DecidableEq, Repr

/-- A step of a run over statements: what is computed and logged, and what the
counters come to from what they were before. -/
structure Sweep (α : Type) extends Logged α where
  /-- The counters after the step, from those before it. -/
  counters : Counters → Counters

namespace Sweep

variable {α β : Type}

instance : Monad Sweep where
  pure a := ⟨pure a, id⟩
  bind x f :=
    let y := f x.value
    ⟨⟨y.value, x.events ++ y.events⟩, fun c => y.counters (x.counters c)⟩

/-- What is only logged leaves the counters as they are. -/
instance : MonadLift Logged Sweep where
  monadLift x := ⟨x, id⟩

/-- Count something. -/
def count (step : Counters → Counters) : Sweep Unit := ⟨pure (), step⟩

@[simp] theorem toLogged_pure (a : α) : (pure a : Sweep α).toLogged = pure a := rfl

/-- What is logged does not hang on the counters. -/
@[simp] theorem toLogged_bind (x : Sweep α) (f : α → Sweep β) :
    (x >>= f).toLogged = x.toLogged >>= fun a => (f a).toLogged := rfl

@[simp] theorem toLogged_lift (x : Logged α) : (liftM x : Sweep α).toLogged = x := rfl

@[simp] theorem toLogged_count (step : Counters → Counters) :
    (count step).toLogged = pure () := rfl

end Sweep

/-! ### Statements -/

/-- What an assignment comes to. -/
def Stmt.reduceAssign (x : Variable) (e : Expr) (s : Span) : Sweep (List Stmt) :=
  match e with
  | .var y _ _ =>
    if y = x then do
      Logged.write (.removedSelfAssignment x.name)
      .count fun c => { c with removed := c.removed + 1 }
      return []
    else return [.assign x e s]
  | _ => return [.assign x e s]

/-- What a choice comes to. -/
def Stmt.reduceCond (test : Expr) (consequent : List Stmt) (alternate : Option (List Stmt))
    (s : Span) : Sweep (List Stmt) :=
  match test.literal?.bind Literal.bool? with
  | some true => do
    Logged.write .keptConsequent
    .count fun c => { c with pruned := c.pruned + 1 }
    return consequent
  | some false => do
    Logged.write .keptAlternate
    .count fun c => { c with pruned := c.pruned + 1 }
    return alternate.getD []
  | none => return [.cond test consequent alternate s]

mutual

/-- The statements that an optimized statement comes to. -/
def Stmt.optimize : Stmt → Sweep (List Stmt)
  | .decl t x e s => do return [.decl t x (← e.optimize) s]
  | .assign x e s => do Stmt.reduceAssign x (← e.optimize) s
  | .print e s => do return [.print (← e.optimize) s]
  | .loop kind test body s => do
    let test ← test.optimize
    let body ← optimizeAll body
    return [.loop kind test body s]
  | .cond test consequent none s => do
    let test ← test.optimize
    let consequent ← optimizeAll consequent
    Stmt.reduceCond test consequent none s
  | .cond test consequent (some alternate) s => do
    let test ← test.optimize
    let consequent ← optimizeAll consequent
    let alternate ← optimizeAll alternate
    Stmt.reduceCond test consequent (some alternate) s
  | .skip s => return [.skip s]
  | .ret e s => do return [.ret (← e.optimize) s]
termination_by structural s => s

/-- The statements that optimized statements come to, in order. -/
def optimizeAll : List Stmt → Sweep (List Stmt)
  | [] => return []
  | s :: ss => do
    let s ← s.optimize
    let ss ← optimizeAll ss
    return s ++ ss
termination_by structural ss => ss

end

/-! ### Programs -/

/-- The optimized program. The log ends with what the counters come to. -/
def Program.optimize (p : Program) : Logged Program :=
  let run := optimizeAll p.statements
  let counts := run.counters {}
  do
    let statements ← run.toLogged
    .write (.swept counts.removed counts.pruned)
    return ⟨statements, p.span⟩

end Yuyan.Typed
