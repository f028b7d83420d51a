import Yuyan.Elaboration.Analysis
import Yuyan.Elaboration.Expr

/-!
# Elaboration of programs

The statements of a program become typed statements, one for one and in order.

A declaration elaborates its value before the name is declared, so the value
cannot mention it. The value of a declaration or an assignment is expected to
have the type of the variable, and must have it. Bodies have scopes of their own.
A return must stand in some body.
-/

namespace Yuyan.Source

mutual

/-- The typed statement of a statement. -/
def Stmt.elaborate : Stmt → Analysis Typed.Stmt
  | .decl written target value s => do
    let t := written.resolve
    let value ← .reading (value.elaborateValue t)
    let x ← .declare target t
    return .decl t x value s
  | .assign target value s => .reading fun scope => do
    let x ← scope.resolve target.name target.span
    return .assign x (← value.elaborateValue x.ty scope) s
  | .print e s => .reading fun scope => do return .print (← e.elaborate scope none) s
  | .loop kind test body s => do
    let test ← .reading test.elaborateTest
    let body ← body.elaborate
    return .loop kind test body s
  | .cond test consequent none s => do
    let test ← .reading test.elaborateTest
    let consequent ← consequent.elaborate
    return .cond test consequent none s
  | .cond test consequent (some alternate) s => do
    let test ← .reading test.elaborateTest
    let consequent ← consequent.elaborate
    let alternate ← alternate.elaborate
    return .cond test consequent (some alternate) s
  | .skip s => return .skip s
  | .ret e s => .reading fun scope =>
    if scope.isRoot then .error ⟨.misplacedReturn, s⟩
    else do return .ret (← e.elaborate scope none) s
termination_by structural s => s

/-- The typed statements of a body. -/
def Block.elaborate : Block → Analysis (List Typed.Stmt)
  | .mk statements _ => Analysis.inBody (elaborateAll statements)
termination_by structural b => b

/-- The typed statements of statements in order. -/
def elaborateAll : List Stmt → Analysis (List Typed.Stmt)
  | [] => return []
  | s :: ss => do return (← s.elaborate) :: (← elaborateAll ss)
termination_by structural ss => ss

end

/-- The typed program of a program. What the analysis kept of other programs is
forgotten first. -/
def Program.elaborate (p : Program) : Analysis Typed.Program := do
  Analysis.restart
  Analysis.write (.started p.statements.length)
  let statements ← elaborateAll p.statements
  Analysis.write .finished
  return ⟨statements, p.span⟩

end Yuyan.Source
