import Yuyan.Source
import Yuyan.Typed

/-!
# Typed programs as written programs

A typed program can be written out again: types become words, variables become their
names, and everything else is as it was. A typed program does not know where the name
and the type of a declaration stood, nor where a body did: they get the span of the
statement.
-/

namespace Yuyan

/-- The written form of a type. -/
def Ty.toSource (s : Span) : Ty → Source.TyExpr
  | .boolean => .boolean s
  | .int => .int s
  | .float => .float s
  | .string => .string s
  | .char => .char s
  | .array t => .array (t.toSource s) s

/-- A type is what its written form means. -/
@[simp] theorem Ty.resolve_toSource (s : Span) (t : Ty) : (t.toSource s).resolve = t := by
  induction t with
  | array t ih => rw [toSource, Source.TyExpr.resolve, ih]
  | _ => rfl

/-- The written form of a literal. -/
def Literal.toSource (s : Span) : Literal → Source.Expr
  | .boolean b => .bool b s
  | .int n => .int n s
  | .float x => .float x s
  | .string t => .string t s
  | .char c => .char c s

namespace Typed

mutual

/-- An expression without its types. -/
def Expr.toSource : Expr → Source.Expr
  | .lit v _ s => v.toSource s
  | .var x _ s => .name x.name s
  | .unary op e _ s => .unary op e.toSource s
  | .binary op l r _ s => .binary op l.toSource r.toSource s
  | .array es _ s => .array (elementsToSource es) s
  | .index a i _ s => .index a.toSource i.toSource s
termination_by structural e => e

/-- Each element of an array without its types. -/
def elementsToSource : List Expr → List Source.Expr
  | [] => []
  | e :: es => e.toSource :: elementsToSource es
termination_by structural es => es

end

mutual

/-- A statement without its types and numbers. -/
def Stmt.toSource : Stmt → Source.Stmt
  | .decl t x e s => .decl (t.toSource s) ⟨x.name, s⟩ e.toSource s
  | .assign x e s => .assign ⟨x.name, s⟩ e.toSource s
  | .print e s => .print e.toSource s
  | .loop kind test body s => .loop kind test.toSource (.mk (allToSource body) s) s
  | .cond test consequent none s => .cond test.toSource (.mk (allToSource consequent) s) none s
  | .cond test consequent (some alternate) s =>
    .cond test.toSource (.mk (allToSource consequent) s) (some (.mk (allToSource alternate) s)) s
  | .skip s => .skip s
  | .ret e s => .ret e.toSource s
termination_by structural s => s

/-- Each statement without its types and numbers. -/
def allToSource : List Stmt → List Source.Stmt
  | [] => []
  | s :: ss => s.toSource :: allToSource ss
termination_by structural ss => ss

end

/-- A program without its types and numbers. -/
def Program.toSource (p : Program) : Source.Program := ⟨allToSource p.statements, p.span⟩

end Typed

end Yuyan
