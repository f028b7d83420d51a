import Yuyan.Text.Outline
import Yuyan.Typed

/-!
# The outline of a typed program

The whole tree of a typed program, node by node, with the types and spans of all
its nodes.
-/

namespace Yuyan

open Text.Outline (record wrap list)
open Text (Outline)

/-- Both ends of a span. -/
def Span.outline (s : Span) : Outline :=
  record "Span" [("start", [toString s.start]), ("end", [toString s.stop])]

/-- A type; an array shows its element type inside. -/
def Ty.outline : Ty → Outline
  | array element => wrap "Array" element.outline
  | t => [t.text]

/-- A literal under the name of its type. -/
def Literal.outline (v : Literal) : Outline :=
  wrap v.ty.text [v.textWith "true" "false"]

/-- The parts of a variable. -/
def Variable.outline (v : Variable) : Outline :=
  record "Variable"
    [("name", [Text.quoted '"' v.name.toList]), ("ty", v.ty.outline), ("id", [toString v.id])]

/-- The word for an operator. -/
def BinOp.word : BinOp → String
  | eq => "Eq" | ne => "Ne" | lt => "Lt" | le => "Le" | gt => "Gt" | ge => "Ge"
  | add => "Add" | sub => "Sub" | mul => "Mul" | div => "Div" | rem => "Rem" | pow => "Pow"
  | and => "And" | or => "Or"

/-- The word for an operator. -/
def UnOp.word : UnOp → String
  | neg => "Neg" | not => "Not"

/-- The word for a loop. -/
def Loop.word : Loop → String
  | whileLoop => "While" | forLoop => "For"

namespace Typed

/-- An expression around its own part. -/
def exprOutline (kind : Outline) (ty : Ty) (span : Span) : Outline :=
  record "Expr" [("kind", kind), ("ty", ty.outline), ("span", span.outline)]

mutual

/-- The outline of an expression. -/
def Expr.outline : Expr → Outline
  | .lit v t s => exprOutline (wrap "Literal" v.outline) t s
  | .var v t s => exprOutline (wrap "Variable" v.outline) t s
  | .unary op e t s => exprOutline (record "Unary" [("op", [op.word]), ("operand", e.outline)]) t s
  | .binary op l r t s =>
    exprOutline (record "Binary" [("op", [op.word]), ("left", l.outline), ("right", r.outline)]) t s
  | .array es t s => exprOutline (wrap "Array" (list (outlines es))) t s
  | .index a i t s => exprOutline (record "Subscript" [("array", a.outline), ("index", i.outline)]) t s
termination_by structural e => e

/-- The outline of each expression. -/
def outlines : List Expr → List Outline
  | [] => []
  | e :: es => e.outline :: outlines es
termination_by structural es => es

end

/-- A statement around its own part. -/
def stmtOutline (kind : Outline) (span : Span) : Outline :=
  record "Stmt" [("kind", kind), ("span", span.outline)]

mutual

/-- The outline of a statement. -/
def Stmt.outline : Stmt → Outline
  | .decl t x e s =>
    stmtOutline (record "VariableDeclaration"
      [("ty", t.outline), ("variable", x.outline), ("initializer", e.outline)]) s
  | .assign x e s => stmtOutline (record "Assignment" [("target", x.outline), ("source", e.outline)]) s
  | .print e s => stmtOutline (record "Print" [("argument", e.outline)]) s
  | .loop kind test body s =>
    stmtOutline (record kind.word [("test", test.outline), ("body", list (stmtOutlines body))]) s
  | .cond test consequent none s =>
    stmtOutline (record "If" [("test", test.outline), ("consequent", list (stmtOutlines consequent)),
      ("alternate", ["None"])]) s
  | .cond test consequent (some alternate) s =>
    stmtOutline (record "If" [("test", test.outline), ("consequent", list (stmtOutlines consequent)),
      ("alternate", wrap "Some" (list (stmtOutlines alternate)))]) s
  | .skip s => stmtOutline ["Breathing"] s
  | .ret e s => stmtOutline (record "Return" [("argument", e.outline)]) s
termination_by structural s => s

/-- The outline of each statement. -/
def stmtOutlines : List Stmt → List Outline
  | [] => []
  | s :: ss => s.outline :: stmtOutlines ss
termination_by structural ss => ss

end

/-- The outline of a program. -/
def Program.outline (p : Program) : Outline :=
  record "Program" [("statements", list (stmtOutlines p.statements)), ("span", p.span.outline)]

end Typed

end Yuyan
