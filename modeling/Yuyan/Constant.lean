import Yuyan.Number.Checked
import Yuyan.Typed

/-!
# Constants

What the operators make of literals. An operation is refused, with `none`, where
computing it beforehand could change what the program means when it runs: where
an integer result does not fit or is not exact, where a division has no result,
for `0 ** 0`, and where a floating-point result is not finite.

Operands of two different types, and operators that do not belong to the type of
their operands, are refused as well.
-/

namespace Yuyan

/-- A floating-point result, if it is finite. -/
def Literal.finite? (x : Float) : Option Literal := if x.isFinite then some (.float x) else none

/-- An operator on integers. -/
def BinOp.onInts? (a b : Int64) : BinOp → Option Literal
  | add => (Checked.add a b).map .int
  | sub => (Checked.sub a b).map .int
  | mul => (Checked.mul a b).map .int
  | div => (Checked.div a b).map .int
  | rem => (Checked.rem a b).map .int
  | pow => (Checked.pow a b).map .int
  | eq => some (.boolean (a = b))
  | ne => some (.boolean (a ≠ b))
  | lt => some (.boolean (a < b))
  | le => some (.boolean (a ≤ b))
  | gt => some (.boolean (b < a))
  | ge => some (.boolean (b ≤ a))
  | and | or => none

/-- An operator on floating-point numbers. A NaN is unequal to every number and
not ordered with any. -/
def BinOp.onFloats? (a b : Float) : BinOp → Option Literal
  | add => Literal.finite? (a + b)
  | sub => Literal.finite? (a - b)
  | mul => Literal.finite? (a * b)
  | div => Literal.finite? (a / b)
  | rem => Literal.finite? (Number.remainder a b)
  | pow => if a == 0 && b == 0 then none else Literal.finite? (a.pow b)
  | eq => some (.boolean (a == b))
  | ne => some (.boolean (a != b))
  | lt => some (.boolean (a < b))
  | le => some (.boolean (a ≤ b))
  | gt => some (.boolean (b < a))
  | ge => some (.boolean (b ≤ a))
  | and | or => none

/-- An operator on truth values. Only the logical operators are computed. -/
def BinOp.onBooleans? (a b : Bool) : BinOp → Option Literal
  | and => some (.boolean (a && b))
  | or => some (.boolean (a || b))
  | _ => none

/-- The value of an operator on two literals. -/
def BinOp.eval? (op : BinOp) : Literal → Literal → Option Literal
  | .int a, .int b => op.onInts? a b
  | .float a, .float b => op.onFloats? a b
  | .boolean a, .boolean b => op.onBooleans? a b
  | _, _ => none

/-- The value of an operator on a literal. -/
def UnOp.eval? : UnOp → Literal → Option Literal
  | neg, .int n => (Checked.neg n).map .int
  | neg, .float x => some (.float (-x))
  | not, .boolean b => some (.boolean (!b))
  | _, _ => none

/-- The value of an expression that is built from literals by operators. -/
def Typed.Expr.constant? : Typed.Expr → Option Literal
  | lit v _ _ => some v
  | unary op e _ _ => e.constant?.bind op.eval?
  | binary op l r _ _ => l.constant?.bind fun a => r.constant?.bind fun b => op.eval? a b
  | var _ _ _ | array _ _ _ | index _ _ _ _ => none

end Yuyan
