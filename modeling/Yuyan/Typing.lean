import Yuyan.Error
import Yuyan.Typed

/-!
# Rules of typing

What an operator asks of its operands, and the type of its result. There are no
conversions: arithmetic and ordering want two numbers of one type, the logical
operators two Booleans, and equality two values of any one type.

Of two operands that are both wrong, the left one is reported.
-/

namespace Yuyan

namespace Typed.Expr

/-- The expression has the type that its surroundings ask for. -/
def expectTy (e : Expr) (t : Ty) : Except AnalysisError Unit :=
  if t.conforms e.ty then .ok () else .error ⟨.typeMismatch (.expected t e.ty), e.span⟩

/-- The expression is a number, as the operator asks. -/
def expectNumeric (e : Expr) (op : String) : Except AnalysisError Unit :=
  if e.ty.isNumeric then .ok () else .error ⟨.nonNumericOperand op e.ty, e.span⟩

/-- The expression can be the test of a loop or a choice. -/
def expectCondition (e : Expr) : Except AnalysisError Unit :=
  if e.ty.isBoolean then .ok () else .error ⟨.nonBooleanCondition e.ty, e.span⟩

/-- The type of the elements of an expression that must be an array. -/
def elementTy (e : Expr) : Except AnalysisError Ty :=
  match e.ty.element? with
  | some t => .ok t
  | none => .error ⟨.typeMismatch (.notAnArray e.ty), e.span⟩

/-- The expression can be an index. -/
def expectIndex (e : Expr) : Except AnalysisError Unit :=
  if e.ty = .int then .ok () else .error ⟨.arrayIndexTypeError e.ty, e.span⟩

end Typed.Expr

open Typed (Expr)

/-- The type of a result of an operator on `e`. -/
def UnOp.resultTy (op : UnOp) (e : Expr) : Except AnalysisError Ty :=
  match op with
  | neg => do e.expectNumeric op.symbol; return e.ty
  | not => do e.expectTy .boolean; return .boolean

/-- The type of a result of an operator on `l` and `r`. An error that is about
both operands has the span of the whole expression. -/
def BinOp.resultTy (op : BinOp) (l r : Expr) (span : Span) : Except AnalysisError Ty :=
  if op.isEquality then
    if l.ty.conforms r.ty then .ok .boolean
    else .error ⟨.typeMismatch (.incomparable l.ty r.ty), span⟩
  else if op.isLogical then do
    l.expectTy .boolean
    r.expectTy .boolean
    return .boolean
  else do
    l.expectNumeric op.symbol
    r.expectNumeric op.symbol
    if l.ty.conforms r.ty then return if op.isOrdering then .boolean else l.ty
    else throw ⟨.typeMismatch (.mixedOperands op l.ty r.ty), span⟩

end Yuyan
