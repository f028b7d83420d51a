import Yuyan.Constant
import Yuyan.Log

/-!
# Simplifying one operator

An operator is simplified when its operands are as simple as they get. If all its
operands are literals it is computed, or kept where computing it is refused. If
one of two operands is a literal, an identity may apply:

* `真 且 x`, `x 且 真`, `假 或 x`, `x 或 假` are `x`;
* `x + 0`, `0 + x`, `x - 0`, `x * 1`, `1 * x`, `x ÷ 1` are `x`;
* `0 - x` is `-x`;
* `x * 0`, `0 * x`, `0 ÷ x` are `0`;
* `x ** 0`, `1 ** x` are `1`.

An operand takes the place of the whole only if it has the type that the whole is
given, and a number only if that type has it. The first identity in this order
wins.
-/

namespace Yuyan

/-- What an identity makes of an operator and two operands. -/
inductive Identity where
  | keep | takeLeft | takeRight | negateRight | becomeZero | becomeOne
  deriving DecidableEq, Repr

/-- The identity that applies to an operator, of whose operands only the literals
are known. -/
def BinOp.identity (op : BinOp) (l r : Option Literal) : Identity :=
  let isZero (v : Option Literal) := v.any Literal.isZero
  let isOne (v : Option Literal) := v.any Literal.isOne
  let isBool (b : Bool) (v : Option Literal) := v.bind Literal.bool? == some b
  match op with
  | and => if isBool true l then .takeRight else if isBool true r then .takeLeft else .keep
  | or => if isBool false l then .takeRight else if isBool false r then .takeLeft else .keep
  | add => if isZero r then .takeLeft else if isZero l then .takeRight else .keep
  | sub => if isZero r then .takeLeft else if isZero l then .negateRight else .keep
  | mul =>
    if isOne r then .takeLeft
    else if isOne l then .takeRight
    else if isZero l || isZero r then .becomeZero
    else .keep
  | div => if isOne r then .takeLeft else if isZero l then .becomeZero else .keep
  | pow => if isZero r || isOne l then .becomeOne else .keep
  | eq | ne | lt | le | gt | ge | rem => .keep

namespace Typed.Expr

/-- An operator on one operand. -/
def reduceUnary (op : UnOp) (e : Expr) (t : Ty) (s : Span) : Logged Expr :=
  match e.literal? with
  | some a =>
    match op.eval? a with
    | some v => do
      .write (.foldedUnary op a v)
      return .ofLiteral v s
    | none => return .unary op e t s
  | none => return .unary op e t s

/-- A constant in place of an operator, if the type of the whole has it. -/
def collapse (op : BinOp) (value : Option Literal) (l r : Expr) (t : Ty) (s : Span) :
    Logged Expr :=
  match value with
  | some v => do
    .write (.collapsed op v)
    return .ofLiteral v s
  | none => return .binary op l r t s

/-- An operator on two operands that are not both literals. -/
def applyIdentity (op : BinOp) (l r : Expr) (t : Ty) (s : Span) : Logged Expr :=
  match op.identity l.literal? r.literal? with
  | .keep => return .binary op l r t s
  | .takeLeft =>
    if l.ty = t then do
      .write (.droppedIdentity op)
      return l
    else return .binary op l r t s
  | .takeRight =>
    if r.ty = t then do
      .write (.droppedIdentity op)
      return r
    else return .binary op l r t s
  | .negateRight =>
    if r.ty = t then do
      .write .negated
      reduceUnary .neg r t s
    else return .binary op l r t s
  | .becomeZero => collapse op (Literal.zero? t) l r t s
  | .becomeOne => collapse op (Literal.one? t) l r t s

/-- An operator on two operands. -/
def reduceBinary (op : BinOp) (l r : Expr) (t : Ty) (s : Span) : Logged Expr :=
  match l.literal?, r.literal? with
  | some a, some b =>
    match op.eval? a b with
    | some v => do
      .write (.folded op a b v)
      return .ofLiteral v s
    | none => return .binary op l r t s
  | _, _ => applyIdentity op l r t s

end Typed.Expr

end Yuyan
