import Yuyan.Constant
import Yuyan.Scope
import Yuyan.Source
import Yuyan.Typing

/-!
# Elaboration of expressions

An expression as written becomes a typed expression: names become the variables
that are visible, and every node gets its type.

The surroundings may expect a type. That decides two things that the expression
alone leaves open, and nothing else: a string of one character stands for that
character where a character is expected, and an array without elements takes its
element type from the array that is expected. A parenthesis is transparent.

The two sides of an equality are each other's surroundings. The left one is
elaborated first and its type expected of the right one, unless the left one is
an array without elements, which can only get its type from the right. The first
element of an array literal gives the type that is expected of the others.
-/

namespace Yuyan

open Typed (Expr)

/-! ### Text and characters -/

/-- The character of a text that has only one. -/
def onlyChar? (s : String) : Option Char :=
  match s.toList with
  | [c] => some c
  | _ => none

/-- What a written text stands for where a type may be expected. -/
def Literal.ofText (s : String) (expected : Option Ty) : Literal :=
  match expected, onlyChar? s with
  | some .char, some c => .char c
  | _, _ => .string s

/-- A text literal of one character, as that character; any other expression as
it is. -/
def Typed.Expr.asChar : Expr → Expr
  | e@(.lit (.string s) _ span) =>
    match onlyChar? s with
    | some c => .ofLiteral (.char c) span
    | none => e
  | e => e

/-! ### Indices -/

/-- A constant index must lie in the array, as far as the length of the array is
known: it is if the array is written out. -/
def checkIndex (array index : Expr) : Except AnalysisError Unit :=
  match index.constant?.bind Literal.int? with
  | some n =>
    if n < 0 ∨ array.length?.any (fun length => length ≤ n.toInt) then
      .error ⟨.arrayIndexOutOfRange n array.length?, index.span⟩
    else .ok ()
  | none => .ok ()

/-! ### Expressions -/

namespace Source

mutual

/-- The typed expression of an expression, where only the variables of `scope`
are visible and a type may be expected. -/
def Expr.elaborate (scope : Scope) : Expr → Option Ty → Except AnalysisError Typed.Expr
  | .int n s, _ => .ok (.ofLiteral (.int n) s)
  | .float x s, _ => .ok (.ofLiteral (.float x) s)
  | .bool b s, _ => .ok (.ofLiteral (.boolean b) s)
  | .char c s, _ => .ok (.ofLiteral (.char c) s)
  | .string t s, expected => .ok (.ofLiteral (.ofText t expected) s)
  | .name x s, _ => do return .ofVariable (← scope.resolve x s) s
  | .paren e _, expected => e.elaborate scope expected
  | .unary op e s, _ => do
    let e ← e.elaborate scope none
    return .unary op e (← op.resultTy e) s
  | .binary op l r s, _ =>
    if op.isEquality then
      if l.isEmptyArray then do
        let r ← r.elaborate scope none
        let l ← l.elaborate scope (some r.ty)
        return .binary op l r (← op.resultTy l r s) s
      else do
        let l ← l.elaborate scope none
        let r ← r.elaborate scope (some l.ty)
        let l := if r.ty = .char then l.asChar else l
        return .binary op l r (← op.resultTy l r s) s
    else do
      let l ← l.elaborate scope none
      let r ← r.elaborate scope none
      return .binary op l r (← op.resultTy l r s) s
  | .array [] s, expected =>
    match expected.bind Ty.element? with
    | some t => .ok (.array [] (.array t) s)
    | none => .error ⟨.typeMismatch .unknownElement, s⟩
  | .array (e :: es) s, expected => do
    let e ← e.elaborate scope (expected.bind Ty.element?)
    let es ← elaborateElements scope es e.ty
    return .array (e :: es) (.array e.ty) s
  | .index a i s, _ => do
    let a ← a.elaborate scope none
    let t ← a.elementTy
    let i ← i.elaborate scope none
    i.expectIndex
    checkIndex a i
    return .index a i t s
termination_by structural e => e

/-- The typed elements of an array whose first element has the type `t`. -/
def elaborateElements (scope : Scope) : List Expr → Ty → Except AnalysisError (List Typed.Expr)
  | [], _ => .ok []
  | e :: es, t => do
    let e ← e.elaborate scope (some t)
    if t.conforms e.ty then return e :: (← elaborateElements scope es t)
    else throw ⟨.heterogeneousArrayElement t e.ty, e.span⟩
termination_by structural es => es

end

/-- The typed expression of the test of a loop or a choice. -/
def Expr.elaborateTest (e : Expr) (scope : Scope) : Except AnalysisError Typed.Expr := do
  let e ← e.elaborate scope none
  e.expectCondition
  return e

/-- The typed expression of a value for a variable of type `t`. -/
def Expr.elaborateValue (e : Expr) (t : Ty) (scope : Scope) : Except AnalysisError Typed.Expr := do
  let e ← e.elaborate scope (some t)
  e.expectTy t
  return e

end Source

end Yuyan
