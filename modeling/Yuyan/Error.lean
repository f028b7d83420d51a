import Yuyan.Operator
import Yuyan.Span
import Yuyan.Ty

/-!
# Errors of the analysis

Elaboration stops at the first thing that is wrong with a program. An error is
its cause together with the span it is about. The causes hold what the message
needs, as types and numbers, and the wording is in `Cause.message` alone.
-/

namespace Yuyan

/-- The ways in which two types, or a type and its surroundings, do not agree. -/
inductive Mismatch where
  /-- The surroundings ask for one type and the expression has another. -/
  | expected (expected found : Ty)
  /-- Values of two types cannot be compared. -/
  | incomparable (left right : Ty)
  /-- The operands of an arithmetic operator have different types. -/
  | mixedOperands (op : BinOp) (left right : Ty)
  /-- Nothing tells the element type of an array without elements. -/
  | unknownElement
  /-- Only arrays have elements. -/
  | notAnArray (found : Ty)
  /-- A mismatch in words of its own. -/
  | described (text : String)
  deriving DecidableEq, Repr

/-- The wording of a mismatch. -/
def Mismatch.text : Mismatch → String
  | expected t u => s!"expected {t.text}, found {u.text}"
  | incomparable t u => s!"cannot compare {t.text} with {u.text}"
  | mixedOperands op t u =>
    s!"operator '{op.symbol}' needs operands of one numeric type, found {t.text} and {u.text}"
  | unknownElement => "cannot infer the element type of an empty array"
  | notAnArray t => s!"cannot index into a value of type {t.text}"
  | described text => text

/-- What is wrong with a program. -/
inductive Cause where
  /-- The name is already visible where it is declared. -/
  | duplicateDeclaration (name : String)
  /-- The name is not visible where it is used. -/
  | undeclaredIdentifier (name : String)
  | typeMismatch (mismatch : Mismatch)
  /-- The test of a loop or a choice is not Boolean. -/
  | nonBooleanCondition (found : Ty)
  /-- The operand of an arithmetic operator is not a number. -/
  | nonNumericOperand (op : String) (found : Ty)
  /-- An element has another type than the first element. -/
  | heterogeneousArrayElement (expected found : Ty)
  | arrayIndexTypeError (found : Ty)
  /-- A constant index lies before the array, or past the end of an array whose
  length is known. -/
  | arrayIndexOutOfRange (index : Int64) (length : Option Nat)
  /-- A return stands outside of all bodies. -/
  | misplacedReturn
  deriving DecidableEq, Repr

namespace Cause

/-- The name of the kind of a cause. -/
def code : Cause → String
  | duplicateDeclaration _ => "DuplicateDeclaration"
  | undeclaredIdentifier _ => "UndeclaredIdentifier"
  | typeMismatch _ => "TypeMismatch"
  | nonBooleanCondition _ => "NonBooleanCondition"
  | nonNumericOperand _ _ => "NonNumericOperand"
  | heterogeneousArrayElement _ _ => "HeterogeneousArrayElement"
  | arrayIndexTypeError _ => "ArrayIndexTypeError"
  | arrayIndexOutOfRange _ _ => "ArrayIndexOutOfRange"
  | misplacedReturn => "MisplacedReturn"

/-- The rules that a cause breaks: those of names, of statements or of types. -/
def title : Cause → String
  | duplicateDeclaration _ | undeclaredIdentifier _ => "Scope error"
  | misplacedReturn => "Semantic error"
  | _ => "Type error"

/-- What is wrong, in words. -/
def message : Cause → String
  | duplicateDeclaration name => s!"identifier '{name}' already declared"
  | undeclaredIdentifier name => s!"identifier '{name}' not declared"
  | typeMismatch mismatch => s!"type mismatch: {mismatch.text}"
  | nonBooleanCondition t => s!"condition must be Boolean, found {t.text}"
  | nonNumericOperand op t => s!"operator '{op}' expects numeric operands, found {t.text}"
  | heterogeneousArrayElement t u =>
    s!"array elements must share one type: expected {t.text}, found {u.text}"
  | arrayIndexTypeError t => s!"array index must be Int, found {t.text}"
  | arrayIndexOutOfRange n none => s!"array index {n.toInt} is out of range"
  | arrayIndexOutOfRange n (some length) =>
    s!"array index {n.toInt} is out of range for an array of length {length}"
  | misplacedReturn => "return is only allowed inside a while, for or if body"

/-- The rule behind a cause, where the message does not say it. -/
def note? : Cause → Option String
  | duplicateDeclaration _ =>
    some "names may not be redeclared anywhere in the enclosing scope chain"
  | heterogeneousArrayElement _ _ =>
    some "all elements of an array literal must have the same type"
  | _ => none

end Cause

/-- What is wrong with a program, and where. -/
structure AnalysisError where
  /-- What is wrong. -/
  cause : Cause
  /-- The part of the program that is wrong. -/
  span : Span
  deriving DecidableEq, Repr

end Yuyan
