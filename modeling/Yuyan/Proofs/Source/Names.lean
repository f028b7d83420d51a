import Yuyan.Source

/-!
# The names in a program

Every name that stands in a program, be it where a variable is declared, where it is
assigned to or where it is used, as often as it stands there.
-/

namespace Yuyan.Source

mutual

/-- The names in an expression. -/
def Expr.names : Expr → List String
  | .int .. | .float .. | .string .. | .char .. | .bool .. => []
  | .name x _ => [x]
  | .paren e _ | .unary _ e _ => e.names
  | .binary _ l r _ => l.names ++ r.names
  | .array es _ => namesOfElements es
  | .index a i _ => a.names ++ i.names
termination_by structural e => e

/-- The names in the elements of an array. -/
def namesOfElements : List Expr → List String
  | [] => []
  | e :: es => e.names ++ namesOfElements es
termination_by structural es => es

end

mutual

/-- The names in a statement. -/
def Stmt.names : Stmt → List String
  | .decl _ x e _ | .assign x e _ => x.name :: e.names
  | .print e _ | .ret e _ => e.names
  | .loop _ test body _ => test.names ++ body.names
  | .cond test consequent none _ => test.names ++ consequent.names
  | .cond test consequent (some alternate) _ =>
    test.names ++ (consequent.names ++ alternate.names)
  | .skip _ => []
termination_by structural s => s

/-- The names in a body. -/
def Block.names : Block → List String
  | .mk ss _ => namesOfAll ss
termination_by structural b => b

/-- The names in statements in order. -/
def namesOfAll : List Stmt → List String
  | [] => []
  | s :: ss => s.names ++ namesOfAll ss
termination_by structural ss => ss

end

theorem namesOfAll_append (ss us : List Stmt) :
    namesOfAll (ss ++ us) = namesOfAll ss ++ namesOfAll us := by
  induction ss with
  | nil => rfl
  | cons s ss ih => rw [List.cons_append, namesOfAll, namesOfAll, ih, List.append_assoc]

end Yuyan.Source
