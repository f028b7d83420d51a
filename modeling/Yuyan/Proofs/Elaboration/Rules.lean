import Yuyan.Elaboration.Program
import Yuyan.Proofs.Typed.Visibility
import Yuyan.Proofs.Typing

/-!
# The rules of elaboration

What elaboration does, as rules: `Elaborates scope expected e e'` says that an
expression becomes the typed expression `e'` in a scope where a type may be expected.
The rules hold of exactly what elaboration gives when it succeeds
(`elaborate_eq_ok_iff`), so that what is to hold of every elaborated program is proved
by induction on the rules, and a program is shown to be accepted by applying them.
-/

namespace Yuyan

open Typed (Expr)

/-! ### Expressions -/

mutual

/-- The rules for expressions. -/
inductive Elaborates (scope : Scope) : Option Ty → Source.Expr → Expr → Prop where
  | int {x : Option Ty} {n : Int64} {s : Span} :
      Elaborates scope x (.int n s) (.lit (.int n) .int s)
  | float {x : Option Ty} {v : Float} {s : Span} :
      Elaborates scope x (.float v s) (.lit (.float v) .float s)
  | bool {x : Option Ty} {b : Bool} {s : Span} :
      Elaborates scope x (.bool b s) (.lit (.boolean b) .boolean s)
  | char {x : Option Ty} {c : Char} {s : Span} :
      Elaborates scope x (.char c s) (.lit (.char c) .char s)
  /-- A text is a text, except where it stands for a character. -/
  | text {x : Option Ty} {t : String} {s : Span} (other : x = some .char → onlyChar? t = none) :
      Elaborates scope x (.string t s) (.lit (.string t) .string s)
  | character {t : String} {c : Char} {s : Span} (only : onlyChar? t = some c) :
      Elaborates scope (some .char) (.string t s) (.lit (.char c) .char s)
  | name {x : Option Ty} {n : String} {v : Variable} {s : Span}
      (visible : scope.lookup? n = some v) : Elaborates scope x (.name n s) (.var v v.ty s)
  | paren {x : Option Ty} {e : Source.Expr} {e' : Expr} {s : Span}
      (inner : Elaborates scope x e e') : Elaborates scope x (.paren e s) e'
  | unary {x : Option Ty} {op : UnOp} {e : Source.Expr} {e' : Expr} {t : Ty} {s : Span}
      (operand : Elaborates scope none e e') (ty : op.resultTy e' = .ok t) :
      Elaborates scope x (.unary op e s) (.unary op e' t s)
  /-- An array without elements gets its type from the other side. -/
  | equalityRight {x : Option Ty} {op : BinOp} {l r : Source.Expr} {l' r' : Expr} {t : Ty}
      {s : Span} (isEquality : op.isEquality = true) (empty : l.isEmptyArray = true)
      (right : Elaborates scope none r r') (left : Elaborates scope (some r'.ty) l l')
      (ty : op.resultTy l' r' s = .ok t) :
      Elaborates scope x (.binary op l r s) (.binary op l' r' t s)
  /-- A text beside a character stands for a character. -/
  | equality {x : Option Ty} {op : BinOp} {l r : Source.Expr} {l' r' : Expr} {t : Ty} {s : Span}
      (isEquality : op.isEquality = true) (notEmpty : l.isEmptyArray = false)
      (left : Elaborates scope none l l') (right : Elaborates scope (some l'.ty) r r')
      (ty : op.resultTy (if r'.ty = .char then l'.asChar else l') r' s = .ok t) :
      Elaborates scope x (.binary op l r s)
        (.binary op (if r'.ty = .char then l'.asChar else l') r' t s)
  | binary {x : Option Ty} {op : BinOp} {l r : Source.Expr} {l' r' : Expr} {t : Ty} {s : Span}
      (notEquality : op.isEquality = false) (left : Elaborates scope none l l')
      (right : Elaborates scope none r r') (ty : op.resultTy l' r' s = .ok t) :
      Elaborates scope x (.binary op l r s) (.binary op l' r' t s)
  | emptyArray {t : Ty} {s : Span} :
      Elaborates scope (some (.array t)) (.array [] s) (.array [] (.array t) s)
  | array {x : Option Ty} {e : Source.Expr} {es : List Source.Expr} {e' : Expr} {es' : List Expr}
      {s : Span} (first : Elaborates scope (x.bind Ty.element?) e e')
      (rest : ElaboratesElements scope e'.ty es es') :
      Elaborates scope x (.array (e :: es) s) (.array (e' :: es') (.array e'.ty) s)
  | index {x : Option Ty} {a i : Source.Expr} {a' i' : Expr} {t : Ty} {s : Span}
      (array : Elaborates scope none a a') (arrayTy : a'.ty = .array t)
      (index : Elaborates scope none i i') (indexTy : i'.ty = .int)
      (inRange : checkIndex a' i' = .ok ()) :
      Elaborates scope x (.index a i s) (.index a' i' t s)

/-- The rules for the elements of an array whose first element has the type `t`. -/
inductive ElaboratesElements (scope : Scope) : Ty → List Source.Expr → List Expr → Prop where
  | nil {t : Ty} : ElaboratesElements scope t [] []
  | cons {t : Ty} {e : Source.Expr} {es : List Source.Expr} {e' : Expr} {es' : List Expr}
      (head : Elaborates scope (some t) e e') (ty : e'.ty = t)
      (tail : ElaboratesElements scope t es es') :
      ElaboratesElements scope t (e :: es) (e' :: es')

end

/-! ### Elaboration follows the rules -/

theorem Literal.ofText_other {x : Option Ty} {t : String}
    (h : x = some .char → onlyChar? t = none) : ofText t x = .string t := by
  unfold ofText
  split
  · rename_i c hc; rw [h rfl] at hc; cases hc
  · rfl

theorem Literal.ofText_character {t : String} {c : Char} (h : onlyChar? t = some c) :
    ofText t (some .char) = .char c := by
  unfold ofText
  rw [h]

theorem elaborates_text {scope : Scope} (x : Option Ty) (t : String) (s : Span) :
    Elaborates scope x (.string t s) (.ofLiteral (.ofText t x) s) := by
  unfold Literal.ofText
  split
  · rename_i c hc; exact .character hc
  · rename_i h
    refine .text fun hx => Option.eq_none_iff_forall_ne_some.2 fun c hc => ?_
    exact h c hx hc

mutual

theorem elaborates_of_elaborate {scope : Scope} : ∀ {e : Source.Expr} {x : Option Ty} {e' : Expr},
    e.elaborate scope x = .ok e' → Elaborates scope x e e'
  | .int n s, x, e', h => by cases h; exact .int
  | .float v s, x, e', h => by cases h; exact .float
  | .bool b s, x, e', h => by cases h; exact .bool
  | .char c s, x, e', h => by cases h; exact .char
  | .string t s, x, e', h => by cases h; exact elaborates_text x t s
  | .name n s, x, e', h => by
    obtain ⟨v, hv, h⟩ := bind_eq_ok_iff.1 h
    cases h
    exact .name (Scope.resolve_eq_ok_iff.1 hv)
  | .paren e s, x, e', h => .paren (elaborates_of_elaborate h)
  | .unary op e s, x, e', h => by
    obtain ⟨u, hu, h⟩ := bind_eq_ok_iff.1 h
    obtain ⟨t, ht, h⟩ := bind_eq_ok_iff.1 h
    cases h
    exact .unary (elaborates_of_elaborate hu) ht
  | .binary op l r s, x, e', h => by
    rw [Source.Expr.elaborate] at h
    split at h
    · rename_i hop
      split at h
      · rename_i hl
        obtain ⟨r', hr', h⟩ := bind_eq_ok_iff.1 h
        obtain ⟨l', hl', h⟩ := bind_eq_ok_iff.1 h
        obtain ⟨t, ht, h⟩ := bind_eq_ok_iff.1 h
        cases h
        exact .equalityRight hop hl (elaborates_of_elaborate hr') (elaborates_of_elaborate hl') ht
      · rename_i hl
        obtain ⟨l', hl', h⟩ := bind_eq_ok_iff.1 h
        obtain ⟨r', hr', h⟩ := bind_eq_ok_iff.1 h
        obtain ⟨t, ht, h⟩ := bind_eq_ok_iff.1 h
        cases h
        exact .equality hop (by simpa using hl) (elaborates_of_elaborate hl')
          (elaborates_of_elaborate hr') ht
    · rename_i hop
      obtain ⟨l', hl', h⟩ := bind_eq_ok_iff.1 h
      obtain ⟨r', hr', h⟩ := bind_eq_ok_iff.1 h
      obtain ⟨t, ht, h⟩ := bind_eq_ok_iff.1 h
      cases h
      exact .binary (by simpa using hop) (elaborates_of_elaborate hl')
        (elaborates_of_elaborate hr') ht
  | .array [] s, x, e', h => by
    rw [Source.Expr.elaborate] at h
    split at h
    · rename_i t ht
      obtain ⟨u, rfl, hu⟩ := Option.bind_eq_some_iff.1 ht
      rw [Ty.element?_eq_some] at hu
      subst hu
      cases h
      exact .emptyArray
    · cases h
  | .array (e :: es) s, x, e', h => by
    obtain ⟨u, hu, h⟩ := bind_eq_ok_iff.1 h
    obtain ⟨us, hus, h⟩ := bind_eq_ok_iff.1 h
    cases h
    exact .array (elaborates_of_elaborate hu) (elaboratesElements_of_elaborate hus)
  | .index a i s, x, e', h => by
    obtain ⟨a', ha, h⟩ := bind_eq_ok_iff.1 h
    obtain ⟨t, ht, h⟩ := bind_eq_ok_iff.1 h
    obtain ⟨i', hi, h⟩ := bind_eq_ok_iff.1 h
    obtain ⟨_, hit, h⟩ := bind_eq_ok_iff.1 h
    obtain ⟨_, hc, h⟩ := bind_eq_ok_iff.1 h
    cases h
    exact .index (elaborates_of_elaborate ha) (elementTy_eq_ok_iff.1 ht)
      (elaborates_of_elaborate hi) (expectIndex_eq_ok_iff.1 hit) hc
termination_by structural e => e

theorem elaboratesElements_of_elaborate {scope : Scope} :
    ∀ {es : List Source.Expr} {t : Ty} {es' : List Expr},
      Source.elaborateElements scope es t = .ok es' → ElaboratesElements scope t es es'
  | [], t, es', h => by cases h; exact .nil
  | e :: es, t, es', h => by
    obtain ⟨u, hu, h⟩ := bind_eq_ok_iff.1 h
    split at h
    · rename_i hc
      obtain ⟨us, hus, h⟩ := bind_eq_ok_iff.1 h
      cases h
      exact .cons (elaborates_of_elaborate hu) (Ty.eq_of_conforms hc).symm
        (elaboratesElements_of_elaborate hus)
    · cases h
termination_by structural es => es

end

mutual

theorem Elaborates.elaborate {scope : Scope} : ∀ {x : Option Ty} {e : Source.Expr} {e' : Expr},
    Elaborates scope x e e' → e.elaborate scope x = .ok e'
  | _, _, _, .int | _, _, _, .float | _, _, _, .bool | _, _, _, .char => rfl
  | _, _, _, .text ho => by
    rw [Source.Expr.elaborate, Literal.ofText_other ho]
    rfl
  | _, _, _, .character hc => by
    rw [Source.Expr.elaborate, Literal.ofText_character hc]
    rfl
  | _, _, _, .name hv => by
    rw [Source.Expr.elaborate, Scope.resolve_eq_ok_iff.2 hv]
    rfl
  | _, _, _, .paren he => he.elaborate
  | _, _, _, .unary he ht => bind_eq_ok_iff.2 ⟨_, he.elaborate, bind_eq_ok_iff.2 ⟨_, ht, rfl⟩⟩
  | _, _, _, .equalityRight hop hl hr' hl' ht => by
    rw [Source.Expr.elaborate, if_pos hop, if_pos hl]
    exact bind_eq_ok_iff.2 ⟨_, hr'.elaborate, bind_eq_ok_iff.2 ⟨_, hl'.elaborate,
      bind_eq_ok_iff.2 ⟨_, ht, rfl⟩⟩⟩
  | _, _, _, .equality hop hl hl' hr' ht => by
    rw [Source.Expr.elaborate, if_pos hop, if_neg (by simp [hl])]
    exact bind_eq_ok_iff.2 ⟨_, hl'.elaborate, bind_eq_ok_iff.2 ⟨_, hr'.elaborate,
      bind_eq_ok_iff.2 ⟨_, ht, rfl⟩⟩⟩
  | _, _, _, .binary hop hl' hr' ht => by
    rw [Source.Expr.elaborate, if_neg (by simp [hop])]
    exact bind_eq_ok_iff.2 ⟨_, hl'.elaborate, bind_eq_ok_iff.2 ⟨_, hr'.elaborate,
      bind_eq_ok_iff.2 ⟨_, ht, rfl⟩⟩⟩
  | _, _, _, .emptyArray => rfl
  | _, _, _, .array he hes =>
    bind_eq_ok_iff.2 ⟨_, he.elaborate, bind_eq_ok_iff.2 ⟨_, hes.elaborate, rfl⟩⟩
  | _, _, _, .index ha hat hi hit hc =>
    bind_eq_ok_iff.2 ⟨_, ha.elaborate, bind_eq_ok_iff.2 ⟨_, elementTy_eq_ok_iff.2 hat,
      bind_eq_ok_iff.2 ⟨_, hi.elaborate, bind_eq_ok_iff.2 ⟨_, expectIndex_eq_ok_iff.2 hit,
        bind_eq_ok_iff.2 ⟨_, hc, rfl⟩⟩⟩⟩⟩

theorem ElaboratesElements.elaborate {scope : Scope} :
    ∀ {t : Ty} {es : List Source.Expr} {es' : List Expr},
      ElaboratesElements scope t es es' → Source.elaborateElements scope es t = .ok es'
  | _, _, _, .nil => rfl
  | _, _, _, .cons he ht hes => by
    refine bind_eq_ok_iff.2 ⟨_, he.elaborate, ?_⟩
    rw [if_pos (Ty.conforms_iff.2 ht.symm)]
    exact bind_eq_ok_iff.2 ⟨_, hes.elaborate, rfl⟩

end

/-- **Elaboration follows the rules**, and nothing but the rules. -/
theorem elaborate_eq_ok_iff {scope : Scope} {x : Option Ty} {e : Source.Expr} {e' : Expr} :
    e.elaborate scope x = .ok e' ↔ Elaborates scope x e e' :=
  ⟨elaborates_of_elaborate, Elaborates.elaborate⟩

end Yuyan
