import Yuyan.Proofs.Elaboration.Scopes
import Yuyan.Proofs.Relabeling.Basic
import Yuyan.Proofs.Typed.Renumber

/-!
# Elaboration where more is counted

The declarations before a body are counted to give those of the body their numbers, and for
nothing else. Where `n` more are counted and the open scopes are the same, the body fails with
the same error, or becomes the same with all numbers of its own greater by `n`
(`Source.Block.result_elaborate_later`).

The two runs are followed side by side (`Analysis.Alongside`). Inside the body the open scopes
of the second are those of the first with other numbers. The number alone does not tell which
variables have another one, for in a state taken at random a variable may have any number. But
a declaration inside the body never gives one of the variables that were visible before it:
these stay visible, so that their names cannot be declared again.
-/

namespace Yuyan

open Typed (Expr)

variable {ν : Variable → Nat}

/-! ### Scopes -/

namespace Scope

/-- The open scopes with other numbers. -/
def renumber (ν : Variable → Nat) (s : Scope) : Scope := s.map (Variable.renumber ν)

variable (s : Scope)

theorem lookup?_renumber (name : String) :
    (s.renumber ν).lookup? name = (s.lookup? name).map (Variable.renumber ν) :=
  s.lookup?_map fun _ => Iff.rfl

theorem isVisible_renumber (name : String) : (s.renumber ν).isVisible name = s.isVisible name :=
  s.isVisible_map fun _ => Iff.rfl

theorem resolve_renumber (name : String) (span : Span) :
    (s.renumber ν).resolve name span = (s.resolve name span).map (Variable.renumber ν) := by
  rw [resolve, lookup?_renumber, resolve]
  cases s.lookup? name <;> rfl

theorem renumber_eq_self (h : ∀ x ∈ s.visible, ν x = x.id) : s.renumber ν = s :=
  s.map_eq_self fun x hx => Variable.renumber_of_eq (h x hx)

end Scope

/-! ### Rules of typing -/

section Results

variable {α α' β β' : Type} {f : α → α'} {g : β → β'}

/-- Of two steps in sequence, each may give something else. -/
theorem bind_eq_map {x : Except AnalysisError α} {x' : Except AnalysisError α'}
    {k : α → Except AnalysisError β} {k' : α' → Except AnalysisError β'}
    (hx : x' = x.map f) (hk : ∀ a, k' (f a) = (k a).map g) : (x' >>= k') = (x >>= k).map g := by
  subst hx
  cases x with
  | ok a => exact hk a
  | error e => rfl

/-- The same where the first step gives the same. -/
theorem bind_eq_map_right {x : Except AnalysisError α} {k : α → Except AnalysisError β}
    {k' : α → Except AnalysisError β'} (hk : ∀ a, k' a = (k a).map g) :
    (x >>= k') = (x >>= k).map g := by
  cases x with
  | ok a => exact hk a
  | error e => rfl

end Results

namespace Typed.Expr

variable (e : Expr)

theorem expectTy_renumber (t : Ty) : (e.renumber ν).expectTy t = e.expectTy t := by
  rw [expectTy, ty_renumber, span_renumber, expectTy]

theorem expectNumeric_renumber (op : String) :
    (e.renumber ν).expectNumeric op = e.expectNumeric op := by
  rw [expectNumeric, ty_renumber, span_renumber, expectNumeric]

theorem expectCondition_renumber : (e.renumber ν).expectCondition = e.expectCondition := by
  rw [expectCondition, ty_renumber, span_renumber, expectCondition]

theorem elementTy_renumber : (e.renumber ν).elementTy = e.elementTy := by
  rw [elementTy, ty_renumber, span_renumber, elementTy]

theorem expectIndex_renumber : (e.renumber ν).expectIndex = e.expectIndex := by
  rw [expectIndex, ty_renumber, span_renumber, expectIndex]

theorem asChar_renumber : (e.renumber ν).asChar = e.asChar.renumber ν := by
  cases e with
  | lit v t s =>
    cases v with
    | string text =>
      simp only [renumber, asChar]
      cases onlyChar? text <;> rfl
    | _ => rfl
  | _ => rfl

end Typed.Expr

open Typed.Expr

theorem UnOp.resultTy_renumber (op : UnOp) (e : Expr) :
    op.resultTy (e.renumber ν) = op.resultTy e := by
  cases op with
  | neg => rw [resultTy, resultTy, expectNumeric_renumber, ty_renumber]
  | not => rw [resultTy, resultTy, expectTy_renumber]

theorem BinOp.resultTy_renumber (op : BinOp) (l r : Expr) (s : Span) :
    op.resultTy (l.renumber ν) (r.renumber ν) s = op.resultTy l r s := by
  simp only [resultTy, ty_renumber, expectTy_renumber, expectNumeric_renumber]

theorem checkIndex_renumber (a i : Expr) :
    checkIndex (a.renumber ν) (i.renumber ν) = checkIndex a i := by
  simp only [checkIndex, constant?_renumber, length?_renumber, span_renumber]

/-! ### Expressions -/

namespace Source

mutual

/-- Where the visible variables have other numbers, an expression becomes the same with these
numbers, and fails with the same error. -/
theorem Expr.elaborate_renumber (scope : Scope) :
    ∀ (e : Expr) (x : Option Ty), e.elaborate (scope.renumber ν) x =
      (e.elaborate scope x).map (Typed.Expr.renumber ν)
  | .int .., _ | .float .., _ | .string .., _ | .char .., _ | .bool .., _ => rfl
  | .name n s, _ => bind_eq_map (scope.resolve_renumber n s) fun _ => rfl
  | .paren e _, x => Expr.elaborate_renumber scope e x
  | .unary op e _, _ => by
    refine bind_eq_map (Expr.elaborate_renumber scope e none) fun e' => ?_
    rw [UnOp.resultTy_renumber]
    exact bind_eq_map_right fun _ => rfl
  | .binary op l r s, _ => by
    have typed (l' r' : Typed.Expr) :
        (op.resultTy (l'.renumber ν) (r'.renumber ν) s >>= fun t =>
          .ok (.binary op (l'.renumber ν) (r'.renumber ν) t s)) =
        (op.resultTy l' r' s >>= fun t => .ok (.binary op l' r' t s)).map
          (Typed.Expr.renumber ν) := by
      rw [BinOp.resultTy_renumber]
      exact bind_eq_map_right fun _ => rfl
    rw [Expr.elaborate, Expr.elaborate]
    split
    · split
      -- an array without elements on the left is typed from the right
      · refine bind_eq_map (Expr.elaborate_renumber scope r none) fun r' => ?_
        rw [ty_renumber]
        exact bind_eq_map (Expr.elaborate_renumber scope l _) fun l' => typed l' r'
      · refine bind_eq_map (Expr.elaborate_renumber scope l none) fun l' => ?_
        rw [ty_renumber]
        refine bind_eq_map (Expr.elaborate_renumber scope r _) fun r' => ?_
        have left : (if r'.ty = .char then (l'.renumber ν).asChar else l'.renumber ν) =
            (if r'.ty = .char then l'.asChar else l').renumber ν := by
          rw [asChar_renumber]
          split <;> rfl
        rw [ty_renumber, left]
        exact typed _ r'
    · exact bind_eq_map (Expr.elaborate_renumber scope l none) fun l' =>
        bind_eq_map (Expr.elaborate_renumber scope r none) fun r' => typed l' r'
  | .array [] s, x => by
    rw [Expr.elaborate, Expr.elaborate]
    split <;> rfl
  | .array (e :: es) s, x => by
    refine bind_eq_map (Expr.elaborate_renumber scope e _) fun e' => ?_
    rw [ty_renumber]
    exact bind_eq_map (elaborateElements_renumber scope es _) fun _ => rfl
  | .index a i s, _ => by
    refine bind_eq_map (Expr.elaborate_renumber scope a none) fun a' => ?_
    rw [elementTy_renumber]
    refine bind_eq_map_right fun _ =>
      bind_eq_map (Expr.elaborate_renumber scope i none) fun i' => ?_
    rw [expectIndex_renumber, checkIndex_renumber]
    exact bind_eq_map_right fun _ => bind_eq_map_right fun _ => rfl
termination_by structural e => e

theorem elaborateElements_renumber (scope : Scope) :
    ∀ (es : List Expr) (t : Ty), elaborateElements (scope.renumber ν) es t =
      (elaborateElements scope es t).map (Typed.renumberElements ν)
  | [], _ => rfl
  | e :: es, t => by
    refine bind_eq_map (Expr.elaborate_renumber scope e _) fun e' => ?_
    rw [ty_renumber, span_renumber]
    split
    · exact bind_eq_map (elaborateElements_renumber scope es t) fun _ => rfl
    · rfl
termination_by structural es => es

end

theorem Expr.elaborateTest_renumber (e : Expr) (scope : Scope) :
    e.elaborateTest (scope.renumber ν) =
      (e.elaborateTest scope).map (Typed.Expr.renumber ν) := by
  refine bind_eq_map (Expr.elaborate_renumber scope e none) fun e' => ?_
  rw [expectCondition_renumber]
  exact bind_eq_map_right fun _ => rfl

theorem Expr.elaborateValue_renumber (e : Expr) (t : Ty) (scope : Scope) :
    e.elaborateValue t (scope.renumber ν) =
      (e.elaborateValue t scope).map (Typed.Expr.renumber ν) := by
  refine bind_eq_map (Expr.elaborate_renumber scope e _) fun e' => ?_
  rw [expectTy_renumber]
  exact bind_eq_map_right fun _ => rfl

end Source

/-! ### Two runs side by side -/

/-- The number of a variable where `n` more declarations are counted before a body: what was
visible before it keeps its number. -/
def numberLater (outer : List Variable) (n : Nat) (x : Variable) : Nat :=
  if x ∈ outer then x.id else x.id + n

variable {outer : List Variable} {n : Nat}

/-- The second state is the first with `n` more declarations counted, inside of scopes in which
the variables `outer` are visible. -/
structure Context.Ahead (outer : List Variable) (n : Nat) (c c' : Context) : Prop where
  scope : c'.scope = c.scope.renumber (numberLater outer n)
  declared : c'.declared = c.declared + n
  visible : outer ⊆ c.scope.visible

theorem Context.Ahead.enter {c c' : Context} (h : c.Ahead outer n c') :
    c.enter.Ahead outer n c'.enter where
  scope := congrArg Scope.enter h.scope
  declared := h.declared
  visible := h.visible

theorem Context.ahead_self (c : Context) (n : Nat) :
    c.Ahead c.scope.visible n { c with declared := c.declared + n } where
  scope := (c.scope.renumber_eq_self fun _ hx => if_pos hx).symm
  declared := rfl
  visible := List.Subset.refl _

namespace Analysis

variable {α β : Type} {f : α → α} {g : β → β}

/-- Where more is counted, the second step gives what the first one gives otherwise, changed by
`f`, and more is counted after it. -/
def Alongside (outer : List Variable) (n : Nat) (f : α → α) (x x' : Analysis α) : Prop :=
  ∀ c c' : Context, c.Ahead outer n c' →
    (x' c').result = (x c).result.map f ∧ (x c).context.Ahead outer n (x' c').context

theorem alongside_pure {a a' : α} (h : f a = a') : Alongside outer n f (pure a) (pure a') :=
  fun _ _ hc => ⟨congrArg Except.ok h.symm, hc⟩

theorem Alongside.bind {x x' : Analysis α} {k k' : α → Analysis β} (hx : Alongside outer n f x x')
    (hk : ∀ a, Alongside outer n g (k a) (k' (f a))) :
    Alongside outer n g (x >>= k) (x' >>= k') := by
  intro c c' hc
  obtain ⟨hr, hc₁⟩ := hx c c' hc
  cases h : (x c).result with
  | ok a =>
    have h' : (x' c').result = .ok (f a) := by rw [hr, h]; rfl
    rw [bind_of_ok h, bind_of_ok h']
    exact hk a _ _ hc₁
  | error e =>
    have h' : (x' c').result = .error e := by rw [hr, h]; rfl
    rw [bind_of_error h, bind_of_error h']
    exact ⟨rfl, hc₁⟩

theorem alongside_reading {h : Scope → Except AnalysisError α}
    (hh : ∀ scope, h (scope.renumber (numberLater outer n)) = (h scope).map f) :
    Alongside outer n f (.reading h) (.reading h) := by
  intro c c' hc
  refine ⟨?_, hc⟩
  rw [reading_apply, hc.scope, hh, reading_apply]

/-- The variable declared is none of those that are visible, so its number is greater in the
second run. -/
theorem alongside_declare (target : Source.Ident) (t : Ty) :
    Alongside outer n (Variable.renumber (numberLater outer n)) (.declare target t)
      (.declare target t) := by
  intro c c' hc
  have visible : c'.scope.isVisible target.name = c.scope.isVisible target.name := by
    rw [hc.scope, Scope.isVisible_renumber]
  have count : c'.declared + 1 = c.declared + 1 + n := by
    rw [hc.declared]
    omega
  rw [declare, declare, Scope.declare, Scope.declare, visible]
  by_cases h : c.scope.isVisible target.name = true
  · rw [if_pos h, if_pos h]
    exact ⟨rfl, hc.scope, count, hc.visible⟩
  · let x : Variable := ⟨target.name, t, c.declared + 1⟩
    have fresh : x ∉ outer := fun hx =>
      h (Scope.isVisible_iff.2 ⟨x, hc.visible hx, rfl⟩)
    have later : x.renumber (numberLater outer n) = ⟨target.name, t, c'.declared + 1⟩ := by
      rw [count, Variable.renumber, numberLater, if_neg fresh]
    rw [if_neg h, if_neg h]
    refine ⟨congrArg Except.ok later.symm, ?_, count, ?_⟩
    · rw [hc.scope, ← later]
      rfl
    · exact fun y hy => List.mem_cons_of_mem _ (hc.visible hy)

end Analysis

/-! ### Statements -/

namespace Source

open Analysis

mutual

/-- Where more is counted, a statement becomes the same with greater numbers. -/
theorem Stmt.alongside_elaborate : ∀ s : Stmt,
    Alongside outer n (Typed.Stmt.renumber (numberLater outer n)) s.elaborate s.elaborate
  | .decl written target value s => by
    rw [Stmt.elaborate]
    exact (alongside_reading (value.elaborateValue_renumber _)).bind fun _ =>
      (alongside_declare target _).bind fun _ => alongside_pure rfl
  | .assign target value s => by
    rw [Stmt.elaborate]
    exact alongside_reading fun scope =>
      bind_eq_map (scope.resolve_renumber target.name target.span) fun x =>
        bind_eq_map (value.elaborateValue_renumber x.ty scope) fun _ => rfl
  | .print e s => by
    rw [Stmt.elaborate]
    exact alongside_reading fun scope => bind_eq_map (e.elaborate_renumber scope none) fun _ => rfl
  | .loop kind test body s => by
    rw [Stmt.elaborate]
    exact (alongside_reading test.elaborateTest_renumber).bind fun _ =>
      (Block.alongside_elaborate body).bind fun _ => alongside_pure rfl
  | .cond test consequent none s => by
    rw [Stmt.elaborate]
    exact (alongside_reading test.elaborateTest_renumber).bind fun _ =>
      (Block.alongside_elaborate consequent).bind fun _ => alongside_pure rfl
  | .cond test consequent (some alternate) s => by
    rw [Stmt.elaborate]
    exact (alongside_reading test.elaborateTest_renumber).bind fun _ =>
      (Block.alongside_elaborate consequent).bind fun _ =>
        (Block.alongside_elaborate alternate).bind fun _ => alongside_pure rfl
  | .skip s => by
    rw [Stmt.elaborate]
    exact alongside_pure rfl
  | .ret e s => by
    rw [Stmt.elaborate]
    refine alongside_reading fun scope => ?_
    rw [Scope.renumber, Scope.isRoot_map]
    split
    · rfl
    · exact bind_eq_map (e.elaborate_renumber scope none) fun _ => rfl
termination_by structural s => s

theorem Block.alongside_elaborate : ∀ b : Block,
    Alongside outer n (Typed.renumberAll (numberLater outer n)) b.elaborate b.elaborate
  | .mk ss p => by
    intro c c' hc
    obtain ⟨hr, inner⟩ := alongside_elaborateAll ss _ _ hc.enter
    -- both runs leave the body with the scopes that they have entered it with
    have left := (Block.mk ss p).restores_elaborate c
    have left' := (Block.mk ss p).restores_elaborate c'
    refine ⟨hr, ?_, inner.declared, ?_⟩
    · rw [left, left', hc.scope]
    · rw [left]
      exact hc.visible
termination_by structural b => b

theorem alongside_elaborateAll : ∀ ss : List Stmt,
    Alongside outer n (Typed.renumberAll (numberLater outer n)) (elaborateAll ss) (elaborateAll ss)
  | [] => alongside_pure rfl
  | s :: ss => by
    rw [elaborateAll]
    exact (Stmt.alongside_elaborate s).bind fun _ =>
      (alongside_elaborateAll ss).bind fun _ => alongside_pure rfl
termination_by structural ss => ss

end

/-- Where `n` more declarations are counted, a body fails with the same error, or becomes the
same with the numbers greater by `n` of all variables but those that are visible before it. -/
theorem Block.result_elaborate_later (b : Block) (c : Context) (n : Nat) :
    (b.elaborate { c with declared := c.declared + n }).result =
      (b.elaborate c).result.map (Typed.renumberAll (numberLater c.scope.visible n)) :=
  (b.alongside_elaborate c _ (c.ahead_self n)).1

end Source

end Yuyan
