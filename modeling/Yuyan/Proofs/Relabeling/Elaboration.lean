import Yuyan.Compile
import Yuyan.Proofs.Relabeling.Source
import Yuyan.Proofs.Relabeling.Typed

/-!
# Elaborating relabeled programs

Elaboration of a relabeled program gives the relabeled result, whether it succeeds or fails
(`Source.Program.analyze_relabel`). Two runs are followed side by side, one on a program and
one on the relabeled program. The open scopes of the second are always those of the first,
relabeled, so that a name is found in both or in neither, and the declarations to come get
numbers that the relabeling knows of (`Relabeling.Contexts`). A pair of steps that keeps
this and gives relabeled results is `Alike`; there is one lemma for each way to make a step,
and all else about statements is put together from them.
-/

namespace Yuyan

open Typed (Expr)

variable {ρ : Relabeling}

/-! ### Rules of typing -/

namespace Typed.Expr

theorem expectTy_relabel (e : Expr) (t : Ty) :
    (e.relabel ρ).expectTy t = ρ.onResult id (e.expectTy t) := by
  simp only [expectTy, ty_relabel, span_relabel]
  split <;> rfl

theorem expectNumeric_relabel (e : Expr) (op : String) :
    (e.relabel ρ).expectNumeric op = ρ.onResult id (e.expectNumeric op) := by
  simp only [expectNumeric, ty_relabel, span_relabel]
  split <;> rfl

theorem expectCondition_relabel (e : Expr) :
    (e.relabel ρ).expectCondition = ρ.onResult id e.expectCondition := by
  simp only [expectCondition, ty_relabel, span_relabel]
  split <;> rfl

theorem elementTy_relabel (e : Expr) :
    (e.relabel ρ).elementTy = ρ.onResult id e.elementTy := by
  simp only [elementTy, ty_relabel, span_relabel]
  split <;> rfl

theorem expectIndex_relabel (e : Expr) :
    (e.relabel ρ).expectIndex = ρ.onResult id e.expectIndex := by
  simp only [expectIndex, ty_relabel, span_relabel]
  split <;> rfl

theorem asChar_relabel (e : Expr) : (e.relabel ρ).asChar = e.asChar.relabel ρ := by
  cases e with
  | lit v t s =>
    cases v with
    | string text =>
      simp only [relabel, asChar]
      cases onlyChar? text <;> rfl
    | _ => rfl
  | _ => rfl

end Typed.Expr

open Typed.Expr

theorem UnOp.resultTy_relabel (op : UnOp) (e : Expr) :
    op.resultTy (e.relabel ρ) = ρ.onResult id (op.resultTy e) := by
  cases op with
  | neg => exact Relabeling.onResult_check (expectNumeric_relabel e _) (by rw [ty_relabel]; rfl)
  | not => exact Relabeling.onResult_check (expectTy_relabel e _) rfl

theorem BinOp.resultTy_relabel (op : BinOp) (l r : Expr) (s : Span) :
    op.resultTy (l.relabel ρ) (r.relabel ρ) (ρ.span s) = ρ.onResult id (op.resultTy l r s) := by
  unfold resultTy
  simp only [ty_relabel]
  split
  · split <;> rfl
  split
  · exact Relabeling.onResult_check (expectTy_relabel l _)
      (Relabeling.onResult_check (expectTy_relabel r _) rfl)
  · refine Relabeling.onResult_check (expectNumeric_relabel l _)
      (Relabeling.onResult_check (expectNumeric_relabel r _) ?_)
    split <;> rfl

theorem checkIndex_relabel (a i : Expr) :
    checkIndex (a.relabel ρ) (i.relabel ρ) = ρ.onResult id (checkIndex a i) := by
  rw [checkIndex, checkIndex, constant?_relabel, length?_relabel, span_relabel]
  cases i.constant?.bind Literal.int? with
  | some n => dsimp only; split <;> rfl
  | none => rfl

/-! ### Expressions -/

namespace Source

mutual

/-- A relabeled expression becomes the relabeled expression, and fails with the relabeled
error. -/
theorem Expr.elaborate_relabel (hρ : ρ.Faithful) (scope : Scope) :
    ∀ (e : Expr) (x : Option Ty), (e.relabel ρ).elaborate (scope.relabel ρ) x =
      ρ.onResult (Typed.Expr.relabel ρ) (e.elaborate scope x)
  | .int .., _ | .float .., _ | .string .., _ | .char .., _ | .bool .., _ => rfl
  | .name n s, _ => Relabeling.onResult_bind (scope.resolve_relabel hρ n s) fun _ => rfl
  | .paren e _, x => Expr.elaborate_relabel hρ scope e x
  | .unary op e _, _ =>
    Relabeling.onResult_bind (Expr.elaborate_relabel hρ scope e none) fun e' =>
      Relabeling.onResult_bind (op.resultTy_relabel e') fun _ => rfl
  | .binary op l r s, _ => by
    rw [Expr.relabel, Expr.elaborate, Expr.elaborate, Expr.isEmptyArray_relabel]
    split
    · split
      -- an array without elements on the left is typed from the right
      · refine Relabeling.onResult_bind (Expr.elaborate_relabel hρ scope r none) fun r' => ?_
        rw [ty_relabel]
        exact Relabeling.onResult_bind (Expr.elaborate_relabel hρ scope l _) fun l' =>
          Relabeling.onResult_bind (op.resultTy_relabel l' r' s) fun _ => rfl
      · refine Relabeling.onResult_bind (Expr.elaborate_relabel hρ scope l none) fun l' => ?_
        rw [ty_relabel]
        refine Relabeling.onResult_bind (Expr.elaborate_relabel hρ scope r _) fun r' => ?_
        -- a text on the left is a character in both runs or in neither
        have hl : (if r'.ty = .char then (l'.relabel ρ).asChar else l'.relabel ρ) =
            (if r'.ty = .char then l'.asChar else l').relabel ρ := by
          rw [asChar_relabel]
          split <;> rfl
        rw [ty_relabel, hl]
        exact Relabeling.onResult_bind (op.resultTy_relabel _ r' s) fun _ => rfl
    · exact Relabeling.onResult_bind (Expr.elaborate_relabel hρ scope l none) fun l' =>
        Relabeling.onResult_bind (Expr.elaborate_relabel hρ scope r none) fun r' =>
          Relabeling.onResult_bind (op.resultTy_relabel l' r' s) fun _ => rfl
  | .array [] s, x => by
    rw [Expr.relabel, relabelElements, Expr.elaborate, Expr.elaborate]
    split <;> rfl
  | .array (e :: es) s, x => by
    rw [Expr.relabel, relabelElements, Expr.elaborate, Expr.elaborate]
    refine Relabeling.onResult_bind (Expr.elaborate_relabel hρ scope e _) fun e' => ?_
    rw [ty_relabel]
    exact Relabeling.onResult_bind (elaborateElements_relabel hρ scope es _) fun _ => rfl
  | .index a i s, _ =>
    Relabeling.onResult_bind (Expr.elaborate_relabel hρ scope a none) fun a' =>
      Relabeling.onResult_bind (elementTy_relabel a') fun _ =>
        Relabeling.onResult_bind (Expr.elaborate_relabel hρ scope i none) fun i' =>
          Relabeling.onResult_check (expectIndex_relabel i')
            (Relabeling.onResult_check (checkIndex_relabel a' i') rfl)

theorem elaborateElements_relabel (hρ : ρ.Faithful) (scope : Scope) :
    ∀ (es : List Expr) (t : Ty), elaborateElements (scope.relabel ρ) (relabelElements ρ es) t =
      ρ.onResult (Typed.relabelElements ρ) (elaborateElements scope es t)
  | [], _ => rfl
  | e :: es, t => by
    rw [relabelElements, elaborateElements, elaborateElements]
    refine Relabeling.onResult_bind (Expr.elaborate_relabel hρ scope e _) fun e' => ?_
    rw [ty_relabel, span_relabel]
    split
    · exact Relabeling.onResult_bind (elaborateElements_relabel hρ scope es t) fun _ => rfl
    · rfl

end

theorem Expr.elaborateTest_relabel (hρ : ρ.Faithful) (e : Expr) (scope : Scope) :
    (e.relabel ρ).elaborateTest (scope.relabel ρ) =
      ρ.onResult (Typed.Expr.relabel ρ) (e.elaborateTest scope) :=
  Relabeling.onResult_bind (Expr.elaborate_relabel hρ scope e none) fun e' =>
    Relabeling.onResult_check (expectCondition_relabel e') rfl

theorem Expr.elaborateValue_relabel (hρ : ρ.Faithful) (e : Expr) (t : Ty) (scope : Scope) :
    (e.relabel ρ).elaborateValue t (scope.relabel ρ) =
      ρ.onResult (Typed.Expr.relabel ρ) (e.elaborateValue t scope) :=
  Relabeling.onResult_bind (Expr.elaborate_relabel hρ scope e _) fun e' =>
    Relabeling.onResult_check (expectTy_relabel e' t) rfl

end Source

/-! ### Two runs side by side -/

namespace Relabeling

/-- The second state is the first, relabeled. The numbers of the declarations to come are
relabeled to those that they get in the second run. -/
structure Contexts (ρ : Relabeling) (c c' : Context) : Prop where
  scope : c'.scope = c.scope.relabel ρ
  number : ∀ k, 0 < k → ρ.number (c.declared + k) = c'.declared + k

/-- Nothing is declared in the beginning, and numbers begin with `1`. -/
theorem contexts_start (hn : ∀ n, 0 < n → ρ.number n = n) : ρ.Contexts {} {} :=
  ⟨rfl, fun k hk => by
    change ρ.number (0 + k) = 0 + k
    rw [Nat.zero_add, hn k hk]⟩

/-- From states that are alike, the second step gives what the first does, relabeled by `f`
or as an error, and leaves a state that is like that of the first. -/
def Alike {α β : Type} (ρ : Relabeling) (f : α → β) (x : Analysis α) (x' : Analysis β) : Prop :=
  ∀ c c' : Context, ρ.Contexts c c' →
    (x' c').result = ρ.onResult f (x c).result ∧ ρ.Contexts (x c).context (x' c').context

variable {α β γ δ : Type} {f : α → β}

theorem alike_pure {a : α} {b : β} (h : f a = b) : ρ.Alike f (pure a) (pure b) :=
  fun _ _ hc => ⟨congrArg Except.ok h.symm, hc⟩

theorem Alike.bind {x : Analysis α} {x' : Analysis β} {k : α → Analysis γ} {k' : β → Analysis δ}
    {g : γ → δ} (hx : ρ.Alike f x x') (hk : ∀ a, ρ.Alike g (k a) (k' (f a))) :
    ρ.Alike g (x >>= k) (x' >>= k') := by
  intro c c' hc
  obtain ⟨hr, hc₁⟩ := hx c c' hc
  cases h : (x c).result with
  | ok a =>
    have h' : (x' c').result = .ok (f a) := by rw [hr, h, onResult_ok]
    rw [Analysis.bind_of_ok h, Analysis.bind_of_ok h']
    exact hk a _ _ hc₁
  | error e =>
    have h' : (x' c').result = .error (e.relabel ρ) := by rw [hr, h, onResult_error]
    rw [Analysis.bind_of_error h, Analysis.bind_of_error h']
    exact ⟨rfl, hc₁⟩

theorem alike_reading {h : Scope → Except AnalysisError α} {h' : Scope → Except AnalysisError β}
    (hh : ∀ scope, h' (scope.relabel ρ) = ρ.onResult f (h scope)) :
    ρ.Alike f (.reading h) (.reading h') := by
  intro c c' hc
  refine ⟨?_, hc⟩
  rw [Analysis.reading_apply, hc.scope, hh, Analysis.reading_apply]

/-- The variable declared has the next number in both runs. -/
theorem alike_declare (hρ : ρ.Faithful) (target : Source.Ident) (t : Ty) :
    ρ.Alike (Variable.relabel ρ) (.declare target t) (.declare (target.relabel ρ) t) := by
  intro c c' hc
  have hv : (⟨ρ.name target.name, t, c'.declared + 1⟩ : Variable) =
      Variable.relabel ρ ⟨target.name, t, c.declared + 1⟩ := by
    rw [Variable.relabel, hc.number 1 Nat.one_pos]
  have hn : ∀ k, 0 < k → ρ.number (c.declared + 1 + k) = c'.declared + 1 + k := fun k _ => by
    rw [Nat.add_assoc, hc.number (1 + k) (by omega), Nat.add_assoc]
  have hd := c.scope.declare_relabel hρ ⟨target.name, t, c.declared + 1⟩ target.span
  rw [Analysis.declare, Analysis.declare, Source.Ident.relabel, hv, hc.scope, hd]
  cases c.scope.declare ⟨target.name, t, c.declared + 1⟩ target.span with
  | ok scope => exact ⟨rfl, rfl, hn⟩
  | error e => exact ⟨rfl, rfl, hn⟩

/-- Scopes are entered and left in both runs. -/
theorem Alike.inBody {x : Analysis α} {x' : Analysis β} (hx : ρ.Alike f x x') :
    ρ.Alike f (.inBody x) (.inBody x') := by
  intro c c' hc
  have hi : ρ.Contexts { c with scope := c.scope.enter } { c' with scope := c'.scope.enter } :=
    ⟨by rw [hc.scope, Scope.enter_relabel], hc.number⟩
  obtain ⟨hr, ho⟩ := hx _ _ hi
  refine ⟨hr, ?_, ho.number⟩
  simp only [Analysis.inBody, ho.scope, Scope.leave?_relabel]
  cases ((x { c with scope := c.scope.enter }).context.scope.leave?) <;> rfl

theorem alike_write (e e' : Event) : ρ.Alike id (.write e) (.write e') :=
  fun _ _ hc => ⟨rfl, hc⟩

theorem alike_restart (hn : ∀ n, 0 < n → ρ.number n = n) :
    ρ.Alike id Analysis.restart Analysis.restart :=
  fun _ _ _ => ⟨rfl, contexts_start hn⟩

end Relabeling

/-! ### Statements -/

namespace Source

open Relabeling

mutual

/-- A relabeled statement becomes the relabeled statement. -/
theorem Stmt.alike_elaborate (hρ : ρ.Faithful) :
    ∀ s : Stmt, ρ.Alike (Typed.Stmt.relabel ρ) s.elaborate (s.relabel ρ).elaborate
  | .decl written target value s => by
    rw [Stmt.relabel, Stmt.elaborate, Stmt.elaborate, TyExpr.resolve_relabel]
    exact (alike_reading (value.elaborateValue_relabel hρ _)).bind fun _ =>
      (alike_declare hρ target _).bind fun _ => alike_pure rfl
  | .assign target value s => by
    rw [Stmt.relabel, Stmt.elaborate, Stmt.elaborate]
    exact alike_reading fun scope =>
      onResult_bind (scope.resolve_relabel hρ target.name target.span) fun x =>
        onResult_bind (value.elaborateValue_relabel hρ x.ty scope) fun _ => rfl
  | .print e s => by
    rw [Stmt.relabel, Stmt.elaborate, Stmt.elaborate]
    exact alike_reading fun scope => onResult_bind (e.elaborate_relabel hρ scope none) fun _ => rfl
  | .loop kind test body s => by
    rw [Stmt.relabel, Stmt.elaborate, Stmt.elaborate]
    exact (alike_reading (test.elaborateTest_relabel hρ)).bind fun _ =>
      (Block.alike_elaborate hρ body).bind fun _ => alike_pure rfl
  | .cond test consequent none s => by
    rw [Stmt.relabel, Stmt.elaborate, Stmt.elaborate]
    exact (alike_reading (test.elaborateTest_relabel hρ)).bind fun _ =>
      (Block.alike_elaborate hρ consequent).bind fun _ => alike_pure rfl
  | .cond test consequent (some alternate) s => by
    rw [Stmt.relabel, Stmt.elaborate, Stmt.elaborate]
    exact (alike_reading (test.elaborateTest_relabel hρ)).bind fun _ =>
      (Block.alike_elaborate hρ consequent).bind fun _ =>
        (Block.alike_elaborate hρ alternate).bind fun _ => alike_pure rfl
  | .skip s => by
    rw [Stmt.relabel, Stmt.elaborate, Stmt.elaborate]
    exact alike_pure rfl
  | .ret e s => by
    rw [Stmt.relabel, Stmt.elaborate, Stmt.elaborate]
    refine alike_reading fun scope => ?_
    rw [Scope.isRoot_relabel]
    split
    · rfl
    · exact onResult_bind (e.elaborate_relabel hρ scope none) fun _ => rfl

theorem Block.alike_elaborate (hρ : ρ.Faithful) :
    ∀ b : Block, ρ.Alike (Typed.relabelAll ρ) b.elaborate (b.relabel ρ).elaborate
  | .mk ss _ => by
    rw [Block.relabel, Block.elaborate, Block.elaborate]
    exact (alike_elaborateAll hρ ss).inBody

theorem alike_elaborateAll (hρ : ρ.Faithful) :
    ∀ ss : List Stmt, ρ.Alike (Typed.relabelAll ρ) (elaborateAll ss) (elaborateAll (relabelAll ρ ss))
  | [] => alike_pure rfl
  | s :: ss => by
    rw [relabelAll, elaborateAll, elaborateAll]
    exact (Stmt.alike_elaborate hρ s).bind fun _ =>
      (alike_elaborateAll hρ ss).bind fun _ => alike_pure rfl

end

/-- **A relabeled program becomes the relabeled program**, or fails with the relabeled
error. -/
theorem Program.analyze_relabel (hρ : ρ.Faithful) (hn : ∀ n, 0 < n → ρ.number n = n)
    (u : Program) :
    (u.relabel ρ).analyze.value = ρ.onResult (Typed.Program.relabel ρ) u.analyze.value := by
  have h : ρ.Alike (Typed.Program.relabel ρ) u.elaborate (u.relabel ρ).elaborate :=
    (alike_restart hn).bind fun _ => (alike_write _ _).bind fun _ =>
      (alike_elaborateAll hρ u.statements).bind fun _ =>
        (alike_write _ _).bind fun _ => alike_pure rfl
  exact (h _ _ (contexts_start hn)).1

end Source

end Yuyan
