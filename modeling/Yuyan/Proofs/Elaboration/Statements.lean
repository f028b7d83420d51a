import Yuyan.Compile
import Yuyan.Elaboration.Program
import Yuyan.Proofs.Elaboration.Rules
import Yuyan.Proofs.Elaboration.Steps

/-!
# The rules of elaboration for statements

The rules for expressions (`Elaborates`) continued to statements and programs. A
statement is elaborated from a state, and the statement it becomes tells the state after
it (`Context.after`), so that the rules need not speak of two states.

A program is accepted exactly if the rules can be followed from the state in which
nothing is declared (`analyze_eq_ok_iff`).
-/

namespace Yuyan

open Typed (Expr)

open Analysis (Gives)

/-- The statements of a body. -/
def Source.Block.statements : Source.Block → List Source.Stmt
  | .mk ss _ => ss

/-! ### The rules -/

mutual

/-- The rules for statements. -/
inductive ElaboratesStmt : Context → Source.Stmt → Typed.Stmt → Prop where
  | decl {c : Context} {written : Source.TyExpr} {target : Source.Ident} {e : Source.Expr}
      {e' : Expr} {s : Span} (value : Elaborates c.scope (some written.resolve) e e')
      (ty : e'.ty = written.resolve) (fresh : c.scope.isVisible target.name = false) :
      ElaboratesStmt c (.decl written target e s)
        (.decl written.resolve ⟨target.name, written.resolve, c.declared + 1⟩ e' s)
  | assign {c : Context} {target : Source.Ident} {x : Variable} {e : Source.Expr} {e' : Expr}
      {s : Span} (visible : c.scope.lookup? target.name = some x)
      (value : Elaborates c.scope (some x.ty) e e') (ty : e'.ty = x.ty) :
      ElaboratesStmt c (.assign target e s) (.assign x e' s)
  | print {c : Context} {e : Source.Expr} {e' : Expr} {s : Span}
      (argument : Elaborates c.scope none e e') : ElaboratesStmt c (.print e s) (.print e' s)
  | loop {c : Context} {kind : Loop} {e : Source.Expr} {e' : Expr} {ss : List Source.Stmt}
      {ss' : List Typed.Stmt} {b s : Span} (test : Elaborates c.scope none e e')
      (ty : e'.ty = .boolean) (body : ElaboratesAll c.enter ss ss') :
      ElaboratesStmt c (.loop kind e (.mk ss b) s) (.loop kind e' ss' s)
  | condOnly {c : Context} {e : Source.Expr} {e' : Expr} {ss : List Source.Stmt}
      {ss' : List Typed.Stmt} {b s : Span} (test : Elaborates c.scope none e e')
      (ty : e'.ty = .boolean) (consequent : ElaboratesAll c.enter ss ss') :
      ElaboratesStmt c (.cond e (.mk ss b) none s) (.cond e' ss' none s)
  | condElse {c : Context} {e : Source.Expr} {e' : Expr} {ss us : List Source.Stmt}
      {ss' us' : List Typed.Stmt} {b₁ b₂ s : Span} (test : Elaborates c.scope none e e')
      (ty : e'.ty = .boolean) (consequent : ElaboratesAll c.enter ss ss')
      (alternate : ElaboratesAll (c.afterBody ss').enter us us') :
      ElaboratesStmt c (.cond e (.mk ss b₁) (some (.mk us b₂)) s) (.cond e' ss' (some us') s)
  | skip {c : Context} {s : Span} : ElaboratesStmt c (.skip s) (.skip s)
  /-- A return stands in some body. -/
  | ret {c : Context} {e : Source.Expr} {e' : Expr} {s : Span} (inside : c.scope.isRoot = false)
      (argument : Elaborates c.scope none e e') : ElaboratesStmt c (.ret e s) (.ret e' s)

/-- The rules for statements in order. -/
inductive ElaboratesAll : Context → List Source.Stmt → List Typed.Stmt → Prop where
  | nil {c : Context} : ElaboratesAll c [] []
  | cons {c : Context} {s : Source.Stmt} {ss : List Source.Stmt} {s' : Typed.Stmt}
      {ss' : List Typed.Stmt} (head : ElaboratesStmt c s s')
      (tail : ElaboratesAll (c.after s') ss ss') : ElaboratesAll c (s :: ss) (s' :: ss')

end

/-! ### Elaboration follows the rules -/

theorem elaborateTest_eq_ok_iff {scope : Scope} {e : Source.Expr} {e' : Expr} :
    e.elaborateTest scope = .ok e' ↔ Elaborates scope none e e' ∧ e'.ty = .boolean := by
  rw [Source.Expr.elaborateTest, bind_eq_ok_iff]
  constructor
  · rintro ⟨u, hu, h⟩
    obtain ⟨_, hb, h⟩ := bind_eq_ok_iff.1 h
    cases h
    exact ⟨elaborate_eq_ok_iff.1 hu, expectCondition_eq_ok_iff.1 hb⟩
  · rintro ⟨he, hb⟩
    exact ⟨e', he.elaborate, bind_eq_ok_iff.2 ⟨_, expectCondition_eq_ok_iff.2 hb, rfl⟩⟩

theorem elaborateValue_eq_ok_iff {scope : Scope} {t : Ty} {e : Source.Expr} {e' : Expr} :
    e.elaborateValue t scope = .ok e' ↔ Elaborates scope (some t) e e' ∧ e'.ty = t := by
  rw [Source.Expr.elaborateValue, bind_eq_ok_iff]
  constructor
  · rintro ⟨u, hu, h⟩
    obtain ⟨_, ht, h⟩ := bind_eq_ok_iff.1 h
    cases h
    exact ⟨elaborate_eq_ok_iff.1 hu, expectTy_eq_ok_iff.1 ht⟩
  · rintro ⟨he, ht⟩
    exact ⟨e', he.elaborate, bind_eq_ok_iff.2 ⟨_, expectTy_eq_ok_iff.2 ht, rfl⟩⟩

mutual

theorem gives_elaborate : ∀ {s : Source.Stmt} {c c' : Context} {s' : Typed.Stmt},
    Gives s.elaborate c s' c' ↔ ElaboratesStmt c s s' ∧ c.after s' = c'
  | .decl written target value s, c, c', s' => by
    simp only [Source.Stmt.elaborate, Analysis.gives_bind, Analysis.gives_reading,
      Analysis.gives_declare, Analysis.gives_pure, elaborateValue_eq_ok_iff]
    constructor
    · rintro ⟨e, _, ⟨⟨he, ht⟩, rfl⟩, x, _, ⟨hf, rfl, rfl⟩, rfl, rfl⟩
      exact ⟨.decl he ht hf, rfl⟩
    · rintro ⟨h, rfl⟩
      cases h with
      | decl he ht hf => exact ⟨_, _, ⟨⟨he, ht⟩, rfl⟩, _, _, ⟨hf, rfl, rfl⟩, rfl, rfl⟩
  | .assign target value s, c, c', s' => by
    rw [Source.Stmt.elaborate, Analysis.gives_reading]
    constructor
    · rintro ⟨h, rfl⟩
      obtain ⟨x, hx, h⟩ := bind_eq_ok_iff.1 h
      obtain ⟨e, he, h⟩ := bind_eq_ok_iff.1 h
      cases h
      obtain ⟨he, ht⟩ := elaborateValue_eq_ok_iff.1 he
      exact ⟨.assign (Scope.resolve_eq_ok_iff.1 hx) he ht, rfl⟩
    · rintro ⟨h, rfl⟩
      cases h with
      | assign hx he ht =>
        exact ⟨bind_eq_ok_iff.2 ⟨_, Scope.resolve_eq_ok_iff.2 hx,
          bind_eq_ok_iff.2 ⟨_, elaborateValue_eq_ok_iff.2 ⟨he, ht⟩, rfl⟩⟩, rfl⟩
  | .print e s, c, c', s' => by
    rw [Source.Stmt.elaborate, Analysis.gives_reading]
    constructor
    · rintro ⟨h, rfl⟩
      obtain ⟨e, he, h⟩ := bind_eq_ok_iff.1 h
      cases h
      exact ⟨.print (elaborate_eq_ok_iff.1 he), rfl⟩
    · rintro ⟨h, rfl⟩
      cases h with
      | print he => exact ⟨bind_eq_ok_iff.2 ⟨_, he.elaborate, rfl⟩, rfl⟩
  | .loop kind test body s, c, c', s' => by
    simp only [Source.Stmt.elaborate, Analysis.gives_bind, Analysis.gives_reading,
      Analysis.gives_pure, elaborateTest_eq_ok_iff]
    rcases body with ⟨body, b⟩
    constructor
    · rintro ⟨t, _, ⟨⟨ht, hb⟩, rfl⟩, ss, _, h, rfl, rfl⟩
      obtain ⟨hss, rfl⟩ := gives_elaborateBody.1 h
      exact ⟨.loop ht hb hss, rfl⟩
    · rintro ⟨h, rfl⟩
      cases h with
      | loop ht hb h =>
        exact ⟨_, _, ⟨⟨ht, hb⟩, rfl⟩, _, _, gives_elaborateBody.2 ⟨h, rfl⟩, rfl, rfl⟩
  | .cond test consequent none s, c, c', s' => by
    simp only [Source.Stmt.elaborate, Analysis.gives_bind, Analysis.gives_reading,
      Analysis.gives_pure, elaborateTest_eq_ok_iff]
    rcases consequent with ⟨consequent, b⟩
    constructor
    · rintro ⟨t, _, ⟨⟨ht, hb⟩, rfl⟩, ss, _, h, rfl, rfl⟩
      obtain ⟨hss, rfl⟩ := gives_elaborateBody.1 h
      exact ⟨.condOnly ht hb hss, rfl⟩
    · rintro ⟨h, rfl⟩
      cases h with
      | condOnly ht hb h =>
        exact ⟨_, _, ⟨⟨ht, hb⟩, rfl⟩, _, _, gives_elaborateBody.2 ⟨h, rfl⟩, rfl, rfl⟩
  | .cond test consequent (some alternate) s, c, c', s' => by
    simp only [Source.Stmt.elaborate, Analysis.gives_bind, Analysis.gives_reading,
      Analysis.gives_pure, elaborateTest_eq_ok_iff]
    rcases consequent with ⟨consequent, b₁⟩
    rcases alternate with ⟨alternate, b₂⟩
    constructor
    · rintro ⟨t, _, ⟨⟨ht, hb⟩, rfl⟩, ss, _, h₁, us, _, h₂, rfl, rfl⟩
      obtain ⟨hss, rfl⟩ := gives_elaborateBody.1 h₁
      obtain ⟨hus, rfl⟩ := gives_elaborateBody.1 h₂
      exact ⟨.condElse ht hb hss hus, c.after_cond t ss us s⟩
    · rintro ⟨h, rfl⟩
      cases h with
      | condElse ht hb h₁ h₂ =>
        exact ⟨_, _, ⟨⟨ht, hb⟩, rfl⟩, _, _, gives_elaborateBody.2 ⟨h₁, rfl⟩,
          _, _, gives_elaborateBody.2 ⟨h₂, rfl⟩, rfl, (c.after_cond _ _ _ s).symm⟩
  | .skip s, c, c', s' => by
    rw [Source.Stmt.elaborate, Analysis.gives_pure]
    constructor
    · rintro ⟨rfl, rfl⟩
      exact ⟨.skip, rfl⟩
    · rintro ⟨h, rfl⟩
      cases h with
      | skip => exact ⟨rfl, rfl⟩
  | .ret e s, c, c', s' => by
    rw [Source.Stmt.elaborate, Analysis.gives_reading]
    constructor
    · rintro ⟨h, rfl⟩
      split at h
      · cases h
      · rename_i hr
        obtain ⟨e, he, h⟩ := bind_eq_ok_iff.1 h
        cases h
        exact ⟨.ret (by simpa using hr) (elaborate_eq_ok_iff.1 he), rfl⟩
    · rintro ⟨h, rfl⟩
      cases h with
      | ret hr he =>
        rw [if_neg (by simp [hr])]
        exact ⟨bind_eq_ok_iff.2 ⟨_, he.elaborate, rfl⟩, rfl⟩
termination_by structural s => s

/-- The statements of a body are elaborated from the start of the body. -/
theorem gives_elaborateBody : ∀ {body : Source.Block} {c c' : Context} {ss' : List Typed.Stmt},
    Gives body.elaborate c ss' c' ↔
      ElaboratesAll c.enter body.statements ss' ∧ c.afterBody ss' = c'
  | .mk ss _, c, c', ss' => by
    rw [Source.Block.elaborate, Analysis.gives_inBody]
    simp only [gives_elaborateAll]
    constructor
    · rintro ⟨_, ⟨h, rfl⟩, rfl⟩
      exact ⟨h, (c.leave_afterAll_enter ss').symm⟩
    · rintro ⟨h, rfl⟩
      exact ⟨_, ⟨h, rfl⟩, c.leave_afterAll_enter ss'⟩
termination_by structural b => b

theorem gives_elaborateAll : ∀ {ss : List Source.Stmt} {c c' : Context} {ss' : List Typed.Stmt},
    Gives (Source.elaborateAll ss) c ss' c' ↔ ElaboratesAll c ss ss' ∧ c.afterAll ss' = c'
  | [], c, c', ss' => by
    rw [Source.elaborateAll, Analysis.gives_pure]
    constructor
    · rintro ⟨rfl, rfl⟩
      exact ⟨.nil, rfl⟩
    · rintro ⟨h, rfl⟩
      cases h with
      | nil => exact ⟨rfl, rfl⟩
  | s :: ss, c, c', ss' => by
    simp only [Source.elaborateAll, Analysis.gives_bind, Analysis.gives_pure, gives_elaborate,
      gives_elaborateAll]
    constructor
    · rintro ⟨s', _, ⟨hs, rfl⟩, ss', _, ⟨hss, rfl⟩, rfl, rfl⟩
      exact ⟨.cons hs hss, c.afterAll_cons s' ss'⟩
    · rintro ⟨h, rfl⟩
      cases h with
      | cons hs hss =>
        exact ⟨_, _, ⟨hs, rfl⟩, _, _, ⟨hss, rfl⟩, rfl, (c.afterAll_cons _ _).symm⟩
termination_by structural ss => ss

end

/-- **A program is accepted exactly if the rules can be followed**, from the state in
which nothing is declared. -/
theorem analyze_eq_ok_iff {u : Source.Program} {p : Typed.Program} :
    u.analyze.value = .ok p ↔ ElaboratesAll {} u.statements p.statements ∧ p.span = u.span := by
  change (u.elaborate {}).result = .ok p ↔ _
  have gives : (u.elaborate {}).result = .ok p ↔ ∃ c', Gives u.elaborate {} p c' :=
    ⟨fun h => ⟨_, h, rfl⟩, fun ⟨_, h⟩ => h.1⟩
  rw [gives]
  simp only [Source.Program.elaborate, Analysis.gives_bind, Analysis.gives_restart,
    Analysis.gives_write, Analysis.gives_pure, gives_elaborateAll]
  constructor
  · rintro ⟨_, _, _, rfl, _, _, rfl, ss, _, ⟨h, rfl⟩, _, _, rfl, rfl, rfl⟩
    exact ⟨h, rfl⟩
  · rintro ⟨h, hs⟩
    refine ⟨_, (), _, rfl, (), _, rfl, _, _, ⟨h, rfl⟩, (), _, rfl, ?_, rfl⟩
    rw [← hs]

end Yuyan
