import Yuyan.Proofs.Elaboration.Numbers
import Yuyan.Proofs.Elaboration.Sequence

/-!
# The branches of a choice

The second branch of a choice is analyzed after the first, but it learns nothing of it. The
first leaves the open scopes as they were and only more declarations counted, so the second is
analyzed as if it stood there alone, with greater numbers for its own variables. A choice with
two branches is therefore put together from the two choices that have one of the branches each
(`Source.Stmt.elaborate_cond_alternate`).

Its own variables can be told from the others: what a branch declares was not visible before
it, and whatever stands in it was visible before it or is declared in it.
-/

namespace Yuyan

open Typed (Site sitesOfAll declarationsOfAll renumberAll)

/-! ### What a body declares -/

theorem Context.isVisible_of_after {c : Context} {s : Typed.Stmt} {name : String}
    (h : (c.after s).scope.isVisible name = false) : c.scope.isVisible name = false := by
  rw [Scope.isVisible_eq_false_iff, visible_after] at h
  exact Scope.isVisible_eq_false_iff.2 fun x hx => h x (List.mem_append_right _ hx)

mutual

/-- What is declared in a statement, at any depth, was not visible before the statement. -/
theorem ElaboratesStmt.fresh : ∀ {c : Context} {s : Source.Stmt} {s' : Typed.Stmt},
    ElaboratesStmt c s s' → ∀ x ∈ s'.declarations, c.scope.isVisible x.name = false
  | _, _, _, .decl _ _ fresh => List.forall_mem_singleton.2 fresh
  | _, _, _, .assign .. | _, _, _, .print _ | _, _, _, .skip | _, _, _, .ret .. =>
    List.forall_mem_nil _
  | _, _, _, .loop _ _ body | _, _, _, .condOnly _ _ body => body.fresh
  | _, _, _, .condElse _ _ consequent alternate =>
    List.forall_mem_append.2 ⟨consequent.fresh, alternate.fresh⟩

theorem ElaboratesAll.fresh : ∀ {c : Context} {ss : List Source.Stmt} {ss' : List Typed.Stmt},
    ElaboratesAll c ss ss' → ∀ x ∈ declarationsOfAll ss', c.scope.isVisible x.name = false
  | _, _, _, .nil => List.forall_mem_nil _
  | _, _, _, .cons head tail =>
    List.forall_mem_append.2
      ⟨head.fresh, fun x hx => Context.isVisible_of_after (tail.fresh x hx)⟩

end

theorem Elaborates.target {scope : Scope} {x : Option Ty} {e : Source.Expr} {e' : Typed.Expr}
    (h : Elaborates scope x e e') : ∀ site ∈ e'.sites scope.visible, site.target ∈ scope.visible :=
  List.forall_mem_map.2 fun v hv => (Scope.mem_visible_of_lookup? (h.lookup? v hv)).1

mutual

/-- A variable that stands in a statement was visible before it or is declared in it. -/
theorem ElaboratesStmt.target : ∀ {c : Context} {s : Source.Stmt} {s' : Typed.Stmt},
    ElaboratesStmt c s s' → ∀ site ∈ s'.sites c.scope.visible,
      site.target ∈ c.scope.visible ∨ site.target ∈ s'.declarations
  | _, _, _, .decl value _ _ => by
    rw [Typed.Stmt.sites, List.forall_mem_append, List.forall_mem_singleton]
    exact ⟨fun site h => .inl (value.target site h), .inr List.mem_cons_self⟩
  | _, _, _, .assign visible value _ => by
    rw [Typed.Stmt.sites, List.forall_mem_cons]
    exact ⟨.inl (Scope.mem_visible_of_lookup? visible).1,
      fun site h => .inl (value.target site h)⟩
  | _, _, _, .print e | _, _, _, .ret _ e => fun site h => .inl (e.target site h)
  | _, _, _, .skip => List.forall_mem_nil _
  | _, _, _, .loop test _ body | _, _, _, .condOnly test _ body => by
    rw [Typed.Stmt.sites, List.forall_mem_append]
    exact ⟨fun site h => .inl (test.target site h), body.target⟩
  | _, _, _, .condElse test _ consequent alternate => by
    rw [Typed.Stmt.sites, List.forall_mem_append, List.forall_mem_append]
    exact ⟨fun site h => .inl (test.target site h),
      fun site h => (consequent.target site h).imp_right (List.mem_append_left _),
      fun site h => (alternate.target site h).imp_right (List.mem_append_right _)⟩

theorem ElaboratesAll.target : ∀ {c : Context} {ss : List Source.Stmt} {ss' : List Typed.Stmt},
    ElaboratesAll c ss ss' → ∀ site ∈ sitesOfAll c.scope.visible ss',
      site.target ∈ c.scope.visible ∨ site.target ∈ declarationsOfAll ss'
  | _, _, _, .nil => List.forall_mem_nil _
  | _, _, s' :: _, .cons head tail => by
    rw [sitesOfAll, List.forall_mem_append, ← Context.visible_after]
    refine ⟨fun site h => (head.target site h).imp_right (List.mem_append_left _), ?_⟩
    intro site h
    rcases tail.target site h with hv | hd
    · rw [Context.visible_after] at hv
      rcases List.mem_append.1 hv with hi | hv
      · exact .inr (List.mem_append_left _ (s'.introduced_subset_declarations hi))
      · exact .inl hv
    · exact .inr (List.mem_append_right _ hd)

end

/-! ### Numbers of its own -/

/-- Statements in which the numbers of the variables that they declare are greater by `n`. -/
def Typed.raise (n : Nat) (ss : List Stmt) : List Stmt :=
  renumberAll (fun x => if x ∈ declarationsOfAll ss then x.id + n else x.id) ss

/-- Of the variables in a body, those that were not visible before it are those that it
declares. -/
theorem ElaboratesAll.renumberAll_later {c : Context} {ss : List Source.Stmt}
    {ss' : List Typed.Stmt} (h : ElaboratesAll c ss ss') (n : Nat) :
    renumberAll (numberLater c.scope.visible n) ss' = Typed.raise n ss' := by
  refine Typed.renumberAll_congr fun site (hs : site ∈ sitesOfAll c.scope.visible ss') => ?_
  have apart : site.target ∈ declarationsOfAll ss' → site.target ∉ c.scope.visible :=
    fun hd hv => Scope.isVisible_eq_false_iff.1 (h.fresh _ hd) _ hv rfl
  rw [numberLater]
  rcases h.target site hs with hv | hd
  · rw [if_pos hv, if_neg fun hd => apart hd hv]
  · rw [if_neg (apart hd), if_pos hd]

/-! ### Choices -/

namespace Source

variable {c : Context}

/-- The state after a body is known from what the body becomes. -/
theorem Block.context_elaborate {b : Block} {ss : List Typed.Stmt}
    (h : (b.elaborate c).result = .ok ss) : (b.elaborate c).context = c.afterBody ss :=
  (gives_elaborateBody.1 ⟨h, rfl⟩).2.symm

/-- Where `n` more declarations are counted, a body becomes the same with its own numbers
greater by `n`. -/
theorem Block.result_elaborate_raise (b : Block) (c : Context) (n : Nat) :
    (b.elaborate { c with declared := c.declared + n }).result =
      (b.elaborate c).result.map (Typed.raise n) := by
  rw [b.result_elaborate_later c n]
  cases h : (b.elaborate c).result with
  | error e => rfl
  | ok ss =>
    obtain ⟨hss, -⟩ := gives_elaborateBody.1 ⟨h, rfl⟩
    exact congrArg Except.ok (hss.renumberAll_later n)

namespace Stmt

theorem result_elaborate_condOnly (c : Context) (test : Expr) (b : Block) (s : Span) :
    ((cond test b none s).elaborate c).result = do
      let test' ← test.elaborateTest c.scope
      let ss ← (b.elaborate c).result
      return .cond test' ss none s := by
  rw [elaborate, Analysis.result_reading_bind]
  congr 1
  funext test'
  rw [Analysis.result_bind fun _ h => Block.context_elaborate h]
  rfl

/-- Both branches are analyzed from the same state, and the numbers of the second make room for
those of the first. -/
theorem result_elaborate_condElse (c : Context) (test : Expr) (a b : Block) (s : Span) :
    ((cond test a (some b) s).elaborate c).result = do
      let test' ← test.elaborateTest c.scope
      let ss ← (a.elaborate c).result
      let us ← (b.elaborate c).result
      return .cond test' ss (some (Typed.raise (declarationsOfAll ss).length us)) s := by
  rw [elaborate, Analysis.result_reading_bind]
  congr 1
  funext test'
  rw [Analysis.result_bind fun _ h => Block.context_elaborate h]
  congr 1
  funext ss
  rw [Analysis.result_bind fun _ h => Block.context_elaborate h, Context.afterBody,
    b.result_elaborate_raise c]
  cases (b.elaborate c).result <;> rfl

variable {test : Expr} {a b : Block} {s : Span}

theorem result_elaborate_condOnly_eq_ok {p : Typed.Stmt} :
    ((cond test b none s).elaborate c).result = .ok p ↔ ∃ test' ss,
      test.elaborateTest c.scope = .ok test' ∧ (b.elaborate c).result = .ok ss ∧
      p = .cond test' ss none s := by
  rw [result_elaborate_condOnly, bind_eq_ok_iff]
  constructor
  · rintro ⟨test', ht, h⟩
    obtain ⟨ss, hb, h⟩ := bind_eq_ok_iff.1 h
    cases h
    exact ⟨test', ss, ht, hb, rfl⟩
  · rintro ⟨test', ss, ht, hb, rfl⟩
    exact ⟨test', ht, bind_eq_ok_iff.2 ⟨ss, hb, rfl⟩⟩

theorem result_elaborate_condElse_eq_ok {p : Typed.Stmt} :
    ((cond test a (some b) s).elaborate c).result = .ok p ↔ ∃ test' ss us,
      test.elaborateTest c.scope = .ok test' ∧ (a.elaborate c).result = .ok ss ∧
      (b.elaborate c).result = .ok us ∧
      p = .cond test' ss (some (Typed.raise (declarationsOfAll ss).length us)) s := by
  rw [result_elaborate_condElse, bind_eq_ok_iff]
  constructor
  · rintro ⟨test', ht, h⟩
    obtain ⟨ss, ha, h⟩ := bind_eq_ok_iff.1 h
    obtain ⟨us, hb, h⟩ := bind_eq_ok_iff.1 h
    cases h
    exact ⟨test', ss, us, ht, ha, hb, rfl⟩
  · rintro ⟨test', ss, us, ht, ha, hb, rfl⟩
    exact ⟨test', ht, bind_eq_ok_iff.2 ⟨ss, ha, bind_eq_ok_iff.2 ⟨us, hb, rfl⟩⟩⟩

theorem result_elaborate_condElse_eq_error {e : AnalysisError} :
    ((cond test a (some b) s).elaborate c).result = .error e ↔
      test.elaborateTest c.scope = .error e ∨
      (∃ test', test.elaborateTest c.scope = .ok test') ∧ ((a.elaborate c).result = .error e ∨
        (∃ ss, (a.elaborate c).result = .ok ss) ∧ (b.elaborate c).result = .error e) := by
  rw [result_elaborate_condElse, bind_eq_error_iff]
  refine or_congr Iff.rfl ⟨?_, ?_⟩
  · rintro ⟨test', ht, h⟩
    refine ⟨⟨test', ht⟩, ?_⟩
    rcases bind_eq_error_iff.1 h with ha | ⟨ss, ha, h⟩
    · exact .inl ha
    · rcases bind_eq_error_iff.1 h with hb | ⟨us, -, h⟩
      · exact .inr ⟨⟨ss, ha⟩, hb⟩
      · cases h
  · rintro ⟨⟨test', ht⟩, ha | ⟨⟨ss, ha⟩, hb⟩⟩
    · exact ⟨test', ht, bind_eq_error_iff.2 (.inl ha)⟩
    · exact ⟨test', ht, bind_eq_error_iff.2 (.inr ⟨ss, ha, bind_eq_error_iff.2 (.inl hb)⟩)⟩

/-- **The branches of a choice are analyzed apart from each other.** From any state, a choice
with two branches is accepted exactly if the choices with one of the branches each are. Its test
and its consequent are then those of the first, and its alternate is the consequent of the
second with the numbers of the variables declared there greater by as many as the first branch
declares. If it is rejected, then for its test, or else for the first branch, or else for the
second one, each with the error that is found in it from that same state. -/
theorem elaborate_cond_alternate (c : Context) (test : Expr) (a b : Block) (s : Span) :
    let both := ((cond test a (some b) s).elaborate c).result
    let first := ((cond test a none s).elaborate c).result
    let second := ((cond test b none s).elaborate c).result
    ((∃ p, both = .ok p) ↔ (∃ p, first = .ok p) ∧ ∃ p, second = .ok p) ∧
    (∀ p, both = .ok p → ∃ test' ss us, first = .ok (.cond test' ss none s) ∧
      second = .ok (.cond test' us none s) ∧
      p = .cond test' ss (some (Typed.raise (declarationsOfAll ss).length us)) s) ∧
    ∀ e, both = .error e ↔ test.elaborateTest c.scope = .error e ∨
      (∃ test', test.elaborateTest c.scope = .ok test') ∧ ((a.elaborate c).result = .error e ∨
        (∃ ss, (a.elaborate c).result = .ok ss) ∧ (b.elaborate c).result = .error e) := by
  intro both first second
  refine ⟨⟨?_, ?_⟩, ?_, fun e => result_elaborate_condElse_eq_error⟩
  · rintro ⟨p, h⟩
    obtain ⟨test', ss, us, ht, ha, hb, -⟩ := result_elaborate_condElse_eq_ok.1 h
    exact ⟨⟨_, result_elaborate_condOnly_eq_ok.2 ⟨test', ss, ht, ha, rfl⟩⟩,
      _, result_elaborate_condOnly_eq_ok.2 ⟨test', us, ht, hb, rfl⟩⟩
  · rintro ⟨⟨p, h₁⟩, q, h₂⟩
    obtain ⟨test', ss, ht, ha, -⟩ := result_elaborate_condOnly_eq_ok.1 h₁
    obtain ⟨-, us, -, hb, -⟩ := result_elaborate_condOnly_eq_ok.1 h₂
    exact ⟨_, result_elaborate_condElse_eq_ok.2 ⟨test', ss, us, ht, ha, hb, rfl⟩⟩
  · intro p h
    obtain ⟨test', ss, us, ht, ha, hb, rfl⟩ := result_elaborate_condElse_eq_ok.1 h
    exact ⟨test', ss, us, result_elaborate_condOnly_eq_ok.2 ⟨test', ss, ht, ha, rfl⟩,
      result_elaborate_condOnly_eq_ok.2 ⟨test', us, ht, hb, rfl⟩, rfl⟩

/-- The state in which a Boolean variable `x` is declared and nothing else. -/
def afterX : Context := ⟨⟨[⟨"x", .boolean, 1⟩], []⟩, 1⟩

/-- A body that declares `y` and `z`. -/
def declaringBoth : Block := .mk [Program.declarationOf "y", Program.declarationOf "z"] {}

/-- A body that declares `y`, and gives its value to the variable of a name. -/
def declaringY (name : String) : Block :=
  .mk [Program.declarationOf "y", .assign ⟨name, {}⟩ (.name "y" {}) {}] {}

/-- Both branches may declare `y`, with the number `2` in the first and with `4` in the second,
after two declarations. That the first one declares `z` does not help the second one, which is
rejected as it is alone. -/
theorem elaborate_cond_alternate_sides :
    ((cond (.bool true {}) declaringBoth (some (declaringY "x")) {}).elaborate afterX).result =
      .ok (.cond (.ofLiteral (.boolean true) {})
        [Program.typedDeclarationOf "y" 2, Program.typedDeclarationOf "z" 3]
        (some [Program.typedDeclarationOf "y" 4,
          .assign ⟨"x", .boolean, 1⟩ (.ofVariable ⟨"y", .boolean, 4⟩ {}) {}]) {}) ∧
    ((cond (.bool true {}) declaringBoth (some (declaringY "z")) {}).elaborate afterX).result =
      .error ⟨.undeclaredIdentifier "z", {}⟩ := by
  constructor
  · have branches :=
      elaborate_cond_alternate afterX (.bool true {}) declaringBoth (declaringY "x") {}
    obtain ⟨p, h⟩ := branches.1.2 ⟨⟨_, rfl⟩, _, rfl⟩
    obtain ⟨test', ss, us, first, second, rfl⟩ := branches.2.1 p h
    cases first
    cases second
    exact h
  · exact ((elaborate_cond_alternate afterX _ _ _ {}).2.2 _).2
      (.inr ⟨⟨_, rfl⟩, .inr ⟨⟨_, rfl⟩, rfl⟩⟩)

end Stmt

end Source

end Yuyan
