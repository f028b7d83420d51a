import Yuyan.Proofs.Elaboration.Names

/-!
# Statements one after the other

A list of statements can be cut anywhere. The statements before the cut are analyzed first,
and those after it from the state that these have left, which is known from what they have
become (`Context.afterAll`). So what the analysis of a list of statements gives is put
together from what it gives for the two parts (`result_elaborateAll_append`), and no run is
followed to say so.

Two things can be read off. If a statement before the cut is rejected, those after it are
not looked at, and the error is the same whatever they are. If all before the cut are
accepted, what becomes of them does not depend on those after it.
-/

namespace Yuyan

open Source (elaborateAll)

/-! ### Results of steps in sequence -/

/-- If what a step gives tells the state that it leaves, the next step starts from there. -/
theorem Analysis.result_bind {α β : Type} {x : Analysis α} {f : α → Analysis β} {c : Context}
    {left : α → Context} (h : ∀ a, (x c).result = .ok a → (x c).context = left a) :
    ((x >>= f) c).result = (x c).result >>= fun a => (f a (left a)).result := by
  cases hx : (x c).result with
  | ok a =>
    rw [bind_of_ok hx, h a hx]
    rfl
  | error e =>
    rw [bind_of_error hx]
    rfl

/-- After a step that only looks at the open scopes, the next step starts from the same state. -/
theorem Analysis.result_reading_bind {α β : Type} (h : Scope → Except AnalysisError α)
    (f : α → Analysis β) (c : Context) :
    ((reading h >>= f) c).result = h c.scope >>= fun a => (f a c).result :=
  result_bind fun _ _ => rfl

/-- The state after a statement is known from what it becomes. -/
theorem context_elaborate {s : Source.Stmt} {c : Context} {s' : Typed.Stmt}
    (h : (s.elaborate c).result = .ok s') : (s.elaborate c).context = c.after s' :=
  (gives_elaborate.1 ⟨h, rfl⟩).2.symm

/-- The state after statements in order is known from what they become. -/
theorem context_elaborateAll {ss : List Source.Stmt} {c : Context} {ss' : List Typed.Stmt}
    (h : (elaborateAll ss c).result = .ok ss') : (elaborateAll ss c).context = c.afterAll ss' :=
  (gives_elaborateAll.1 ⟨h, rfl⟩).2.symm

/-! ### Cuts -/

theorem result_elaborateAll_cons (s : Source.Stmt) (ss : List Source.Stmt) (c : Context) :
    (elaborateAll (s :: ss) c).result = do
      let s' ← (s.elaborate c).result
      let ss' ← (elaborateAll ss (c.after s')).result
      return s' :: ss' := by
  rw [elaborateAll, Analysis.result_bind fun _ h => context_elaborate h]
  congr 1
  funext s'
  rw [Analysis.result_bind fun _ h => context_elaborateAll h]
  rfl

/-- The statements after a cut are analyzed from the state that those before it have left. -/
theorem result_elaborateAll_append (ss us : List Source.Stmt) (c : Context) :
    (elaborateAll (ss ++ us) c).result = do
      let ss' ← (elaborateAll ss c).result
      let us' ← (elaborateAll us (c.afterAll ss')).result
      return ss' ++ us' := by
  induction ss generalizing c with
  | nil =>
    show (elaborateAll us c).result = (elaborateAll us c).result >>= fun us' => .ok us'
    exact (bind_pure _).symm
  | cons s ss ih =>
    rw [List.cons_append, result_elaborateAll_cons, result_elaborateAll_cons]
    simp only [ih, bind_assoc, pure_bind, Context.afterAll_cons, List.cons_append]

/-- Each statement becomes one. -/
theorem length_of_elaborateAll {ss : List Source.Stmt} {c : Context} {ss' : List Typed.Stmt}
    (h : (elaborateAll ss c).result = .ok ss') : ss'.length = ss.length := by
  induction ss generalizing c ss' with
  | nil =>
    cases h
    rfl
  | cons s ss ih =>
    rw [result_elaborateAll_cons] at h
    obtain ⟨s', -, h⟩ := bind_eq_ok_iff.1 h
    obtain ⟨us, hus, h⟩ := bind_eq_ok_iff.1 h
    cases h
    simp [ih hus]

/-! ### Programs -/

namespace Source.Program

/-- The analysis of a program is that of its statements, from the state in which nothing is
declared. -/
theorem value_analyze (u : Program) :
    u.analyze.value = (elaborateAll u.statements {}).result.map fun ss => ⟨ss, u.span⟩ := by
  -- neither forgetting what was there before nor writing to the log can fail
  have h : u.analyze.value = ((elaborateAll u.statements >>= fun ss =>
      Analysis.write .finished >>= fun _ => pure (⟨ss, u.span⟩ : Typed.Program)) {}).result := rfl
  rw [h, Analysis.result_bind fun _ h => context_elaborateAll h]
  cases (elaborateAll u.statements {}).result <;> rfl

theorem analyze_eq_error_iff {u : Program} {e : AnalysisError} :
    u.analyze.value = .error e ↔ (elaborateAll u.statements {}).result = .error e := by
  rw [value_analyze]
  cases (elaborateAll u.statements {}).result <;> simp [Except.map]

theorem analyze_eq_ok_iff_elaborateAll {u : Program} {p : Typed.Program} :
    u.analyze.value = .ok p ↔
      (elaborateAll u.statements {}).result = .ok p.statements ∧ p.span = u.span := by
  rcases p with ⟨ss, s⟩
  rw [value_analyze]
  cases (elaborateAll u.statements {}).result <;> simp [Except.map, eq_comm]

/-- **What comes later changes nothing that came before.** Statements that are rejected are
rejected with the same error whatever follows them. Statements that are accepted with others
after them are accepted without these, and become what they have become there. -/
theorem analyze_append (xs ys : List Stmt) (s t : Span) :
    (∀ e, (⟨xs, s⟩ : Program).analyze.value = .error e →
      (⟨xs ++ ys, t⟩ : Program).analyze.value = .error e) ∧
    ∀ p, (⟨xs ++ ys, t⟩ : Program).analyze.value = .ok p →
      (⟨xs, s⟩ : Program).analyze.value = .ok ⟨p.statements.take xs.length, s⟩ := by
  have append := result_elaborateAll_append xs ys {}
  constructor
  · intro e h
    have hx : (elaborateAll xs {}).result = .error e := analyze_eq_error_iff.1 h
    apply analyze_eq_error_iff.2
    rw [append, hx]
    rfl
  · intro p h
    have hp : (elaborateAll (xs ++ ys) {}).result = .ok p.statements :=
      (analyze_eq_ok_iff_elaborateAll.1 h).1
    rw [append] at hp
    obtain ⟨xs', hx, hp⟩ := bind_eq_ok_iff.1 hp
    obtain ⟨ys', -, hp⟩ := bind_eq_ok_iff.1 hp
    have hp : xs' ++ ys' = p.statements := Except.ok.inj hp
    have hl : xs'.length = xs.length := length_of_elaborateAll hx
    apply analyze_eq_ok_iff_elaborateAll.2
    rw [← hp, ← hl, List.take_left]
    exact ⟨hx, rfl⟩

/-- A variable that is used before it is declared: `int x = 1; print y`. -/
def early : List Stmt :=
  [.decl (.int ⟨0, 3⟩) ⟨"x", ⟨4, 5⟩⟩ (.int 1 ⟨8, 9⟩) ⟨0, 9⟩, .print (.name "y" ⟨17, 18⟩) ⟨11, 18⟩]

/-- That it is declared later does not help, nor does a return at the top level matter after
it; and of a program that is accepted, the first two statements are. -/
theorem analyze_append_early :
    (⟨early ++ [.decl (.int {}) ⟨"y", {}⟩ (.int 2 {}) {}, .ret (.int 3 {}) {}], {}⟩ :
        Program).analyze.value = .error ⟨.undeclaredIdentifier "y", ⟨17, 18⟩⟩ ∧
      nested.analyze.value = .ok typedNested ∧
      (⟨nested.statements.take 2, {}⟩ : Program).analyze.value =
        .ok ⟨typedNested.statements.take 2, {}⟩ :=
  ⟨(analyze_append early _ {} {}).1 _ rfl, rfl,
    (analyze_append (nested.statements.take 2) (nested.statements.drop 2) {} {}).2 typedNested rfl⟩

end Source.Program

end Yuyan
