import Yuyan.Proofs.Elaboration.Sequence
import Yuyan.Proofs.Elaboration.WellFormed

/-!
# The log of an analysis

The analysis tells when it goes into a body, when it comes out again, and what it declares.
An error may end it anywhere, with any number of bodies open, and yet what it has told is in
order then: a body is left also if it fails, and whatever is around it comes to its end next.

`Outcome.Tells` says of one step all that is needed to say it of two steps in sequence: the
bodies in what it tells are in order, as many bodies are open after it as before, and the
declarations it tells of are numbered on from those before it. If it succeeds, they are the
declarations of what it gives. There is one lemma for each way to make a step.
-/

namespace Yuyan

open Source (elaborateAll)

open Typed (declarationsOfAll NumberedFrom)

/-! ### Events in order -/

/-- What an event tells to be declared. -/
def Event.declared? : Event → Option Variable
  | .declared v => some v
  | _ => none

/-- What events tell to be declared, in order. -/
def declaredIn (events : List Event) : List Variable := events.filterMap Event.declared?

@[simp] theorem declaredIn_append (es fs : List Event) :
    declaredIn (es ++ fs) = declaredIn es ++ declaredIn fs := List.filterMap_append

/-- That a body is entered and left declares nothing. -/
theorem declaredIn_body (d e : Nat) (es : List Event) :
    declaredIn (.entered d :: es ++ [.left e]) = declaredIn es :=
  calc declaredIn (.entered d :: es ++ [.left e])
      = declaredIn es ++ declaredIn [.left e] := declaredIn_append (.entered d :: es) _
    _ = declaredIn es := List.append_nil _

/-- Events that are told while `d` bodies are open: of declarations, and of whole bodies.
Entering a body tells how many bodies are open with it, and leaving it how many are then. -/
inductive Bracketed : Nat → List Event → Prop where
  | nil {d : Nat} : Bracketed d []
  | declared {d : Nat} {v : Variable} {es : List Event} (rest : Bracketed d es) :
      Bracketed d (.declared v :: es)
  | body {d : Nat} {inner es : List Event} (inside : Bracketed (d + 1) inner)
      (rest : Bracketed d es) : Bracketed d (.entered (d + 1) :: (inner ++ .left d :: es))

theorem Bracketed.append {d : Nat} {es fs : List Event} (he : Bracketed d es)
    (hf : Bracketed d fs) : Bracketed d (es ++ fs) := by
  induction he with
  | nil => exact hf
  | declared _ ih => exact .declared (ih hf)
  | body inside _ _ ih =>
    rw [List.cons_append, List.append_assoc, List.cons_append]
    exact .body inside (ih hf)

/-- Between its beginning and its end, an analysis does not tell of its end. -/
theorem Bracketed.finished_notMem {d : Nat} {es : List Event} (h : Bracketed d es) :
    Event.finished ∉ es := by
  induction h with
  | nil => exact List.not_mem_nil
  | declared _ ih => simpa using ih
  | body _ _ ihInside ih => simp [ihInside, ih]

/-! ### What a step tells -/

theorem Context.depth_leave (c : Context) : c.leave.scope.depth = c.scope.depth - 1 := by
  rcases c with ⟨⟨locals, enclosing⟩, n⟩
  cases enclosing <;> rfl

variable {α β : Type}

/-- What a step that was taken from the state `c` tells is in order. If it succeeds, the
declarations `decls` of what it gives are those in `before` and those it tells of. -/
structure Outcome.Tells (o : Outcome α) (c : Context) (before : List Variable)
    (decls : α → List Variable) : Prop where
  bracketed : Bracketed c.scope.depth o.events
  /-- As many bodies are open as before. -/
  depth : o.context.scope.depth = c.scope.depth
  numbered : NumberedFrom c.declared (declaredIn o.events)
  /-- No other number is used up. -/
  declared : ∀ a, o.result = .ok a →
    o.context.declared = c.declared + (declaredIn o.events).length
  told : ∀ a, o.result = .ok a → decls a = before ++ declaredIn o.events

/-- Of a step that fails, what it gives need not be told. -/
theorem Outcome.Tells.of_error {o : Outcome α} {c : Context} {before : List Variable}
    {decls : α → List Variable} {e : AnalysisError} (failed : o.result = .error e)
    (bracketed : Bracketed c.scope.depth o.events) (depth : o.context.scope.depth = c.scope.depth)
    (numbered : NumberedFrom c.declared (declaredIn o.events)) : o.Tells c before decls := by
  refine ⟨bracketed, depth, numbered, ?_, ?_⟩
  all_goals
    intro a ha
    rw [failed] at ha
    cases ha

namespace Analysis

/-- What a step tells is in order, from wherever it is taken. -/
def Tells (before : List Variable) (decls : α → List Variable) (x : Analysis α) : Prop :=
  ∀ c : Context, (x c).Tells c before decls

variable {before : List Variable} {decls : α → List Variable}

/-- A step that tells nothing. -/
theorem tells_reading {f : Scope → Except AnalysisError α}
    (h : ∀ scope a, f scope = .ok a → decls a = before) : Tells before decls (reading f) := by
  intro c
  exact {
    bracketed := .nil
    depth := rfl
    numbered := rfl
    declared := fun _ _ => rfl
    told := fun a ha => (h c.scope a ha).trans (List.append_nil before).symm }

/-- A step that only looks, where what it gives has no declarations. -/
theorem tells_test (f : Scope → Except AnalysisError α) : Tells [] (fun _ => []) (reading f) := by
  apply tells_reading
  intro _ _ _
  rfl

theorem tells_pure {a : α} (h : decls a = before) : Tells before decls (pure a) := by
  apply tells_reading (f := fun _ => .ok a)
  intro _ b hb
  cases hb
  exact h

/-- After an error nothing more is told, and what the second step would tell need not
follow. -/
theorem Tells.bind {decls' : β → List Variable} {x : Analysis α} {f : α → Analysis β}
    (hx : Tells before decls x) (hf : ∀ a, Tells (decls a) decls' (f a)) :
    Tells before decls' (x >>= f) := by
  intro c
  have first := hx c
  cases hr : (x c).result with
  | error e =>
    rw [bind_of_error hr]
    exact .of_error rfl first.bracketed first.depth first.numbered
  | ok a =>
    have second := hf a (x c).context
    have hn := first.declared a hr
    rw [bind_of_ok hr]
    constructor
    · have inside := second.bracketed
      rw [first.depth] at inside
      exact first.bracketed.append inside
    · exact second.depth.trans first.depth
    · rw [declaredIn_append, Typed.numberedFrom_append, ← hn]
      exact ⟨first.numbered, second.numbered⟩
    · intro b hb
      have hb := second.declared b hb
      rw [hb, hn, declaredIn_append, List.length_append, Nat.add_assoc]
    · intro b hb
      have hb := second.told b hb
      rw [hb, first.told a hr, declaredIn_append, List.append_assoc]

/-- What was told before a step may be counted in. -/
theorem Tells.after {x : Analysis α} (h : Tells [] decls x) (before : List Variable) :
    Tells before (fun a => before ++ decls a) x := by
  intro c
  have hc := h c
  refine ⟨hc.bracketed, hc.depth, hc.numbered, hc.declared, fun a ha => ?_⟩
  rw [hc.told a ha, List.nil_append]

theorem tells_declare (target : Source.Ident) (t : Ty) :
    Tells before (fun v => before ++ [v]) (declare target t) := by
  intro c
  simp only [declare]
  cases h : c.scope.declare ⟨target.name, t, c.declared + 1⟩ target.span with
  | error e => exact .of_error rfl .nil rfl rfl
  | ok scope =>
    obtain ⟨-, rfl⟩ := Scope.declare_eq_ok_iff.1 h
    refine ⟨.declared .nil, rfl, Typed.numberedFrom_singleton.2 rfl, ?_, ?_⟩
    · intro _ _
      rfl
    · intro v hv
      cases hv
      rfl

/-- A body that fails is left as one that does not. -/
theorem Tells.inBody {x : Analysis α} (h : Tells before decls x) :
    Tells before decls (inBody x) := by
  intro c
  have inside := h c.enter
  have back : (x c.enter).context.leave.scope.depth = c.scope.depth := by
    rw [Context.depth_leave, inside.depth]
    rfl
  rw [inBody_apply]
  refine ⟨?_, back, ?_, ?_, ?_⟩
  · rw [back]
    exact .body inside.bracketed .nil
  · rw [declaredIn_body]
    exact inside.numbered
  · rw [declaredIn_body]
    exact inside.declared
  · rw [declaredIn_body]
    exact inside.told

end Analysis

/-! ### What statements tell -/

namespace Source

open Analysis

mutual

/-- What a statement tells is in order, and it tells of the declarations inside. -/
theorem Stmt.tells_elaborate : ∀ s : Stmt, Tells [] Typed.Stmt.declarations s.elaborate
  | .decl written target value s => by
    rw [Stmt.elaborate]
    refine (tells_test _).bind fun _ =>
      (tells_declare target _).bind fun _ => tells_pure ?_
    rfl
  | .assign target value s => by
    rw [Stmt.elaborate]
    apply tells_reading
    intro scope a ha
    obtain ⟨x, -, ha⟩ := bind_eq_ok_iff.1 ha
    obtain ⟨e, -, ha⟩ := bind_eq_ok_iff.1 ha
    cases ha
    rfl
  | .print e s => by
    rw [Stmt.elaborate]
    apply tells_reading
    intro scope a ha
    obtain ⟨e', -, ha⟩ := bind_eq_ok_iff.1 ha
    cases ha
    rfl
  | .loop kind test body s => by
    rw [Stmt.elaborate]
    refine (tells_test _).bind fun _ =>
      (Block.tells_elaborate body).bind fun _ => tells_pure ?_
    rfl
  | .cond test consequent none s => by
    rw [Stmt.elaborate]
    refine (tells_test _).bind fun _ =>
      (Block.tells_elaborate consequent).bind fun _ => tells_pure ?_
    rfl
  | .cond test consequent (some alternate) s => by
    rw [Stmt.elaborate]
    refine (tells_test _).bind fun _ =>
      (Block.tells_elaborate consequent).bind fun consequent' =>
        ((Block.tells_elaborate alternate).after _).bind fun _ => tells_pure ?_
    rfl
  | .skip s => tells_pure rfl
  | .ret e s => by
    rw [Stmt.elaborate]
    apply tells_reading
    intro scope a ha
    split at ha
    · cases ha
    · obtain ⟨e', -, ha⟩ := bind_eq_ok_iff.1 ha
      cases ha
      rfl

theorem Block.tells_elaborate : ∀ b : Block, Tells [] declarationsOfAll b.elaborate
  | .mk ss _ => by
    rw [Block.elaborate]
    exact (tells_elaborateAll ss).inBody

/-- What statements tell is in order, and they tell of the declarations inside. -/
theorem tells_elaborateAll : ∀ ss : List Stmt, Tells [] declarationsOfAll (elaborateAll ss)
  | [] => tells_pure rfl
  | s :: ss => by
    rw [elaborateAll]
    refine (Stmt.tells_elaborate s).bind fun s' =>
      ((tells_elaborateAll ss).after _).bind fun _ => tells_pure ?_
    rfl

end

end Source

/-! ### What programs tell -/

namespace Source.Program

/-- The end is told of after all else, and only if there was no error. -/
theorem events_analyze (u : Program) :
    u.analyze.events = .started u.statements.length :: ((elaborateAll u.statements {}).events ++
      if u.analyze.value.isOk then [.finished] else []) := by
  rw [value_analyze]
  have h : u.analyze.events = .started u.statements.length ::
      ((elaborateAll u.statements >>= fun ss =>
        Analysis.write .finished >>= fun _ => pure (⟨ss, u.span⟩ : Typed.Program)) {}).events := rfl
  rw [h]
  cases hr : (elaborateAll u.statements {}).result with
  | ok ss =>
    rw [Analysis.bind_of_ok hr]
    rfl
  | error e =>
    rw [Analysis.bind_of_error hr]
    simp [Except.map, Except.isOk, Except.toBool]

/-- **The log of an analysis is in order**, however it ends. It begins with the number of
statements, and ends with the word that the analysis is finished if it succeeds, which is
told nowhere else. In between, every body that is entered is left, the innermost first, and
each time it is told how many are open. The declarations are numbered `1, 2, …`, and if the
analysis succeeds they are those of the program, in program order. -/
theorem log_analyze (u : Program) : ∃ events : List Event,
    u.analyze.events = .started u.statements.length ::
        (events ++ if u.analyze.value.isOk then [.finished] else []) ∧
      Bracketed 0 events ∧ Event.finished ∉ events ∧ NumberedFrom 0 (declaredIn events) ∧
      ∀ p, u.analyze.value = .ok p → declaredIn events = p.declarations := by
  have tells := tells_elaborateAll u.statements {}
  have bracketed : Bracketed 0 (elaborateAll u.statements {}).events := tells.bracketed
  refine ⟨_, events_analyze u, bracketed, bracketed.finished_notMem, tells.numbered, ?_⟩
  intro p hp
  have hp : (elaborateAll u.statements {}).result = .ok p.statements :=
    (analyze_eq_ok_iff_elaborateAll.1 hp).1
  exact (tells.told _ hp).symm

/-- Between the start and the end, the log of an accepted program has its three
declarations. -/
theorem log_analyze_nested : ∃ events : List Event,
    nested.analyze.events = .started 3 :: (events ++ [.finished]) ∧ Bracketed 0 events ∧
      declaredIn events = typedNested.declarations := by
  obtain ⟨events, log, bracketed, -, -, declared⟩ := log_analyze nested
  exact ⟨events, log, bracketed, declared typedNested rfl⟩

/-- Both bodies are left after an error in the inner one. -/
example : ((⟨[.loop .whileLoop (.bool true {}) (.mk [.loop .whileLoop (.bool true {})
      (.mk [declarationOf "y", declarationOf "y"] {}) {}] {}) {}], {}⟩ : Program).analyze.events.map
      Event.text) =
    ["analyzing 1 top-level statements", "entered body scope at depth 1",
      "entered body scope at depth 2", "declared y_1: Boolean", "left body scope, back at depth 1",
      "left body scope, back at depth 0"] := by
  decide

end Source.Program

end Yuyan
