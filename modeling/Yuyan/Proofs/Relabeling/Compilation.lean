import Yuyan.Proofs.Relabeling.Elaboration
import Yuyan.Proofs.Relabeling.Optimization

/-!
# Compiling relabeled programs

Elaboration and optimization each turn the relabeled program into the relabeled result, and
so does compilation under all options (`Source.Program.compile_relabel`). Three relabelings
are of interest by themselves.

* Spans may be changed in any way, also so that different ones become the same
  (`Compiled.compile_mapSpans`). That every span of a result stands in the program
  follows: a change that leaves all spans of the program alone leaves the program alone,
  hence the result, hence all spans of the result; and there is one that changes every
  other span (`Span.movedUnless`).
* Names may be changed into any others, as long as different names stay different
  (`Compiled.compile_rename`).
* The two words for loops may be exchanged (`Compiled.compile_swapLoops`). Errors do not
  change with them, as no error is about the word of a loop.
-/

namespace Yuyan

theorem Source.Program.compile_relabel {ρ : Relabeling} (hρ : ρ.Faithful)
    (hn : ∀ n, 0 < n → ρ.number n = n) (options : Options) (u : Source.Program) :
    ((u.relabel ρ).compile options).value =
      ρ.onResult (Typed.Program.relabel ρ) (u.compile options).value := by
  rw [value_compile, value_compile, u.analyze_relabel hρ hn]
  cases u.analyze.value with
  | error e => rfl
  | ok p =>
    rw [Relabeling.onResult_ok, Except.map, Except.map, Relabeling.onResult_ok]
    split
    · rw [p.optimize_relabel hρ]
    · rfl

/-- What compilation comes to: a typed program, or what is wrong. -/
abbrev Compiled := Except AnalysisError Typed.Program

/-! ### Spans -/

/-- A program with other spans. -/
def Source.Program.mapSpans (f : Span → Span) (u : Source.Program) : Source.Program :=
  u.relabel { span := f }

/-- A typed program with other spans. -/
def Typed.Program.mapSpans (f : Span → Span) (p : Typed.Program) : Typed.Program :=
  p.relabel { span := f }

namespace Compiled

/-- What compilation comes to, with other spans. -/
def mapSpans (f : Span → Span) : Compiled → Compiled
  | .ok p => .ok (p.mapSpans f)
  | .error e => .error ⟨e.cause, f e.span⟩

/-- The spans in what compilation comes to. -/
def spans : Compiled → List Span
  | .ok p => p.spans
  | .error e => [e.span]

end Compiled

theorem Relabeling.faithful_spans (f : Span → Span) : Relabeling.Faithful { span := f } :=
  ⟨id, id⟩

/-- No cause has a span. -/
theorem Cause.relabel_spans (f : Span → Span) (cause : Cause) :
    cause.relabel { span := f } = cause := by
  cases cause <;> rfl

theorem Relabeling.onResult_spans (f : Span → Span) (x : Compiled) :
    Relabeling.onResult { span := f } (Typed.Program.relabel { span := f }) x = x.mapSpans f := by
  cases x with
  | ok p => rfl
  | error e => rw [onResult_error, AnalysisError.relabel, Cause.relabel_spans, Compiled.mapSpans]

theorem Compiled.forall_spans {f : Span → Span} {x : Compiled} (h : x.mapSpans f = x) :
    ∀ s ∈ x.spans, f s = s := by
  cases x with
  | ok p => exact p.relabel_eq_self_iff.1 (Except.ok.inj h)
  | error e => exact List.forall_mem_singleton.2 (congrArg AnalysisError.span (Except.error.inj h))

/-- Another span, unless it is one of those known. -/
def Span.movedUnless (known : List Span) (s : Span) : Span :=
  if s ∈ known then s else ⟨s.start + 1, s.stop⟩

theorem Span.movedUnless_eq_self_iff {known : List Span} {s : Span} :
    s.movedUnless known = s ↔ s ∈ known := by
  unfold movedUnless
  split
  · rename_i h; exact iff_of_true rfl h
  · rename_i h
    refine iff_of_false (fun hs => ?_) h
    have := congrArg Span.start hs
    simp at this

namespace Compiled

/-- **Spans only travel along.** A program with other spans is compiled to the same with
other spans, be it a program or an error, and a typed program with other spans is optimized
to the same with other spans. So programs that are the same but for their spans are compiled
to what is the same but for its spans, and no span of a result is new. -/
theorem compile_mapSpans :
    (∀ (f : Span → Span) (options : Options) (u : Source.Program),
      ((u.mapSpans f).compile options).value = mapSpans f (u.compile options).value) ∧
    (∀ (options : Options) (u : Source.Program), spans (u.compile options).value ⊆ u.spans) ∧
    (∀ (options : Options) (u v : Source.Program),
      u.mapSpans (fun _ => {}) = v.mapSpans (fun _ => {}) →
        mapSpans (fun _ => {}) (u.compile options).value =
          mapSpans (fun _ => {}) (v.compile options).value) ∧
    (∀ (f : Span → Span) (p : Typed.Program),
      (p.mapSpans f).optimize.value = p.optimize.value.mapSpans f) ∧
    ∀ p : Typed.Program, p.optimize.value.spans ⊆ p.spans := by
  have compiled (f : Span → Span) (options : Options) (u : Source.Program) :
      ((u.mapSpans f).compile options).value = mapSpans f (u.compile options).value := by
    rw [← Relabeling.onResult_spans]
    exact u.compile_relabel (Relabeling.faithful_spans f) (fun _ _ => rfl) options
  have optimized (f : Span → Span) (p : Typed.Program) :
      (p.mapSpans f).optimize.value = p.optimize.value.mapSpans f :=
    p.optimize_relabel (Relabeling.faithful_spans f)
  refine ⟨compiled, fun options u s hs => ?_, fun options u v h => ?_, optimized, fun p s hs => ?_⟩
  · -- a change of all spans but those of the program does not change the program
    have hu : u.mapSpans (Span.movedUnless u.spans) = u :=
      u.relabel_of_spans fun t ht => Span.movedUnless_eq_self_iff.2 ht
    have h := compiled (Span.movedUnless u.spans) options u
    rw [hu] at h
    exact Span.movedUnless_eq_self_iff.1 (forall_spans h.symm s hs)
  · rw [← compiled, ← compiled, h]
  · have hp : p.mapSpans (Span.movedUnless p.spans) = p :=
      p.relabel_eq_self_iff.2 fun t ht => Span.movedUnless_eq_self_iff.2 ht
    have h := optimized (Span.movedUnless p.spans) p
    rw [hp] at h
    exact Span.movedUnless_eq_self_iff.1 (p.optimize.value.relabel_eq_self_iff.1 h.symm s hs)

/-- A sum in a declaration, and a choice that is known: `int x = 1 + 2; if true { print x }`.
The parts stand where `place` says. -/
def summed (place : Nat → Span) : Source.Program :=
  ⟨[.decl (.int (place 0)) ⟨"x", place 1⟩
      (.binary .add (.int 1 (place 2)) (.int 2 (place 3)) (place 4)) (place 5),
    .cond (.bool true (place 6)) (.mk [.print (.name "x" (place 7)) (place 8)] (place 9)) none
      (place 10)], place 11⟩

/-- In two places the sum is compiled to the same, but for the spans: what is computed stands
where the operator stood, and the choice makes way for its branch. -/
theorem compile_mapSpans_summed :
    (summed fun n => ⟨n, n + 1⟩).mapSpans (fun _ => {}) =
        (summed fun _ => ⟨7, 9⟩).mapSpans (fun _ => {}) ∧
      mapSpans (fun _ => {}) ((summed fun n => ⟨n, n + 1⟩).compile {}).value =
        mapSpans (fun _ => {}) ((summed fun _ => ⟨7, 9⟩).compile {}).value ∧
      ((summed fun n => ⟨n, n + 1⟩).compile {}).value =
        .ok ⟨[.decl .int ⟨"x", .int, 1⟩ (.ofLiteral (.int 3) ⟨4, 5⟩) ⟨5, 6⟩,
          .print (.ofVariable ⟨"x", .int, 1⟩ ⟨7, 8⟩) ⟨8, 9⟩], ⟨11, 12⟩⟩ :=
  ⟨rfl, compile_mapSpans.2.2.1 {} _ _ rfl, rfl⟩

end Compiled

/-! ### Names -/

/-- A program with other names. -/
def Source.Program.rename (r : String → String) (u : Source.Program) : Source.Program :=
  u.relabel { name := r }

/-- A typed program with other names. -/
def Typed.Program.rename (r : String → String) (p : Typed.Program) : Typed.Program :=
  p.relabel { name := r }

namespace Compiled

/-- What compilation comes to, with other names. -/
def rename (r : String → String) : Compiled → Compiled
  | .ok p => .ok (p.rename r)
  | .error e => .error ⟨e.cause.relabel { name := r }, e.span⟩

/-- **Names do not matter but for being different.** A program with other names, different
ones for different ones, is compiled to the same with the other names, be it a program or an
error. -/
theorem compile_rename {r : String → String} (hr : Function.Injective r) (options : Options)
    (u : Source.Program) :
    ((u.rename r).compile options).value = rename r (u.compile options).value := by
  have hρ : Relabeling.Faithful { name := r } := ⟨@hr, id⟩
  have h := u.compile_relabel hρ (fun _ _ => rfl) options
  rw [Source.Program.rename, h]
  cases (u.compile options).value <;> rfl

/-- A variable that is assigned to itself, and one that is declared a second time:
`int x = 1; x = x; if true { int y = x; ‹last› }`. -/
def reassigned (last : Source.Stmt) : Source.Program :=
  let x : Source.Ident := ⟨"x", {}⟩
  ⟨[.decl (.int {}) x (.int 1 {}) {}, .assign x (.name "x" {}) {},
    .cond (.bool true {}) (.mk [.decl (.int {}) ⟨"y", {}⟩ (.name "x" {}) {}, last] {}) none {}], {}⟩

/-- With a mark before each name, assignments of variables to themselves are still removed,
and what is declared a second time still is. -/
theorem compile_rename_reassigned :
    Function.Injective ("my_" ++ ·) ∧
      (((reassigned (.skip {})).rename ("my_" ++ ·)).compile {}).value =
        rename ("my_" ++ ·) ((reassigned (.skip {})).compile {}).value ∧
      (((reassigned (.skip {})).rename ("my_" ++ ·)).compile {}).value =
        .ok ⟨[.decl .int ⟨"my_x", .int, 1⟩ (.ofLiteral (.int 1) {}) {},
          .decl .int ⟨"my_y", .int, 2⟩ (.ofVariable ⟨"my_x", .int, 1⟩ {}) {}, .skip {}], {}⟩ ∧
      (((reassigned (.decl (.char {}) ⟨"x", ⟨8, 9⟩⟩ (.char 'c' {}) {})).rename
        ("my_" ++ ·)).compile {}).value = .error ⟨.duplicateDeclaration "my_x", ⟨8, 9⟩⟩ := by
  have hr : Function.Injective ("my_" ++ ·) := fun m n h => by simpa using h
  refine ⟨hr, compile_rename hr {} _, ?_, ?_⟩
  · rw [compile_rename hr]
    rfl
  · rw [compile_rename hr]
    rfl

end Compiled

/-! ### Loops -/

/-- The other word for a loop. -/
def Loop.swap : Loop → Loop
  | whileLoop => forLoop
  | forLoop => whileLoop

/-- A program with the other word for each loop, at every depth. -/
def Source.Program.swapLoops (u : Source.Program) : Source.Program :=
  u.relabel { loop := Loop.swap }

/-- A typed program with the other word for each loop, at every depth. -/
def Typed.Program.swapLoops (p : Typed.Program) : Typed.Program :=
  p.relabel { loop := Loop.swap }

/-- No error is about the word of a loop. -/
theorem AnalysisError.relabel_loops (e : AnalysisError) : e.relabel { loop := Loop.swap } = e := by
  rcases e with ⟨cause, span⟩
  cases cause <;> rfl

namespace Compiled

/-- What compilation comes to, with the other word for each loop of a program. -/
def swapLoops : Compiled → Compiled
  | .ok p => .ok p.swapLoops
  | .error e => .error e

/-- **Both kinds of loops are treated alike.** Where every loop is written with the other word,
a program is compiled to the same program with the other words, or rejected with the same
error, and a typed program is optimized to the same with the other words. -/
theorem compile_swapLoops :
    (∀ (options : Options) (u : Source.Program),
      (u.swapLoops.compile options).value = swapLoops (u.compile options).value) ∧
    ∀ p : Typed.Program, p.swapLoops.optimize.value = p.optimize.value.swapLoops := by
  have hρ : Relabeling.Faithful { loop := Loop.swap } := ⟨id, id⟩
  constructor
  · intro options u
    rw [Source.Program.swapLoops, u.compile_relabel hρ fun _ _ => rfl]
    cases (u.compile options).value with
    | ok p => rfl
    | error e => rw [Relabeling.onResult_error, e.relabel_loops, swapLoops]
  · intro p
    exact p.optimize_relabel hρ

/-- Of a while loop that has a for loop in it and stands in a branch that is known to be taken,
a for loop is left that has a while loop in it. -/
example : let test : Typed.Expr := .ofLiteral (.boolean true) {}
    let loops (outer inner : Loop) : Typed.Stmt := .loop outer test [.loop inner test [] {}] {}
    let p : Typed.Program := ⟨[.cond test [loops .whileLoop .forLoop] none {}], {}⟩
    p.swapLoops.optimize.value = ⟨[loops .forLoop .whileLoop], {}⟩ := rfl

end Compiled

end Yuyan
