import Yuyan.Elaboration.Program
import Yuyan.Optimize.Program

/-!
# Compilation

A program is elaborated and then, unless the options say otherwise, optimized.
-/

namespace Yuyan

/-- What is done with a program. -/
structure Options where
  /-- Whether the typed program is optimized. -/
  optimize : Bool := true
  /-- Whether the log shows the typed program. -/
  showTyped : Bool := false
  /-- Whether the log shows the optimized program. -/
  showOptimized : Bool := false
  deriving DecidableEq, Repr

/-- The typed program of a program that is analyzed on its own. -/
def Source.Program.analyze (p : Source.Program) : Logged (Except AnalysisError Typed.Program) :=
  let o := p.elaborate {}
  ⟨o.result, o.events⟩

/-- Write an event if it is asked for. -/
def Logged.writeIf (wanted : Bool) (e : Event) : Logged Unit :=
  if wanted then .write e else return ()

/-- The compiled program, or what is wrong with it. -/
def Source.Program.compile (options : Options) (p : Source.Program) :
    Logged (Except AnalysisError Typed.Program) := do
  match ← p.analyze with
  | .error e => return .error e
  | .ok typed =>
    .write (.analyzed typed.statements.length)
    .writeIf options.showTyped (.typedTree typed)
    if options.optimize then
      let optimized ← typed.optimize
      .write (.optimized optimized.statements.length)
      .writeIf options.showOptimized (.optimizedTree optimized)
      return .ok optimized
    else return .ok typed

/-- Apart from the log, the options only decide whether the typed program is optimized. -/
theorem Source.Program.value_compile (options : Options) (p : Source.Program) :
    (p.compile options).value = p.analyze.value.map fun typed =>
      if options.optimize then typed.optimize.value else typed := by
  unfold compile
  rw [Logged.value_bind]
  cases p.analyze.value with
  | error e => rfl
  | ok typed => cases options.optimize <;> rfl

/-- Without options, a program is compiled to what its typed program is optimized to. -/
theorem Source.Program.compile_eq_ok_iff {u : Source.Program} {q : Typed.Program} :
    (u.compile {}).value = .ok q ↔ ∃ p, u.analyze.value = .ok p ∧ p.optimize.value = q := by
  rw [value_compile]
  cases u.analyze.value with
  | error e => simp [Except.map]
  | ok p => simp [Except.map]

end Yuyan
