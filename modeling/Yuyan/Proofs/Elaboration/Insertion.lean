import Yuyan.Proofs.Elaboration.Arrays
import Yuyan.Proofs.Elaboration.Faithful
import Yuyan.Proofs.Elaboration.Hiding
import Yuyan.Proofs.Elaboration.Sequence
import Yuyan.Proofs.Elaboration.WellFormed
import Yuyan.Proofs.Relabeling.Elaboration

/-!
# A declaration that nothing mentions

A declaration whose name occurs nowhere else may be put between any two statements at the
top level, as long as its own value is beyond doubt: a literal of the declared type. The
statements before it do not know of it, as of nothing that comes later. For those after it
two things are different when their analysis begins: a variable is visible that was not,
and one more number is used up.

The two differences are taken one after the other. The statements do not mention the
variable, so it may as well be hidden, and they are analyzed from the state without it. From
there on all is as it was but for the numbers, and a run in which all numbers to come are one
greater gives the same, renumbered.
-/

namespace Yuyan

open Source (elaborateAll namesOfAll)

open Typed (declarationsOfAll introducedByAll NumberedFrom)

/-! ### Room for one more number -/

/-- The numbers after `k` become one greater, and nothing else changes. -/
def Relabeling.makeRoom (k : Nat) : Relabeling where
  number n := if k < n then n + 1 else n

section MakeRoom

variable {k : Nat}

theorem Relabeling.number_makeRoom_of_lt {n : Nat} (h : k < n) :
    (makeRoom k).number n = n + 1 := if_pos h

theorem Relabeling.number_makeRoom_of_le {n : Nat} (h : n ≤ k) :
    (makeRoom k).number n = n := if_neg (by omega)

theorem Relabeling.faithful_makeRoom : (makeRoom k).Faithful where
  name := id
  number := by
    intro m n h
    simp only [makeRoom] at h
    split at h <;> split at h <;> omega

/-- No error has a number. -/
theorem AnalysisError.relabel_makeRoom (e : AnalysisError) :
    e.relabel (.makeRoom k) = e := by
  rcases e with ⟨cause, s⟩
  cases cause <;> rfl

/-- Nor has a program as it is written. -/
theorem Source.relabelAll_makeRoom (ss : List Stmt) : relabelAll (.makeRoom k) ss = ss :=
  relabelAll_of_spans (fun _ => rfl) (fun _ => rfl) fun _ _ => rfl

theorem Variable.relabel_makeRoom {x : Variable} (h : x.id ≤ k) : x.relabel (.makeRoom k) = x := by
  rcases x with ⟨n, t, i⟩
  rw [relabel, Relabeling.number_makeRoom_of_le h]
  rfl

/-- Open scopes that only know of numbers up to `k` stay what they are. -/
theorem Scope.relabel_makeRoom {s : Scope} (h : ∀ x ∈ s.visible, x.id ≤ k) :
    s.relabel (.makeRoom k) = s :=
  s.map_eq_self fun x hx => Variable.relabel_makeRoom (h x hx)

end MakeRoom

/-! ### Numbers of what is visible -/

theorem Typed.introducedByAll_subset (ss : List Stmt) :
    introducedByAll ss ⊆ declarationsOfAll ss := by
  induction ss with
  | nil => simp [introducedByAll]
  | cons s ss ih =>
    rw [introducedByAll, declarationsOfAll]
    intro x hx
    rcases List.mem_append.1 hx with hx | hx
    · exact List.mem_append_right _ (ih hx)
    · exact List.mem_append_left _ (s.introduced_subset_declarations hx)

theorem Typed.NumberedFrom.id_le {n : Nat} {xs : List Variable} (h : NumberedFrom n xs) :
    ∀ x ∈ xs, x.id ≤ n + xs.length := by
  intro x hx
  have hm : x.id ∈ xs.map Variable.id := List.mem_map_of_mem hx
  rw [h, List.mem_range'_1] at hm
  omega

/-- What statements at the top level make visible has numbers that are used up. -/
theorem ElaboratesAll.id_le {ss : List Source.Stmt} {ss' : List Typed.Stmt}
    (h : ElaboratesAll {} ss ss') :
    ∀ x ∈ (Context.afterAll {} ss').scope.visible, x.id ≤ (Context.afterAll {} ss').declared := by
  intro x hx
  have hx : x ∈ introducedByAll ss' := by
    simpa [Context.afterAll, Scope.visible, Scope.root] using hx
  exact h.numbered.id_le x (Typed.introducedByAll_subset ss' hx)

/-! ### Statements after the declaration -/

/-- A state with another variable, under the next number. -/
def Context.declare (c : Context) (x : Variable) : Context :=
  ⟨⟨x :: c.scope.locals, c.scope.enclosing⟩, c.declared + 1⟩

/-- A name that is not in a state may be declared and hidden again, and one number more is
used up. -/
theorem Context.hide_declare {c : Context} {x : Variable} (hc : c.hide x.name = c) :
    (c.declare x).hide x.name = ⟨c.scope, c.declared + 1⟩ := by
  have hs : c.scope.hide x.name = c.scope := congrArg Context.scope hc
  have hl : c.scope.locals.filter (·.name != x.name) = c.scope.locals := congrArg Scope.locals hs
  have he : c.scope.enclosing.map (List.filter (·.name != x.name)) = c.scope.enclosing :=
    congrArg Scope.enclosing hs
  simp [declare, hide, Scope.hide, hl, he]

/-- Statements that do not mention a variable become what they become without it, with the
numbers to come one greater. -/
theorem result_elaborateAll_declare {c : Context} {x : Variable} {ss : List Source.Stmt}
    (hn : x.name ∉ namesOfAll ss) (hc : c.hide x.name = c)
    (hi : ∀ v ∈ c.scope.visible, v.id ≤ c.declared) :
    (elaborateAll ss (c.declare x)).result =
      (elaborateAll ss c).result.map (Typed.relabelAll (.makeRoom c.declared)) := by
  have contexts : (Relabeling.makeRoom c.declared).Contexts c ⟨c.scope, c.declared + 1⟩ := by
    refine ⟨(Scope.relabel_makeRoom hi).symm, fun k hk => ?_⟩
    rw [Relabeling.number_makeRoom_of_lt (by omega)]
    show c.declared + k + 1 = c.declared + 1 + k
    omega
  have alike := (Source.alike_elaborateAll Relabeling.faithful_makeRoom ss _ _ contexts).1
  rw [Source.relabelAll_makeRoom] at alike
  calc (elaborateAll ss (c.declare x)).result
      = (elaborateAll ss ((c.declare x).hide x.name)).result := by
        rw [Source.ignores_elaborateAll ss hn]
    _ = (elaborateAll ss ⟨c.scope, c.declared + 1⟩).result := by rw [Context.hide_declare hc]
    _ = _ := by
        rw [alike]
        cases (elaborateAll ss c).result with
        | ok ss' => rfl
        | error e => rw [Relabeling.onResult_error, AnalysisError.relabel_makeRoom]; rfl

/-! ### The declaration -/

/-- The literals that may be written where a value of a type is wanted, and what becomes of
them: those of the type, for a character also a text that has only this character, and for an
array its elements, written out. -/
inductive LiteralFor : Ty → Source.Expr → Typed.Expr → Prop where
  | ofTy (v : Literal) (s : Span) : LiteralFor v.ty (v.toSource s) (.ofLiteral v s)
  | character {t : String} {c : Char} (only : t.toList = [c]) (s : Span) :
      LiteralFor .char (.string t s) (.ofLiteral (.char c) s)
  | emptyArray (t : Ty) (s : Span) : LiteralFor (.array t) (.array [] s) (.array [] (.array t) s)
  | array {t : Ty} {e : Source.Expr} {es : List Source.Expr} {e' : Typed.Expr}
      {es' : List Typed.Expr} {s : Span} (first : LiteralFor t e e')
      (rest : LiteralFor (.array t) (.array es s) (.array es' (.array t) s)) :
      LiteralFor (.array t) (.array (e :: es) s) (.array (e' :: es') (.array t) s)

theorem LiteralFor.elaborates {t : Ty} {e : Source.Expr} {e' : Typed.Expr} (h : LiteralFor t e e')
    (scope : Scope) : Elaborates scope (some t) e e' ∧ e'.ty = t := by
  induction h with
  | ofTy v s =>
    refine ⟨?_, rfl⟩
    cases v with
    | boolean b => exact .bool
    | int n => exact .int
    | float x => exact .float
    | string t => exact .text nofun
    | char c => exact .char
  | character only s => exact ⟨.character (onlyChar?_eq_some_iff.2 only), rfl⟩
  | emptyArray t s => exact ⟨.emptyArray, rfl⟩
  | array first rest ihFirst ihRest =>
    obtain ⟨head, rfl⟩ := ihFirst
    exact ⟨.array head ihRest.1.elements, rfl⟩

/-- A declaration with such a value is accepted wherever its name is not visible. -/
theorem LiteralFor.result_elaborate {written : Source.TyExpr} {x : Source.Ident} {e : Source.Expr}
    {e' : Typed.Expr} (h : LiteralFor written.resolve e e') {c : Context}
    (fresh : c.scope.isVisible x.name = false) (s : Span) :
    ((Source.Stmt.decl written x e s).elaborate c).result =
      .ok (.decl written.resolve ⟨x.name, written.resolve, c.declared + 1⟩ e' s) := by
  obtain ⟨value, ty⟩ := h.elaborates c.scope
  exact (gives_elaborate.2 ⟨.decl value ty fresh, rfl⟩).1

/-! ### Between two statements -/

/-- Statements with a declaration before the `i`-th of them, given the declaration by its
number. It has the next number there, and the numbers after it are one greater. -/
def Typed.insertDeclaration (i : Nat) (declaration : Nat → Stmt) (ss : List Stmt) : List Stmt :=
  let k := (declarationsOfAll (ss.take i)).length
  ss.take i ++ declaration (k + 1) :: relabelAll (.makeRoom k) (ss.drop i)

theorem Typed.insertDeclaration_append {i : Nat} {ss : List Stmt} (h : ss.length = i)
    (declaration : Nat → Stmt) (us : List Stmt) :
    insertDeclaration i declaration (ss ++ us) =
      ss ++ declaration ((declarationsOfAll ss).length + 1) ::
        relabelAll (.makeRoom (declarationsOfAll ss).length) us := by
  rw [insertDeclaration, List.take_left' h, List.drop_left' h]

section Between

variable {xs ys : List Source.Stmt} {written : Source.TyExpr} {x : Source.Ident} {e : Source.Expr}
  {e' : Typed.Expr}

/-- A name that statements do not mention is not in the state that they leave. -/
theorem hide_afterAll {n : String} {xs' : List Typed.Stmt} (hn : n ∉ namesOfAll xs)
    (h : (elaborateAll xs {}).result = .ok xs') :
    (Context.afterAll {} xs').hide n = Context.afterAll {} xs' := by
  have left : (elaborateAll xs {}).context = Context.afterAll {} xs' := context_elaborateAll h
  have same := congrArg Outcome.context (Source.ignores_elaborateAll xs hn {})
  rw [← left]
  exact same.symm

theorem result_elaborateAll_insert (fresh : x.name ∉ namesOfAll (xs ++ ys))
    (literal : LiteralFor written.resolve e e') (s : Span) :
    (elaborateAll (xs ++ .decl written x e s :: ys) {}).result =
      (elaborateAll (xs ++ ys) {}).result.map (Typed.insertDeclaration xs.length fun n =>
        .decl written.resolve ⟨x.name, written.resolve, n⟩ e' s) := by
  rw [Source.namesOfAll_append, List.mem_append, not_or] at fresh
  rw [result_elaborateAll_append, result_elaborateAll_append]
  cases hx : (elaborateAll xs {}).result with
  | error error => rfl
  | ok xs' =>
    -- the declaration finds the state that the statements before it have left
    let c := Context.afterAll {} xs'
    have hidden : c.hide x.name = c := hide_afterAll fresh.1 hx
    have free : c.scope.isVisible x.name = false := by
      rw [← hidden]
      exact c.scope.isVisible_hide_self
    have numbers : ∀ v ∈ c.scope.visible, v.id ≤ c.declared :=
      (gives_elaborateAll.1 ⟨hx, rfl⟩).1.id_le
    have declared : c.declared = (declarationsOfAll xs').length := Nat.zero_add _
    let v : Variable := ⟨x.name, written.resolve, c.declared + 1⟩
    have rest : (elaborateAll ys (c.declare v)).result =
        (elaborateAll ys c).result.map (Typed.relabelAll (.makeRoom c.declared)) :=
      result_elaborateAll_declare fresh.2 hidden numbers
    show (elaborateAll (.decl written x e s :: ys) c).result >>= (fun us' => .ok (xs' ++ us')) =
      ((elaborateAll ys c).result >>= fun us' => .ok (xs' ++ us')).map _
    rw [result_elaborateAll_cons, literal.result_elaborate free]
    show ((elaborateAll ys (c.declare v)).result >>= fun ys' => _) >>= _ = _
    rw [rest]
    cases (elaborateAll ys c).result with
    | error error => rfl
    | ok ys' =>
      refine congrArg Except.ok ?_
      rw [Typed.insertDeclaration_append (length_of_elaborateAll hx), ← declared]

end Between

namespace Source.Program

/-- **A declaration that nothing mentions does not interfere.** With one put anywhere between
the statements of a program, the program is rejected with the same error as without it, or
accepted as the same program with the declaration put there. -/
theorem analyze_insert (xs ys : List Stmt) {written : TyExpr} {x : Ident} {e : Expr}
    {e' : Typed.Expr} (fresh : x.name ∉ namesOfAll (xs ++ ys))
    (literal : LiteralFor written.resolve e e') (s t : Span) :
    (∀ error, (⟨xs ++ ys, t⟩ : Program).analyze.value = .error error →
      (⟨xs ++ .decl written x e s :: ys, t⟩ : Program).analyze.value = .error error) ∧
    ∀ p, (⟨xs ++ ys, t⟩ : Program).analyze.value = .ok p →
      (⟨xs ++ .decl written x e s :: ys, t⟩ : Program).analyze.value =
        .ok ⟨Typed.insertDeclaration xs.length
          (fun n => .decl written.resolve ⟨x.name, written.resolve, n⟩ e' s) p.statements, t⟩ := by
  have inserted := result_elaborateAll_insert fresh literal s
  constructor
  · intro error h
    have h : (elaborateAll (xs ++ ys) {}).result = .error error := analyze_eq_error_iff.1 h
    apply analyze_eq_error_iff.2
    rw [inserted, h]
    rfl
  · intro p h
    have h : (elaborateAll (xs ++ ys) {}).result = .ok p.statements :=
      (analyze_eq_ok_iff_elaborateAll.1 h).1
    apply analyze_eq_ok_iff_elaborateAll.2
    rw [inserted, h]
    exact ⟨rfl, rfl⟩

/-- With `char t = "a"` after the first statement, the variables of the bodies that come
later have the numbers `3` and `4`; what was rejected for a name is still rejected for it. -/
theorem analyze_insert_nested :
    (⟨nested.statements.take 1 ++
        .decl (.char {}) ⟨"t", {}⟩ (.string "a" {}) {} :: nested.statements.drop 1, {}⟩ :
        Program).analyze.value =
      .ok ⟨Typed.insertDeclaration 1
        (fun n => .decl .char ⟨"t", .char, n⟩ (.ofLiteral (.char 'a') {}) {})
        typedNested.statements, {}⟩ ∧
    (⟨early.take 1 ++ .decl (.char {}) ⟨"t", {}⟩ (.string "a" {}) {} :: early.drop 1, {}⟩ :
        Program).analyze.value = .error ⟨.undeclaredIdentifier "y", ⟨17, 18⟩⟩ := by
  have literal : LiteralFor (TyExpr.char {}).resolve (.string "a" {}) (.ofLiteral (.char 'a') {}) :=
    .character rfl {}
  constructor
  · exact (analyze_insert (nested.statements.take 1) (nested.statements.drop 1)
      (x := ⟨"t", {}⟩) (by decide) literal {} {}).2 typedNested rfl
  · exact (analyze_insert (early.take 1) (early.drop 1) (x := ⟨"t", {}⟩) (by decide)
      literal {} {}).1 _ rfl

end Source.Program

end Yuyan
