import Yuyan.Optimize.Program
import Yuyan.Proofs.Optimize.Rewrites
import Yuyan.Proofs.Semantics

/-!
# Optimization keeps the meaning of programs

A program and the program it is optimized to do the same, wherever the first one does
not fail. It has to be free of floating-point numbers, for which the identities do not
hold. The converse is not claimed: `0 ÷ x` fails where `x` is zero, and the zero that
it is optimized to does not.

* `Expr.eval_optimize`: an optimized expression has the value of the expression.
* `Stmt.refines_optimize`: the statements that a statement is optimized to do what it
  does. The runs are related statement by statement, and in a loop round by round
  (`Run.Refines.repeatWhile`), so both use up their fuel at the same pace.
* `Program.run_optimize`: so do whole programs.
-/

namespace Yuyan

/-! ### Operators on values -/

namespace BinOp

variable {op : BinOp} {compare : Comparison} {v w u : Value}

theorem onLiterals?_eq_some :
    op.onLiterals? v w = some u ↔
      ∃ a b c, v = .lit a ∧ w = .lit b ∧ op.eval? a b = some c ∧ u = .lit c := by
  rcases v with a | _ <;> rcases w with b | _ <;> simp [onLiterals?]
  exact exists_congr fun c => and_congr_right fun _ => eq_comm

theorem denote_of_not_isEquality (h : op.isEquality = false) :
    op.denote compare v w = op.onLiterals? v w := by
  rw [denote, h, Bool.false_and, if_neg (by decide)]

/-- What is computed beforehand from two literals is what the operator means. -/
theorem denote_of_eval? {a b c : Literal} (h : op.eval? a b = some c) (ha : a.ty ≠ .float) :
    op.denote compare (.lit a) (.lit b) = some (.lit c) := by
  have hc : op.onLiterals? (.lit a) (.lit b) = some (.lit c) :=
    onLiterals?_eq_some.2 ⟨a, b, c, rfl, rfl, h, rfl⟩
  by_cases hop : op.isEquality = true
  · obtain ⟨hi, hj⟩ := ints_of_eval?_isEquality hop h ha
    rw [denote, Value.isInt_of_ty hi, Value.isInt_of_ty hj, Bool.and_self, Bool.not_true,
      Bool.and_false, if_neg (by decide), hc]
  · rw [denote_of_not_isEquality (by simpa using hop), hc]

end BinOp

namespace Typed

/-! ### Expressions -/

variable {compare : Comparison} {σ : Environment}

namespace Expr

/-- The expression itself has no floating-point type and is no such literal. -/
def NoFloat (e : Expr) : Prop := e.ty ≠ .float ∧ ∀ v ∈ e.literal?, v.ty ≠ .float

instance (e : Expr) : Decidable e.NoFloat := inferInstanceAs (Decidable (_ ∧ _))

theorem eval_of_literal? {e : Expr} {a : Literal} (h : e.literal? = some a) :
    e.eval compare σ = some (.lit a) := by
  obtain ⟨t, s, rfl⟩ := literal?_eq_some.1 h
  rfl

/-- An operator that is no equality has a value only on two literals. -/
theorem literals_of_eval_binary {op : BinOp} {l r : Expr} {t : Ty} {s : Span} {u : Value}
    (hop : op.isEquality = false) (hu : (binary op l r t s).eval compare σ = some u) :
    ∃ a b c, l.eval compare σ = some (.lit a) ∧ r.eval compare σ = some (.lit b) ∧
      op.eval? a b = some c ∧ u = .lit c := by
  obtain ⟨v, hv, hu⟩ := Option.bind_eq_some_iff.1 hu
  obtain ⟨w, hw, hu⟩ := Option.bind_eq_some_iff.1 hu
  rw [BinOp.denote_of_not_isEquality hop] at hu
  obtain ⟨a, b, c, rfl, rfl, hc, rfl⟩ := BinOp.onLiterals?_eq_some.1 hu
  exact ⟨a, b, c, hv, hw, hc, rfl⟩

/-- A literal has no other value. -/
theorem eq_of_literal? {e : Expr} {a b : Literal} (h : e.literal? = some a)
    (hb : e.eval compare σ = some (.lit b)) : b = a := by
  rw [eval_of_literal? h] at hb
  cases hb
  rfl

/-- Rewriting an operator on two operands keeps its value. -/
theorem Rewritten.eval {op : BinOp} {l r e : Expr} {t : Ty} {s : Span} {u : Value}
    (h : Rewritten op l r t s e) (hl : ∀ a, l.literal? = some a → a.ty ≠ .float)
    (hr : ∀ b, r.literal? = some b → b.ty ≠ .float) (ht : t ≠ .float)
    (hu : (binary op l r t s).eval compare σ = some u) : e.eval compare σ = some u := by
  cases h with
  | kept => exact hu
  | folded ha hb hc =>
    rw [Expr.eval, eval_of_literal? ha, eval_of_literal? hb, Option.bind_some, Option.bind_some,
      BinOp.denote_of_eval? hc (hl _ ha)] at hu
    exact hu
  | left hi _ =>
    obtain ⟨b, hb, hn⟩ := Identity.asks_of_identity hi
    obtain ⟨a, b', c, ha, hb', hc, rfl⟩ :=
      literals_of_eval_binary (BinOp.isEquality_of_identity hi (by decide)) hu
    obtain rfl := eq_of_literal? hb hb'
    rwa [BinOp.eval?_neutralRight hn (hr _ hb) hc]
  | right hi _ =>
    obtain ⟨a, ha, hn⟩ := Identity.asks_of_identity hi
    obtain ⟨a', b, c, ha', hb, hc, rfl⟩ :=
      literals_of_eval_binary (BinOp.isEquality_of_identity hi (by decide)) hu
    obtain rfl := eq_of_literal? ha ha'
    rwa [BinOp.eval?_neutralLeft hn (hl _ ha) hc]
  | negated hi _ _ =>
    obtain ⟨rfl, a, ha, hz⟩ := Identity.asks_of_identity hi
    obtain ⟨a', b, c, ha', hb, hc, rfl⟩ := literals_of_eval_binary rfl hu
    obtain rfl := eq_of_literal? ha ha'
    rw [Expr.eval, hb, Option.bind_some, UnOp.denote, BinOp.eval?_zero_sub hz (hl _ ha) hc,
      Option.map_some]
  | zero hi hv =>
    obtain rfl := Literal.eq_zero_of_zero? hv ht
    obtain ⟨a, b, c, ha, hb, hc, rfl⟩ :=
      literals_of_eval_binary (BinOp.isEquality_of_identity hi (by decide)) hu
    have hz : c = .int 0 := by
      rcases Identity.asks_of_identity hi with ⟨a', ha', hz⟩ | ⟨b', hb', hz⟩
      · obtain rfl := eq_of_literal? ha' ha
        exact BinOp.eval?_zeroLeft hz (hl _ ha') hc
      · obtain rfl := eq_of_literal? hb' hb
        exact BinOp.eval?_zeroRight hz (hr _ hb') hc
    rw [hz]
    rfl
  | one hi hv =>
    obtain rfl := Literal.eq_one_of_one? hv ht
    obtain ⟨a, b, c, ha, hb, hc, rfl⟩ :=
      literals_of_eval_binary (BinOp.isEquality_of_identity hi (by decide)) hu
    have ho : c = .int 1 := by
      rcases Identity.asks_of_identity hi with ⟨a', ha', ho⟩ | ⟨b', hb', ho⟩
      · obtain rfl := eq_of_literal? ha' ha
        exact BinOp.eval?_oneLeft ho (hl _ ha') hc
      · obtain rfl := eq_of_literal? hb' hb
        exact BinOp.eval?_oneRight ho (hr _ hb') hc
    rw [ho]
    rfl

/-- Rewriting an operator on two operands makes no floating-point literal. -/
theorem Rewritten.ty_of_literal? {op : BinOp} {l r e : Expr} {t : Ty} {s : Span} {v : Literal}
    (h : Rewritten op l r t s e) (hl : ∀ a, l.literal? = some a → a.ty ≠ .float)
    (hr : ∀ b, r.literal? = some b → b.ty ≠ .float) (ht : t ≠ .float)
    (hv : e.literal? = some v) : v.ty ≠ .float := by
  cases h with
  | kept => cases hv
  | folded ha _ hc =>
    cases hv
    exact BinOp.ty_of_eval? hc (hl _ ha)
  | left => exact hl _ hv
  | right => exact hr _ hv
  | negated => cases hv
  | zero _ hz =>
    cases hv
    rwa [Literal.ty_of_zero? hz]
  | one _ ho =>
    cases hv
    rwa [Literal.ty_of_one? ho]

/-- An optimized expression is no floating-point literal. -/
theorem ty_of_literal?_optimize : ∀ (e : Expr), (∀ n ∈ e.nodes, n.NoFloat) →
    ∀ v, e.optimize.value.literal? = some v → v.ty ≠ .float
  | .lit w t s, h, v, hv => (h _ (List.mem_singleton_self _)).2 v hv
  | .var .., _, v, hv => by cases hv
  | .unary op e t s, h, v, hv => by
    have he := ty_of_literal?_optimize e fun n hn => h n (List.mem_cons_of_mem _ hn)
    change (reduceUnary op e.optimize.value t s).value.literal? = some v at hv
    rcases value_reduceUnary op e.optimize.value t s with ⟨a, u, ha, hu, hr⟩ | hr <;> rw [hr] at hv
    · cases hv
      exact UnOp.ty_of_eval? hu (he a ha)
    · cases hv
  | .binary op l r t s, h, v, hv => by
    simp only [nodes, List.forall_mem_cons, List.forall_mem_append] at h
    obtain ⟨h₀, hl, hr⟩ := h
    exact (rewritten_reduceBinary op _ _ t s).ty_of_literal? (ty_of_literal?_optimize l hl)
      (ty_of_literal?_optimize r hr) h₀.1 hv
  | .array .., _, v, hv => by cases hv
  | .index .., _, v, hv => by cases hv

end Expr

mutual

/-- Optimizing an expression keeps its value. -/
theorem Expr.eval_optimize : ∀ {e : Expr} {v : Value}, (∀ n ∈ e.nodes, n.NoFloat) →
    e.eval compare σ = some v → e.optimize.value.eval compare σ = some v
  | .lit .., v, _, hv => hv
  | .var .., v, _, hv => hv
  | .unary op e t s, v, h, hv => by
    obtain ⟨w, hw, hv⟩ := Option.bind_eq_some_iff.1 hv
    have he := Expr.eval_optimize (fun n hn => h n (List.mem_cons_of_mem _ hn)) hw
    change (Expr.reduceUnary op e.optimize.value t s).value.eval compare σ = some v
    rcases Expr.value_reduceUnary op e.optimize.value t s with ⟨a, u, ha, hu, hr⟩ | hr <;> rw [hr]
    · rw [Expr.eval_of_literal? ha] at he
      cases he
      rw [UnOp.denote, hu] at hv
      exact hv
    · rw [Expr.eval, he]
      exact hv
  | .binary op l r t s, v, h, hv => by
    simp only [Expr.nodes, List.forall_mem_cons, List.forall_mem_append] at h
    obtain ⟨h₀, hl, hr⟩ := h
    obtain ⟨a, ha, hv⟩ := Option.bind_eq_some_iff.1 hv
    obtain ⟨b, hb, hv⟩ := Option.bind_eq_some_iff.1 hv
    refine (Expr.rewritten_reduceBinary op _ _ t s).eval (Expr.ty_of_literal?_optimize l hl)
      (Expr.ty_of_literal?_optimize r hr) h₀.1 ?_
    rw [Expr.eval, Expr.eval_optimize hl ha, Expr.eval_optimize hr hb]
    exact hv
  | .array es t s, v, h, hv => by
    obtain ⟨vs, hvs, rfl⟩ := Option.map_eq_some_iff.1 hv
    have hes := evalElements_optimize (fun n hn => h n (List.mem_cons_of_mem _ hn)) hvs
    change (Expr.array (optimizeElements es).value t s).eval compare σ = _
    rw [Expr.eval, hes, Option.map_some]
  | .index a i t s, v, h, hv => by
    simp only [Expr.nodes, List.forall_mem_cons, List.forall_mem_append] at h
    obtain ⟨-, ha, hi⟩ := h
    obtain ⟨w, hw, hv⟩ := Option.bind_eq_some_iff.1 hv
    obtain ⟨k, hk, hv⟩ := Option.bind_eq_some_iff.1 hv
    change (Expr.index a.optimize.value i.optimize.value t s).eval compare σ = _
    rw [Expr.eval, Expr.eval_optimize ha hw, Expr.eval_optimize hi hk]
    exact hv
termination_by structural e => e

theorem evalElements_optimize : ∀ {es : List Expr} {vs : List Value},
    (∀ n ∈ nodesOfAll es, n.NoFloat) → evalElements compare σ es = some vs →
    evalElements compare σ (optimizeElements es).value = some vs
  | [], vs, _, hv => hv
  | e :: es, vs, h, hv => by
    simp only [nodesOfAll, List.forall_mem_append] at h
    obtain ⟨v, hv', hv⟩ := Option.bind_eq_some_iff.1 hv
    obtain ⟨us, hus, rfl⟩ := Option.map_eq_some_iff.1 hv
    change evalElements compare σ (e.optimize.value :: (optimizeElements es).value) = _
    rw [evalElements, Expr.eval_optimize h.1 hv', evalElements_optimize h.2 hus]
    rfl
termination_by structural es => es

end

/-! ### Statements -/

theorem Expr.holds?_optimize {e : Expr} (h : ∀ n ∈ e.nodes, n.NoFloat) (σ : Environment) (b : Bool)
    (hb : e.holds? compare σ = some b) : e.optimize.value.holds? compare σ = some b := by
  obtain ⟨v, hv, hb⟩ := Option.bind_eq_some_iff.1 hb
  rw [Expr.holds?, Expr.eval_optimize h hv]
  exact hb

/-- A test that is a truth value holds or fails as that says. -/
theorem Expr.holds?_of_literal? {e : Expr} {b : Bool} (h : e.literal? = some (.boolean b))
    (σ : Environment) : e.holds? compare σ = some b := by
  rw [Expr.holds?, Expr.eval_of_literal? h]
  rfl

/-- A run that the value of an expression decides. -/
theorem Expr.refines_given {e : Expr} (h : ∀ n ∈ e.nodes, n.NoFloat) (next : Value → Run) :
    Run.Refines (.given (e.eval compare) next) (.given (e.optimize.value.eval compare) next) :=
  .given (fun _ _ => Expr.eval_optimize h) fun _ => .refl _

theorem Stmt.refines_reduceAssign {x : Variable} {e : Expr} {s : Span}
    (h : ∀ n ∈ e.nodes, n.NoFloat) :
    Run.Refines (.given (e.eval compare) (.store x))
      (runAll compare (Stmt.reduceAssign x e.optimize.value s).value) := by
  rcases Stmt.value_reduceAssign x e.optimize.value s with ⟨t, s', he, hr⟩ | hr <;> rw [hr]
  · intro m r hm
    obtain ⟨v, hv, hm⟩ := Option.bind_eq_some_iff.1 hm
    have hx := Expr.eval_optimize h hv
    rw [he] at hx
    rw [Run.store, Environment.set_of_eq hx] at hm
    exact hm
  · rw [runAll_singleton]
    exact Expr.refines_given h (.store x)

theorem Stmt.refines_reduceCond {test : Expr} {c c' : List Stmt} {a a' : Option (List Stmt)}
    {s : Span} (h : ∀ n ∈ test.nodes, n.NoFloat)
    (hc : Run.Refines (runAll compare c) (runAll compare c'))
    (ha : Run.Refines (runAll compare (a.getD [])) (runAll compare (a'.getD []))) :
    Run.Refines ((Stmt.cond test c a s).run compare)
      (runAll compare (Stmt.reduceCond test.optimize.value c' a' s).value) := by
  have hb {b : Bool} (hl : test.optimize.value.literal? = some (.boolean b)) (σ : Environment)
      (b' : Bool) (hb' : test.holds? compare σ = some b') : b' = b := by
    have := Expr.holds?_optimize h σ b' hb'
    rw [Expr.holds?_of_literal? hl] at this
    exact (Option.some.inj this).symm
  rw [run_cond]
  rcases Stmt.value_reduceCond test.optimize.value c' a' s with ⟨hl, hr⟩ | ⟨hl, hr⟩ | hr <;> rw [hr]
  · exact .of_given (hb hl) hc
  · exact .of_given (hb hl) ha
  · rw [runAll_singleton, run_cond]
    refine .given (Expr.holds?_optimize h) fun b => ?_
    cases b
    · exact ha
    · exact hc

mutual

/-- What a statement does, the statements it is optimized to do. -/
theorem Stmt.refines_optimize : ∀ {s : Stmt}, (∀ n ∈ s.expressions, n.NoFloat) →
    Run.Refines (s.run compare) (runAll compare s.optimize.value)
  | .decl t x e s, h => by
    change Run.Refines _ (runAll compare [.decl t x e.optimize.value s])
    rw [runAll_singleton]
    exact Expr.refines_given h (.store x)
  | .assign x e s, h => Stmt.refines_reduceAssign h
  | .print e s, h => by
    change Run.Refines _ (runAll compare [.print e.optimize.value s])
    rw [runAll_singleton]
    exact Expr.refines_given h .emit
  | .loop kind test body s, h => by
    simp only [Stmt.expressions, List.forall_mem_append] at h
    change Run.Refines _
      (runAll compare [.loop kind test.optimize.value (optimizeAll body).value s])
    rw [runAll_singleton]
    exact .repeatWhile (Expr.holds?_optimize h.1) (refines_optimizeAll h.2)
  | .cond test c none s, h => by
    simp only [Stmt.expressions, List.forall_mem_append] at h
    exact Stmt.refines_reduceCond h.1 (refines_optimizeAll h.2) (.refl _)
  | .cond test c (some a) s, h => by
    simp only [Stmt.expressions, List.forall_mem_append] at h
    exact Stmt.refines_reduceCond (a := some a) h.1 (refines_optimizeAll h.2.1)
      (refines_optimizeAll h.2.2)
  | .skip s, _ => by
    change Run.Refines _ (runAll compare [.skip s])
    rw [runAll_singleton]
    exact .refl _
  | .ret e s, h => by
    change Run.Refines _ (runAll compare [.ret e.optimize.value s])
    rw [runAll_singleton]
    exact Expr.refines_given h .exit
termination_by structural s => s

theorem refines_optimizeAll : ∀ {ss : List Stmt}, (∀ n ∈ expressionsOfAll ss, n.NoFloat) →
    Run.Refines (runAll compare ss) (runAll compare (optimizeAll ss).value)
  | [], _ => .refl _
  | s :: ss, h => by
    simp only [expressionsOfAll, List.forall_mem_append] at h
    change Run.Refines _ (runAll compare (s.optimize.value ++ (optimizeAll ss).value))
    rw [runAll_append]
    exact .seq (Stmt.refines_optimize h.1) (refines_optimizeAll h.2)
termination_by structural ss => ss

end

/-- **Optimization keeps the meaning of programs.** Where a program without
floating-point numbers does not fail, the optimized program ends in the same way,
from the same environment and with the same fuel, and leaves the same environment and
the same output. The types that the nodes carry need not even be the right ones. -/
theorem Program.run_optimize {p : Program} (h : ∀ e ∈ p.expressions, e.NoFloat)
    (compare : Comparison) (σ : Environment) (fuel : Nat) {r : Ending × Machine}
    (hr : p.run compare σ fuel = some r) : p.optimize.value.run compare σ fuel = some r :=
  refines_optimizeAll h _ _ hr

/-- A countdown from two, with an operand, a choice and an assignment to drop. -/
def countdown : Program :=
  let x : Variable := ⟨"x", .int, 1⟩
  let value : Expr := .ofVariable x {}
  let int (n : Int64) : Expr := .ofLiteral (.int n) {}
  ⟨[.decl .int x (.binary .add (int 1) (int 1) .int {}) {},
    .loop .whileLoop (.binary .ne value (int 0) .boolean {})
      [.print (.binary .mul value (int 1) .int {}) {},
       .cond (.binary .lt (int 0) (int 1) .boolean {})
         [.assign x (.binary .sub value (int 1) .int {}) {}] none {},
       .assign x value {}] {},
    .ret (.binary .sub (int 0) value .int {}) {}], {}⟩

theorem run_optimize_countdown :
    (∀ e ∈ countdown.expressions, e.NoFloat) ∧
      ∃ r, countdown.run (fun _ _ _ => none) (fun _ => none) 2 = some r ∧
        countdown.optimize.value.run (fun _ _ _ => none) (fun _ => none) 2 = some r := by
  have h : ∀ e ∈ countdown.expressions, e.NoFloat := by decide
  obtain ⟨r, hr⟩ := Option.isSome_iff_exists.1
    (show (countdown.run (fun _ _ _ => none) (fun _ => none) 2).isSome by decide +kernel)
  exact ⟨h, r, hr, Program.run_optimize h _ _ _ hr⟩

end Typed

end Yuyan
