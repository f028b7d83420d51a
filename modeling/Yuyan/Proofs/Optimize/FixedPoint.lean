import Yuyan.Proofs.Optimize.Traversal

/-!
# One pass is enough

A pass over an optimized program changes nothing, whether the program is well typed or
not. The operands of an operator are optimized before the operator is looked at, and
none of the expressions that it can come to (`Expr.Rewritten`) can be rewritten again: an
operator that is kept meets the same operands, an operand that takes its place is
optimized already, and the negation that replaces a difference from zero is one of an
expression that is no literal. Statements that take the place of a choice come from an
optimized body.

Neither does it matter if parts of a program are optimized beforehand. `PartlyOptimized`
relates a program to what becomes of it when any of its expressions and any of its bodies
are replaced by what they are optimized to, some perhaps inside others; all of these are
optimized to the same program (`Program.optimize_of_partlyOptimized`).
-/

namespace Yuyan.Typed

/-! ### Expressions -/

namespace Expr

/-- What an operator on optimized operands comes to cannot be rewritten again. -/
theorem Rewritten.optimize {op : BinOp} {l r e : Expr} {t : Ty} {s : Span}
    (h : Rewritten op l r t s e) (he : (reduceBinary op l r t s).value = e)
    (hl : l.optimize.value = l) (hr : r.optimize.value = r) : e.optimize.value = e := by
  cases h with
  | kept => rw [value_optimize_binary, hl, hr, he]
  | left => exact hl
  | right => exact hr
  | negated _ hn => rw [value_optimize_unary, hr, value_reduceUnary_of_literal?_eq_none hn]
  | folded | zero | one => rfl

/-- **An optimized expression stays as it is.** -/
theorem optimize_optimize (e : Expr) : e.optimize.value.optimize.value = e.optimize.value := by
  induction e with
  | lit | var => rfl
  | unary op e t s ih =>
    rw [value_optimize_unary]
    rcases value_reduceUnary op e.optimize.value t s with ⟨a, v, -, -, h⟩ | h
    · rw [h]
      rfl
    · rw [h, value_optimize_unary, ih, h]
  | binary op l r t s ihl ihr =>
    exact (rewritten_reduceBinary op _ _ t s).optimize rfl ihl ihr
  | array es t s ih =>
    rw [value_optimize_array, value_optimize_array, List.map_map]
    congr 1
    exact List.map_congr_left ih
  | index a i t s iha ihi =>
    rw [value_optimize_index, value_optimize_index, iha, ihi]

end Expr

/-! ### Statements -/

theorem optimizeAll_append (ss us : List Stmt) :
    (optimizeAll (ss ++ us)).value = (optimizeAll ss).value ++ (optimizeAll us).value := by
  rw [value_optimizeAll, value_optimizeAll, value_optimizeAll, List.flatMap_append]

/-- The statements that a choice comes to stay as they are, if the optimized branches do. -/
theorem Stmt.optimizeAll_optimize_cond {test : Expr} {c : List Stmt} {a : Option (List Stmt)}
    {s : Span} (hc : (optimizeAll (optimizeAll c).value).value = (optimizeAll c).value)
    (ha : ∀ ss ∈ a, (optimizeAll (optimizeAll ss).value).value = (optimizeAll ss).value) :
    (optimizeAll (cond test c a s).optimize.value).value = (cond test c a s).optimize.value := by
  rcases optimize_cond_cases test c a s with ⟨-, h⟩ | ⟨-, h⟩ | h
  · rw [h, hc]
  · rw [h]
    cases a with
    | none => rfl
    | some a => exact ha a rfl
  · have ha' : (a.map fun ss => (optimizeAll ss).value).map (fun ss => (optimizeAll ss).value) =
        a.map fun ss => (optimizeAll ss).value := by
      cases a with
      | none => rfl
      | some a => exact congrArg some (ha a rfl)
    -- a choice that is kept meets the same test and the same branches the second time
    rw [h, value_optimizeAll_singleton, kept, value_optimize_cond, test.optimize_optimize, hc, ha',
      ← value_optimize_cond, h, kept]

mutual

/-- **The statements that a statement comes to stay as they are.** -/
theorem Stmt.optimizeAll_optimize : ∀ s : Stmt,
    (optimizeAll s.optimize.value).value = s.optimize.value
  | .decl t x e s => by
    rw [Stmt.value_optimize_decl, value_optimizeAll_singleton, Stmt.value_optimize_decl,
      e.optimize_optimize]
  | .assign x e s => by
    rcases Stmt.optimize_assign_cases x e s with ⟨_, _, -, h⟩ | h
    · rw [h]
      rfl
    · rw [h, value_optimizeAll_singleton, Stmt.kept, Stmt.value_optimize_assign,
        e.optimize_optimize, ← Stmt.value_optimize_assign, h, Stmt.kept]
  | .print e s => by
    rw [Stmt.value_optimize_print, value_optimizeAll_singleton, Stmt.value_optimize_print,
      e.optimize_optimize]
  | .loop kind test body s => by
    rw [Stmt.value_optimize_loop, value_optimizeAll_singleton, Stmt.value_optimize_loop,
      test.optimize_optimize, optimizeAll_optimizeAll body]
  | .cond _ c none _ => Stmt.optimizeAll_optimize_cond (optimizeAll_optimizeAll c) nofun
  | .cond _ c (some a) _ => by
    refine Stmt.optimizeAll_optimize_cond (optimizeAll_optimizeAll c) ?_
    rintro _ ⟨⟩
    exact optimizeAll_optimizeAll a
  | .skip _ => rfl
  | .ret e s => by
    rw [Stmt.value_optimize_ret, value_optimizeAll_singleton, Stmt.value_optimize_ret,
      e.optimize_optimize]
termination_by structural s => s

theorem optimizeAll_optimizeAll : ∀ ss : List Stmt,
    (optimizeAll (optimizeAll ss).value).value = (optimizeAll ss).value
  | [] => rfl
  | s :: ss => by
    rw [value_optimizeAll_cons, optimizeAll_append, Stmt.optimizeAll_optimize s,
      optimizeAll_optimizeAll ss]
termination_by structural ss => ss

end

/-! ### Parts that are optimized beforehand -/

mutual

/-- The second expression is the first with any of the expressions in it replaced by what
they are optimized to. -/
inductive Expr.PartlyOptimized : Expr → Expr → Prop where
  | same (e : Expr) : Expr.PartlyOptimized e e
  | optimized {e e' : Expr} (inside : Expr.PartlyOptimized e e') :
      Expr.PartlyOptimized e e'.optimize.value
  | unary {op : UnOp} {e e' : Expr} {t : Ty} {s : Span} (operand : Expr.PartlyOptimized e e') :
      Expr.PartlyOptimized (.unary op e t s) (.unary op e' t s)
  | binary {op : BinOp} {l l' r r' : Expr} {t : Ty} {s : Span}
      (left : Expr.PartlyOptimized l l') (right : Expr.PartlyOptimized r r') :
      Expr.PartlyOptimized (.binary op l r t s) (.binary op l' r' t s)
  | array {es es' : List Expr} {t : Ty} {s : Span} (elements : ElementsPartlyOptimized es es') :
      Expr.PartlyOptimized (.array es t s) (.array es' t s)
  | index {a a' i i' : Expr} {t : Ty} {s : Span}
      (array : Expr.PartlyOptimized a a') (index : Expr.PartlyOptimized i i') :
      Expr.PartlyOptimized (.index a i t s) (.index a' i' t s)

/-- This holds of the elements of two arrays in pairs. -/
inductive ElementsPartlyOptimized : List Expr → List Expr → Prop where
  | nil : ElementsPartlyOptimized [] []
  | cons {e e' : Expr} {es es' : List Expr} (head : Expr.PartlyOptimized e e')
      (tail : ElementsPartlyOptimized es es') : ElementsPartlyOptimized (e :: es) (e' :: es')

end

mutual

/-- The second statement is the first with any of the expressions and any of the bodies in
it replaced by what they are optimized to. -/
inductive Stmt.PartlyOptimized : Stmt → Stmt → Prop where
  | decl {t : Ty} {x : Variable} {e e' : Expr} {s : Span} (value : e.PartlyOptimized e') :
      Stmt.PartlyOptimized (.decl t x e s) (.decl t x e' s)
  | assign {x : Variable} {e e' : Expr} {s : Span} (value : e.PartlyOptimized e') :
      Stmt.PartlyOptimized (.assign x e s) (.assign x e' s)
  | print {e e' : Expr} {s : Span} (argument : e.PartlyOptimized e') :
      Stmt.PartlyOptimized (.print e s) (.print e' s)
  | loop {kind : Loop} {e e' : Expr} {ss ss' : List Stmt} {s : Span}
      (test : e.PartlyOptimized e') (body : AllPartlyOptimized ss ss') :
      Stmt.PartlyOptimized (.loop kind e ss s) (.loop kind e' ss' s)
  | condOnly {e e' : Expr} {ss ss' : List Stmt} {s : Span} (test : e.PartlyOptimized e')
      (consequent : AllPartlyOptimized ss ss') :
      Stmt.PartlyOptimized (.cond e ss none s) (.cond e' ss' none s)
  | condElse {e e' : Expr} {ss ss' us us' : List Stmt} {s : Span} (test : e.PartlyOptimized e')
      (consequent : AllPartlyOptimized ss ss') (alternate : AllPartlyOptimized us us') :
      Stmt.PartlyOptimized (.cond e ss (some us) s) (.cond e' ss' (some us') s)
  | skip {s : Span} : Stmt.PartlyOptimized (.skip s) (.skip s)
  | ret {e e' : Expr} {s : Span} (argument : e.PartlyOptimized e') :
      Stmt.PartlyOptimized (.ret e s) (.ret e' s)

/-- This holds of two lists of statements in pairs, or the second is what such a list is
optimized to. -/
inductive AllPartlyOptimized : List Stmt → List Stmt → Prop where
  | nil : AllPartlyOptimized [] []
  | cons {s s' : Stmt} {ss ss' : List Stmt} (head : Stmt.PartlyOptimized s s')
      (tail : AllPartlyOptimized ss ss') : AllPartlyOptimized (s :: ss) (s' :: ss')
  | optimized {ss ss' : List Stmt} (inside : AllPartlyOptimized ss ss') :
      AllPartlyOptimized ss (optimizeAll ss').value

end

/-- The second program is the first with any of the expressions and any of the bodies in it
replaced by what they are optimized to. -/
structure Program.PartlyOptimized (p p' : Program) : Prop where
  statements : AllPartlyOptimized p.statements p'.statements
  span : p'.span = p.span

mutual

theorem Expr.PartlyOptimized.optimize : ∀ {e e' : Expr}, e.PartlyOptimized e' →
    e'.optimize.value = e.optimize.value
  | _, _, .same _ => rfl
  | _, _, .optimized h => (Expr.optimize_optimize _).trans h.optimize
  | _, _, .unary h => by
    rw [Expr.value_optimize_unary, Expr.value_optimize_unary, h.optimize]
  | _, _, .binary hl hr => by
    rw [Expr.value_optimize_binary, Expr.value_optimize_binary, hl.optimize, hr.optimize]
  | _, _, .array h => by
    rw [Expr.value_optimize_array, Expr.value_optimize_array, h.optimize]
  | _, _, .index ha hi => by
    rw [Expr.value_optimize_index, Expr.value_optimize_index, ha.optimize, hi.optimize]

theorem ElementsPartlyOptimized.optimize : ∀ {es es' : List Expr}, ElementsPartlyOptimized es es' →
    (es'.map fun e => e.optimize.value) = es.map fun e => e.optimize.value
  | _, _, .nil => rfl
  | _, _, .cons h hs => by rw [List.map_cons, List.map_cons, h.optimize, hs.optimize]

end

mutual

theorem Stmt.PartlyOptimized.optimize : ∀ {s s' : Stmt}, s.PartlyOptimized s' →
    s'.optimize.value = s.optimize.value
  | _, _, .decl h => by rw [Stmt.value_optimize_decl, Stmt.value_optimize_decl, h.optimize]
  | _, _, .assign h => by rw [Stmt.value_optimize_assign, Stmt.value_optimize_assign, h.optimize]
  | _, _, .print h => by rw [Stmt.value_optimize_print, Stmt.value_optimize_print, h.optimize]
  | _, _, .loop ht hb => by
    rw [Stmt.value_optimize_loop, Stmt.value_optimize_loop, ht.optimize, hb.optimize]
  | _, _, .condOnly ht hc => by
    rw [Stmt.value_optimize_cond, Stmt.value_optimize_cond, ht.optimize, hc.optimize]
  | _, _, .condElse ht hc ha => by
    rw [Stmt.value_optimize_cond, Stmt.value_optimize_cond, ht.optimize, hc.optimize,
      Option.map_some, Option.map_some, ha.optimize]
  | _, _, .skip => rfl
  | _, _, .ret h => by rw [Stmt.value_optimize_ret, Stmt.value_optimize_ret, h.optimize]

theorem AllPartlyOptimized.optimize : ∀ {ss ss' : List Stmt}, AllPartlyOptimized ss ss' →
    (optimizeAll ss').value = (optimizeAll ss).value
  | _, _, .nil => rfl
  | _, _, .cons h hs => by
    rw [value_optimizeAll_cons, value_optimizeAll_cons, h.optimize, hs.optimize]
  | _, _, .optimized h => (optimizeAll_optimizeAll _).trans h.optimize

end

/-! ### Programs -/

namespace Program

/-- **One pass reaches a fixed point**, and a program that is optimized in part, in
whichever parts, is optimized to the same program. -/
theorem optimize_of_partlyOptimized :
    (∀ p : Program, p.optimize.value.optimize.value = p.optimize.value) ∧
    ∀ p p' : Program, p.PartlyOptimized p' → p'.optimize.value = p.optimize.value := by
  constructor
  · intro p
    rw [value_optimize, value_optimize, optimizeAll_optimizeAll]
  · intro p p' h
    rw [value_optimize, value_optimize, h.statements.optimize, h.span]

/-- A loop whose test has an operand to drop, around a choice that is known. -/
def unfinished : Program :=
  let int (n : Int64) : Expr := .ofLiteral (.int n) {}
  let x : Expr := .ofVariable ⟨"x", .int, 1⟩ {}
  ⟨[.loop .whileLoop (.binary .gt (.binary .add x (int 0) .int {}) (int 0) .boolean {})
      [.cond (.ofLiteral (.boolean true) {}) [.print (.binary .sub (int 0) x .int {}) {}] none {}]
      {}], {}⟩

/-- The same with the operand dropped and the body of the loop optimized. -/
def halfFinished : Program :=
  let int (n : Int64) : Expr := .ofLiteral (.int n) {}
  let x : Expr := .ofVariable ⟨"x", .int, 1⟩ {}
  ⟨[.loop .whileLoop (.binary .gt x (int 0) .boolean {}) [.print (.unary .neg x .int {}) {}] {}],
    {}⟩

theorem optimize_halfFinished :
    unfinished.PartlyOptimized halfFinished ∧
      halfFinished.optimize.value = unfinished.optimize.value := by
  have h : unfinished.PartlyOptimized halfFinished := by
    refine ⟨.cons (.loop (.binary ?_ (.same _)) ?_) .nil, rfl⟩
    · exact Expr.PartlyOptimized.optimized (.same (.binary .add _ _ _ _))
    · exact AllPartlyOptimized.optimized
        (.cons (.condOnly (.same _) (.cons (.print (.same _)) .nil)) .nil)
  exact ⟨h, optimize_of_partlyOptimized.2 _ _ h⟩

end Program

end Yuyan.Typed
