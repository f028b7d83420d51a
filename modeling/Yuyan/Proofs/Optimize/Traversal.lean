import Yuyan.Optimize.Program
import Yuyan.Proofs.Optimize.Rewrites
import Yuyan.Proofs.Typed.Parts

/-!
# The traversal of the optimizer

What the optimizer makes of a node from what it makes of the parts of the node, as
equations between the optimized trees. The log plays no part in them.

A statement is kept with what is in it optimized (`Stmt.kept`), or it makes way: an
assignment of a variable to itself for nothing (`Stmt.optimize_assign_cases`), a choice
whose test is known for one of its branches (`Stmt.optimize_cond_cases`). Whatever is
nested how deep, nothing else is put in and nothing changes places (`parts_optimizeAll`).
-/

namespace Yuyan.Typed

/-! ### Expressions -/

namespace Expr

@[simp] theorem value_optimize_lit (v : Literal) (t : Ty) (s : Span) :
    (lit v t s).optimize.value = lit v t s := rfl

@[simp] theorem value_optimize_var (x : Variable) (t : Ty) (s : Span) :
    (var x t s).optimize.value = var x t s := rfl

theorem value_optimize_unary (op : UnOp) (e : Expr) (t : Ty) (s : Span) :
    (unary op e t s).optimize.value = (reduceUnary op e.optimize.value t s).value := rfl

theorem value_optimize_binary (op : BinOp) (l r : Expr) (t : Ty) (s : Span) :
    (binary op l r t s).optimize.value =
      (reduceBinary op l.optimize.value r.optimize.value t s).value := rfl

theorem value_optimizeElements (es : List Expr) :
    (optimizeElements es).value = es.map fun e => e.optimize.value := by
  induction es with
  | nil => rfl
  | cons e es ih =>
    rw [List.map_cons, ← ih]
    rfl

@[simp] theorem value_optimize_array (es : List Expr) (t : Ty) (s : Span) :
    (array es t s).optimize.value = array (es.map fun e => e.optimize.value) t s := by
  rw [← value_optimizeElements]
  rfl

@[simp] theorem value_optimize_index (a i : Expr) (t : Ty) (s : Span) :
    (index a i t s).optimize.value = index a.optimize.value i.optimize.value t s := rfl

end Expr

/-! ### Statements -/

theorem value_optimizeAll (ss : List Stmt) :
    (optimizeAll ss).value = ss.flatMap fun s => s.optimize.value := by
  induction ss with
  | nil => rfl
  | cons s ss ih =>
    rw [List.flatMap_cons, ← ih]
    rfl

@[simp] theorem value_optimizeAll_cons (s : Stmt) (ss : List Stmt) :
    (optimizeAll (s :: ss)).value = s.optimize.value ++ (optimizeAll ss).value := rfl

theorem value_optimizeAll_singleton (s : Stmt) :
    (optimizeAll [s]).value = s.optimize.value := List.append_nil _

/-- Where there is no alternate, there is nothing to optimize. -/
theorem getD_map_optimizeAll (a : Option (List Stmt)) :
    (a.map fun ss => (optimizeAll ss).value).getD [] = (optimizeAll (a.getD [])).value := by
  cases a <;> rfl

namespace Stmt

/-- A statement with its expressions and its bodies optimized and all else as it was. -/
def kept : Stmt → Stmt
  | decl t x e s => decl t x e.optimize.value s
  | assign x e s => assign x e.optimize.value s
  | print e s => print e.optimize.value s
  | loop kind test body s => loop kind test.optimize.value (optimizeAll body).value s
  | cond test c a s =>
    cond test.optimize.value (optimizeAll c).value (a.map fun ss => (optimizeAll ss).value) s
  | skip s => skip s
  | ret e s => ret e.optimize.value s

@[simp] theorem value_optimize_decl (t : Ty) (x : Variable) (e : Expr) (s : Span) :
    (decl t x e s).optimize.value = [decl t x e.optimize.value s] := rfl

theorem value_optimize_assign (x : Variable) (e : Expr) (s : Span) :
    (assign x e s).optimize.value = (reduceAssign x e.optimize.value s).value := rfl

@[simp] theorem value_optimize_print (e : Expr) (s : Span) :
    (print e s).optimize.value = [print e.optimize.value s] := rfl

@[simp] theorem value_optimize_loop (kind : Loop) (test : Expr) (body : List Stmt) (s : Span) :
    (loop kind test body s).optimize.value =
      [loop kind test.optimize.value (optimizeAll body).value s] := rfl

theorem value_optimize_cond (test : Expr) (c : List Stmt) (a : Option (List Stmt)) (s : Span) :
    (cond test c a s).optimize.value = (reduceCond test.optimize.value (optimizeAll c).value
      (a.map fun ss => (optimizeAll ss).value) s).value := by
  cases a <;> rfl

@[simp] theorem value_optimize_skip (s : Span) : (skip s).optimize.value = [skip s] := rfl

@[simp] theorem value_optimize_ret (e : Expr) (s : Span) :
    (ret e s).optimize.value = [ret e.optimize.value s] := rfl

/-- An assignment of a variable to itself is removed, any other one is kept. -/
theorem optimize_assign_cases (x : Variable) (e : Expr) (s : Span) :
    (∃ t s', e.optimize.value = .var x t s' ∧ (assign x e s).optimize.value = []) ∨
    (assign x e s).optimize.value = [kept (assign x e s)] :=
  value_reduceAssign x e.optimize.value s

/-- A choice whose test is known comes to the branch that the test takes. -/
theorem value_optimize_cond_of_known {test : Expr} {b : Bool}
    (h : test.optimize.value.literal? = some (.boolean b)) (c : List Stmt)
    (a : Option (List Stmt)) (s : Span) :
    (cond test c a s).optimize.value = (optimizeAll (if b then c else a.getD [])).value := by
  rw [value_optimize_cond]
  cases b with
  | true => simp [reduceCond, h, Literal.bool?]
  | false => simp [reduceCond, h, Literal.bool?, getD_map_optimizeAll]

/-- A choice comes to the branch that its test takes, or is kept. -/
theorem optimize_cond_cases (test : Expr) (c : List Stmt) (a : Option (List Stmt)) (s : Span) :
    (test.optimize.value.literal? = some (.boolean true) ∧
      (cond test c a s).optimize.value = (optimizeAll c).value) ∨
    (test.optimize.value.literal? = some (.boolean false) ∧
      (cond test c a s).optimize.value = (optimizeAll (a.getD [])).value) ∨
    (cond test c a s).optimize.value = [kept (cond test c a s)] := by
  rw [value_optimize_cond, ← getD_map_optimizeAll]
  exact value_reduceCond test.optimize.value (optimizeAll c).value _ s

end Stmt

/-! ### What is kept -/

/-- The parts of what a choice comes to are those of the choice that are kept, in order, if
this is so of its branches. -/
theorem Stmt.parts_optimize_cond {test : Expr} {c : List Stmt} {a : Option (List Stmt)} {s : Span}
    (hc : (partsOfAll (optimizeAll c).value).Sublist ((partsOfAll c).map kept))
    (ha : (partsOfAll (optimizeAll (a.getD [])).value).Sublist
      ((partsOfAll (a.getD [])).map kept)) :
    (partsOfAll (cond test c a s).optimize.value).Sublist ((cond test c a s).parts.map kept) := by
  rw [parts_cond, List.map_cons, List.map_append]
  rcases optimize_cond_cases test c a s with ⟨-, h⟩ | ⟨-, h⟩ | h <;> rw [h]
  · exact (hc.trans (List.sublist_append_left _ _)).cons _
  · exact (ha.trans (List.sublist_append_right _ _)).cons _
  · rw [partsOfAll_singleton, kept, parts_cond, getD_map_optimizeAll]
    exact (hc.append ha).cons_cons _

mutual

/-- What an optimized statement comes to has the parts of the statement that are kept, in
order. -/
theorem Stmt.parts_optimize : ∀ s : Stmt,
    (partsOfAll s.optimize.value).Sublist (s.parts.map Stmt.kept)
  | .decl .. | .print .. | .skip _ | .ret .. => .refl _
  | .assign x e s => by
    rcases Stmt.optimize_assign_cases x e s with ⟨_, _, -, h⟩ | h <;> rw [h]
    · exact List.nil_sublist _
    · exact .refl _
  | .loop kind test body s => by
    rw [Stmt.value_optimize_loop, partsOfAll_singleton]
    exact (parts_optimizeAll body).cons_cons _
  | .cond _ c none _ => Stmt.parts_optimize_cond (parts_optimizeAll c) (.refl _)
  | .cond _ c (some a) _ =>
    Stmt.parts_optimize_cond (a := some a) (parts_optimizeAll c) (parts_optimizeAll a)
termination_by structural s => s

theorem parts_optimizeAll : ∀ ss : List Stmt,
    (partsOfAll (optimizeAll ss).value).Sublist ((partsOfAll ss).map Stmt.kept)
  | [] => .refl _
  | s :: ss => by
    rw [value_optimizeAll_cons, partsOfAll_append, partsOfAll, List.map_append]
    exact (Stmt.parts_optimize s).append (parts_optimizeAll ss)
termination_by structural ss => ss

end

theorem Stmt.own?_kept (s : Stmt) : s.kept.own? = s.own?.map fun e => e.optimize.value := by
  cases s <;> rfl

/-- The expressions that are left were optimized where they stood: each is inside what the
own expression of a part of the statements was optimized to. -/
theorem exists_own?_of_mem_optimizeAll {ss : List Stmt} {n : Expr}
    (h : n ∈ expressionsOfAll (optimizeAll ss).value) :
    ∃ s ∈ partsOfAll ss, ∃ e ∈ s.own?, n ∈ e.optimize.value.nodes := by
  obtain ⟨s', hs', e', he', hn⟩ := mem_expressionsOfAll_iff.1 h
  obtain ⟨s, hs, rfl⟩ := List.mem_map.1 ((parts_optimizeAll ss).subset hs')
  rw [Stmt.own?_kept] at he'
  obtain ⟨e, he, rfl⟩ := Option.map_eq_some_iff.1 he'
  exact ⟨s, hs, e, he, hn⟩

/-! ### Programs -/

theorem Program.value_optimize (p : Program) :
    p.optimize.value = ⟨(optimizeAll p.statements).value, p.span⟩ := rfl

end Yuyan.Typed
