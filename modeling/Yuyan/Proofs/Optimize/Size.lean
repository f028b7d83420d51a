import Yuyan.Proofs.Optimize.Traversal

/-!
# Every rewrite is told and makes the program smaller

The size of a program is the number of its statements at all depths and of the nodes of all its
expressions. Each step of the optimizer that changes anything writes one event, and takes at
least one node or statement away. Where no event is written, all is as it was. A computation
that keeps this account `Shrinks` what it is given. The account of a whole is put together from
those of its parts by one lemma (`Logged.Shrinks.bind`): what the parts were optimized to takes
their place, which changes the size of the whole by what it changes that of the part.

A branch that is not taken is optimized before it is left out, and its events stay in the log.
They are paid for by the nodes that went before the branch did.
-/

namespace Yuyan

/-! ### Accounts -/

/-- What is computed is smaller than what there was before by at least as much as there are
events, all of which are traced. Where nothing is written, nothing is changed. -/
structure Logged.Shrinks {α : Type} (size : α → Nat) (before : α) (x : Logged α) : Prop where
  traced : ∀ event ∈ x.events, event.level = .trace
  size_le : size x.value + x.events.length ≤ size before
  unchanged : x.events = [] → x.value = before

namespace Logged

variable {α β : Type} {size : α → Nat} {size' : β → Nat} {a before : α}

theorem shrinks_pure : (pure a : Logged α).Shrinks size a where
  traced := List.forall_mem_nil _
  size_le := Nat.le_refl _
  unchanged _ := rfl

/-- An event is paid for with one node. -/
theorem Shrinks.write {event : Event} {x : Logged α} (level : event.level = .trace)
    (paid : size a + 1 ≤ size before) (hx : x.Shrinks size a) :
    (Logged.write event >>= fun _ => x).Shrinks size before where
  traced := List.forall_mem_cons.2 ⟨level, hx.traced⟩
  size_le := by
    have := hx.size_le
    simp only [value_bind, events_bind, events_write, List.length_append, List.length_singleton]
    omega
  unchanged h := by simp at h

/-- A part may be replaced first. The whole `around` the part grows and shrinks with it. -/
theorem Shrinks.bind {x : Logged α} {f : α → Logged β} (around : α → β)
    (hs : ∀ b c, size' (around b) + size c = size' (around c) + size b)
    (hx : x.Shrinks size a) (hf : (f x.value).Shrinks size' (around x.value)) :
    (x >>= f).Shrinks size' (around a) where
  traced := by
    rw [events_bind, List.forall_mem_append]
    exact ⟨hx.traced, hf.traced⟩
  size_le := by
    have part := hx.size_le
    have whole := hf.size_le
    have same := hs x.value a
    rw [value_bind, events_bind, List.length_append]
    omega
  unchanged h := by
    rw [events_bind, List.append_eq_nil_iff] at h
    rw [value_bind, hf.unchanged h.2, hx.unchanged h.1]

/-- The same for the steps of a run over statements, whatever is counted. -/
theorem Shrinks.sweep {x : Typed.Sweep α} {f : α → Typed.Sweep β} (around : α → β)
    (hs : ∀ b c, size' (around b) + size c = size' (around c) + size b)
    (hx : x.Shrinks size a) (hf : (f x.value).Shrinks size' (around x.value)) :
    (x >>= f).Shrinks size' (around a) := by
  rw [Typed.Sweep.toLogged_bind]
  exact hx.bind around hs hf

end Logged

namespace Typed

open Logged

/-! ### Sizes -/

/-- The number of nodes of an expression. -/
def Expr.size (e : Expr) : Nat := e.nodes.length

/-- The number of nodes of expressions. -/
def sizeOfElements (es : List Expr) : Nat := (nodesOfAll es).length

/-- The number of statements at all depths and of nodes of their expressions. -/
def sizeOfAll (ss : List Stmt) : Nat := (expressionsOfAll ss).length + (partsOfAll ss).length

@[inherit_doc sizeOfAll]
def Program.size (p : Program) : Nat := p.expressions.length + p.parts.length

namespace Expr

@[simp] theorem size_ofLiteral (v : Literal) (s : Span) : (ofLiteral v s).size = 1 := rfl

@[simp] theorem size_unary (op : UnOp) (e : Expr) (t : Ty) (s : Span) :
    (unary op e t s).size = e.size + 1 := rfl

@[simp] theorem size_binary (op : BinOp) (l r : Expr) (t : Ty) (s : Span) :
    (binary op l r t s).size = l.size + r.size + 1 := by
  simp [size, nodes]

@[simp] theorem size_array (es : List Expr) (t : Ty) (s : Span) :
    (array es t s).size = sizeOfElements es + 1 := rfl

@[simp] theorem size_index (a i : Expr) (t : Ty) (s : Span) :
    (index a i t s).size = a.size + i.size + 1 := by
  simp [size, nodes]

theorem size_pos (e : Expr) : 0 < e.size := List.length_pos_of_mem e.mem_nodes_self

end Expr

@[simp] theorem sizeOfElements_cons (e : Expr) (es : List Expr) :
    sizeOfElements (e :: es) = e.size + sizeOfElements es := List.length_append

@[simp] theorem sizeOfAll_nil : sizeOfAll [] = 0 := rfl

@[simp] theorem sizeOfAll_append (ss us : List Stmt) :
    sizeOfAll (ss ++ us) = sizeOfAll ss + sizeOfAll us := by
  simp only [sizeOfAll, expressionsOfAll_eq_flatMap, List.flatMap_append, partsOfAll_append,
    List.length_append]
  omega

section Statements

variable (t : Ty) (x : Variable) (e : Expr) (ss : List Stmt) (s : Span)

@[simp] theorem sizeOfAll_decl : sizeOfAll [.decl t x e s] = e.size + 1 := by
  simp [sizeOfAll, expressionsOfAll, partsOfAll, Stmt.expressions, Stmt.parts, Expr.size]

@[simp] theorem sizeOfAll_assign : sizeOfAll [.assign x e s] = e.size + 1 := by
  simp [sizeOfAll, expressionsOfAll, partsOfAll, Stmt.expressions, Stmt.parts, Expr.size]

@[simp] theorem sizeOfAll_print : sizeOfAll [.print e s] = e.size + 1 := by
  simp [sizeOfAll, expressionsOfAll, partsOfAll, Stmt.expressions, Stmt.parts, Expr.size]

@[simp] theorem sizeOfAll_ret : sizeOfAll [.ret e s] = e.size + 1 := by
  simp [sizeOfAll, expressionsOfAll, partsOfAll, Stmt.expressions, Stmt.parts, Expr.size]

@[simp] theorem sizeOfAll_loop (kind : Loop) :
    sizeOfAll [.loop kind e ss s] = e.size + sizeOfAll ss + 1 := by
  simp [sizeOfAll, expressionsOfAll, partsOfAll, Stmt.expressions, Stmt.parts, Expr.size]
  omega

@[simp] theorem sizeOfAll_cond (a : Option (List Stmt)) :
    sizeOfAll [.cond e ss a s] = e.size + sizeOfAll ss + sizeOfAll (a.getD []) + 1 := by
  cases a with
  | none =>
    simp [sizeOfAll, expressionsOfAll, partsOfAll, Stmt.expressions, Stmt.parts, Expr.size]
    omega
  | some a =>
    simp [sizeOfAll, expressionsOfAll, partsOfAll, Stmt.expressions, Stmt.parts, Expr.size]
    omega

end Statements

/-! ### Expressions -/

namespace Expr

variable (op : BinOp) (l r e : Expr) (t : Ty) (s : Span)

theorem shrinks_reduceUnary (op : UnOp) :
    (reduceUnary op e t s).Shrinks size (.unary op e t s) := by
  have := e.size_pos
  unfold reduceUnary
  split
  · split
    · exact .write rfl (by simp; omega) shrinks_pure
    · exact shrinks_pure
  · exact shrinks_pure

theorem shrinks_collapse (value : Option Literal) :
    (collapse op value l r t s).Shrinks size (.binary op l r t s) := by
  have := l.size_pos
  cases value with
  | none => exact shrinks_pure
  | some v => exact .write rfl (by simp; omega) shrinks_pure

theorem shrinks_applyIdentity :
    (applyIdentity op l r t s).Shrinks size (.binary op l r t s) := by
  have := l.size_pos
  unfold applyIdentity
  split
  · exact shrinks_pure
  · split
    · exact .write rfl (by simp) shrinks_pure
    · exact shrinks_pure
  · split
    · exact .write rfl (by simp) shrinks_pure
    · exact shrinks_pure
  · split
    -- the negation may be computed in turn, with an event of its own
    · exact .write rfl (by simp; omega) (shrinks_reduceUnary r t s .neg)
    · exact shrinks_pure
  · exact shrinks_collapse op l r t s _
  · exact shrinks_collapse op l r t s _

theorem shrinks_reduceBinary : (reduceBinary op l r t s).Shrinks size (.binary op l r t s) := by
  have := l.size_pos
  unfold reduceBinary
  split
  · split
    · exact .write rfl (by simp; omega) shrinks_pure
    · exact shrinks_pure
  · exact shrinks_applyIdentity op l r t s

end Expr

theorem shrinks_optimizeElements {es : List Expr} (h : ∀ e ∈ es, e.optimize.Shrinks Expr.size e) :
    (optimizeElements es).Shrinks sizeOfElements es := by
  induction es with
  | nil => exact shrinks_pure
  | cons e es ih =>
    rw [List.forall_mem_cons] at h
    have tail : (optimizeElements es).Shrinks sizeOfElements es := ih h.2
    rw [optimizeElements]
    refine h.1.bind (fun e => e :: es) (fun b c => by simp; omega) ?_
    exact tail.bind (fun es => _ :: es) (fun b c => by simp; omega) shrinks_pure

/-- Each rewrite of an operator makes an expression smaller. -/
theorem Expr.shrinks_optimize (e : Expr) : e.optimize.Shrinks size e := by
  induction e with
  | lit | var => exact shrinks_pure
  | unary op e t s ih =>
    rw [optimize]
    refine ih.bind (fun e => unary op e t s) (fun b c => by simp; omega) ?_
    exact shrinks_reduceUnary _ t s op
  | binary op l r t s ihl ihr =>
    rw [optimize]
    refine ihl.bind (fun l => binary op l r t s) (fun b c => by simp; omega) ?_
    refine ihr.bind (fun r => binary op _ r t s) (fun b c => by simp; omega) ?_
    exact shrinks_reduceBinary op _ _ t s
  | array es t s ih =>
    rw [optimize]
    refine (shrinks_optimizeElements ih).bind (fun es => array es t s) (fun b c => by simp; omega) ?_
    exact shrinks_pure
  | index a i t s iha ihi =>
    rw [optimize]
    refine iha.bind (fun a => index a i t s) (fun b c => by simp; omega) ?_
    refine ihi.bind (fun i => index _ i t s) (fun b c => by simp; omega) ?_
    exact shrinks_pure

/-! ### Statements -/

namespace Stmt

theorem shrinks_reduceAssign (x : Variable) (e : Expr) (s : Span) :
    (reduceAssign x e s).Shrinks sizeOfAll [.assign x e s] := by
  unfold reduceAssign
  split
  · split
    · exact .write rfl (by simp) shrinks_pure
    · exact shrinks_pure
  · exact shrinks_pure

theorem shrinks_reduceCond (test : Expr) (c : List Stmt) (a : Option (List Stmt)) (s : Span) :
    (reduceCond test c a s).Shrinks sizeOfAll [.cond test c a s] := by
  unfold reduceCond
  split
  · exact .write rfl (by simp; omega) shrinks_pure
  · exact .write rfl (by simp) shrinks_pure
  · exact shrinks_pure

end Stmt

theorem shrinks_optimizeAll {ss : List Stmt} (h : ∀ s ∈ ss, s.optimize.Shrinks sizeOfAll [s]) :
    (optimizeAll ss).Shrinks sizeOfAll ss := by
  induction ss with
  | nil => exact shrinks_pure
  | cons s ss ih =>
    rw [List.forall_mem_cons] at h
    have tail : (optimizeAll ss).Shrinks sizeOfAll ss := ih h.2
    rw [optimizeAll]
    refine h.1.sweep (fun us => us ++ ss) (fun b c => by simp; omega) ?_
    exact tail.sweep (fun ss => _ ++ ss) (fun b c => by simp; omega) shrinks_pure

/-- Each rewrite in a statement makes the program smaller, and so does its removal. -/
theorem Stmt.shrinks_optimize (s : Stmt) : s.optimize.Shrinks sizeOfAll [s] := by
  induction s with
  | decl t x e s =>
    rw [optimize]
    exact e.shrinks_optimize.sweep (fun e => [decl t x e s]) (fun b c => by simp; omega) shrinks_pure
  | assign x e s =>
    rw [optimize]
    exact e.shrinks_optimize.sweep (fun e => [assign x e s]) (fun b c => by simp; omega)
      (shrinks_reduceAssign x _ s)
  | print e s =>
    rw [optimize]
    exact e.shrinks_optimize.sweep (fun e => [print e s]) (fun b c => by simp; omega) shrinks_pure
  | loop kind test body s ih =>
    rw [optimize]
    refine test.shrinks_optimize.sweep (fun e => [loop kind e body s]) (fun b c => by simp; omega) ?_
    exact (shrinks_optimizeAll ih).sweep (fun ss => [loop kind _ ss s]) (fun b c => by simp; omega)
      shrinks_pure
  | cond test c a s ihc iha =>
    cases a with
    | none =>
      rw [optimize]
      refine test.shrinks_optimize.sweep (fun e => [cond e c none s]) (fun b c => by simp; omega) ?_
      exact (shrinks_optimizeAll ihc).sweep (fun ss => [cond _ ss none s])
        (fun b c => by simp; omega) (shrinks_reduceCond _ _ none s)
    | some a =>
      rw [optimize]
      refine test.shrinks_optimize.sweep (fun e => [cond e c (some a) s])
        (fun b c => by simp; omega) ?_
      refine (shrinks_optimizeAll ihc).sweep (fun ss => [cond _ ss (some a) s])
        (fun b c => by simp; omega) ?_
      exact (shrinks_optimizeAll iha).sweep (fun us => [cond _ _ (some us) s])
        (fun b c => by simp; omega) (shrinks_reduceCond _ _ (some _) s)
  | skip s => exact shrinks_pure
  | ret e s =>
    rw [optimize]
    exact e.shrinks_optimize.sweep (fun e => [ret e s]) (fun b c => by simp; omega) shrinks_pure

end Typed

end Yuyan
