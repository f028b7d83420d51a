import Yuyan.Typed.Outline

/-!
# The log

What the compiler does on its way is told by events. A computation that only
writes to the log and always succeeds is a `Logged` value: the events it wrote
and what it computed. The value never depends on the events, as `value_bind`
shows.
-/

namespace Yuyan

/-- A thing worth telling. -/
inductive Event where
  /-- The analysis of a program with so many statements at the top begins. -/
  | started (statements : Nat)
  | finished
  /-- The analysis goes into a body that lies so many bodies deep. -/
  | entered (depth : Nat)
  /-- The analysis comes out of a body, back to so many open bodies. -/
  | left (depth : Nat)
  | declared (target : Variable)
  /-- An operator on two literals became a literal. -/
  | folded (op : BinOp) (left right value : Literal)
  /-- An operator on a literal became a literal. -/
  | foldedUnary (op : UnOp) (operand value : Literal)
  /-- An operand that changes nothing was dropped, with its operator. -/
  | droppedIdentity (op : BinOp)
  /-- A difference from zero became a negation. -/
  | negated
  /-- An operator whose result hangs on one operand became a literal. -/
  | collapsed (op : BinOp) (value : Literal)
  | removedSelfAssignment (name : String)
  | keptConsequent
  | keptAlternate
  /-- Optimization ends, with the number of statements and branches it removed. -/
  | swept (removed pruned : Nat)
  | analyzed (statements : Nat)
  | typedTree (program : Typed.Program)
  | optimized (statements : Nat)
  | optimizedTree (program : Typed.Program)

/-- How much an event matters. -/
inductive Level where
  | debug | trace
  deriving DecidableEq, Repr

namespace Event

/-- The steps are traced; what a whole pass comes to is kept for debugging. -/
def level : Event → Level
  | started _ | finished | swept _ _ | analyzed _ | typedTree _ | optimized _ | optimizedTree _ =>
    .debug
  | _ => .trace

/-- The line of an event in the log. -/
def text : Event → String
  | started n => s!"analyzing {n} top-level statements"
  | finished => "analysis finished"
  | entered d => s!"entered body scope at depth {d}"
  | left d => s!"left body scope, back at depth {d}"
  | declared v => s!"declared {v.uniqueName}: {v.ty.text}"
  | folded op l r v => s!"folded {l.text} {op.symbol} {r.text} to {v.text}"
  | foldedUnary op e v => s!"folded {op.symbol}{e.text} to {v.text}"
  | droppedIdentity op => s!"dropped identity operand of '{op.symbol}'"
  | negated => "rewrote 0 - x to -x"
  | collapsed op v => s!"collapsed '{op.symbol}' to {v.text}"
  | removedSelfAssignment name => s!"removed self-assignment of {name}"
  | keptConsequent => "if test is always true, kept the consequent"
  | keptAlternate => "if test is always false, kept the alternate"
  | swept removed pruned =>
    s!"optimizer removed {removed} statements and pruned {pruned} branches"
  | analyzed n => s!"analysis produced {n} statements"
  | typedTree p => s!"typed AST:\n{p.outline.text}"
  | optimized n => s!"optimization left {n} statements"
  | optimizedTree p => s!"optimized AST:\n{p.outline.text}"

end Event

/-! ### Computations that write to the log -/

/-- A value, and the events on the way to it. -/
structure Logged (α : Type) where
  /-- What was computed. -/
  value : α
  /-- What was written, in order. -/
  events : List Event

namespace Logged

variable {α β : Type}

instance : Monad Logged where
  pure a := ⟨a, []⟩
  bind x f := let y := f x.value; ⟨y.value, x.events ++ y.events⟩

/-- Write one event. -/
def write (e : Event) : Logged Unit := ⟨(), [e]⟩

@[simp] theorem value_pure (a : α) : (pure a : Logged α).value = a := rfl

@[simp] theorem events_pure (a : α) : (pure a : Logged α).events = [] := rfl

@[simp] theorem value_bind (x : Logged α) (f : α → Logged β) :
    (x >>= f).value = (f x.value).value := rfl

@[simp] theorem events_bind (x : Logged α) (f : α → Logged β) :
    (x >>= f).events = x.events ++ (f x.value).events := rfl

@[simp] theorem value_write (e : Event) : (write e).value = () := rfl

@[simp] theorem events_write (e : Event) : (write e).events = [e] := rfl

@[ext] theorem ext {x y : Logged α} (value : x.value = y.value) (events : x.events = y.events) :
    x = y := by
  cases x; cases y; simp_all

instance : LawfulMonad Logged := .mk' Logged
  (fun x => ext rfl (List.append_nil x.events))
  (fun _ _ => ext rfl rfl)
  (fun x f g => ext rfl (List.append_assoc x.events (f x.value).events _))

@[simp] theorem value_map (f : α → β) (x : Logged α) : (f <$> x).value = f x.value := rfl

@[simp] theorem events_map (f : α → β) (x : Logged α) : (f <$> x).events = x.events :=
  List.append_nil x.events

end Logged

end Yuyan
