/-!
# Spans

A program text is addressed by byte offsets. Every node of a program keeps the
range of text it was written in, and every error keeps the range it is about.
A span only travels along: nothing the compiler decides depends on it.
-/

namespace Yuyan

/-- The half-open range `start..stop` of byte offsets. The empty range at offset
`0` belongs to what was never written. -/
structure Span where
  /-- The offset of the first byte. -/
  start : Nat := 0
  /-- The offset just past the last byte. -/
  stop : Nat := 0
  deriving DecidableEq, Repr, Inhabited

namespace Span

/-- How many bytes a span covers; none if it ends before it starts. -/
def length (s : Span) : Nat := s.stop - s.start

/-- A span that covers no byte. -/
def isEmpty (s : Span) : Bool := s.length == 0

/-- The written form `start..stop`. -/
def text (s : Span) : String := s!"{s.start}..{s.stop}"

end Span

end Yuyan
