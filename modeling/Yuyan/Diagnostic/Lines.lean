import Yuyan.Diagnostic.Columns

/-!
# Lines and columns

A text is addressed by byte offsets, and shown in lines and columns. A line keeps
the offset it starts at, so that an offset can be found in it; a character keeps
its offset and the columns it takes.
-/

namespace Yuyan.Snippet

/-- How many bytes characters take. -/
def byteSize : List Char → Nat
  | [] => 0
  | c :: rest => c.utf8Size + byteSize rest

/-- A line of a text. -/
structure Line where
  /-- The offset of its first byte. -/
  start : Nat
  /-- Its characters, the end of the line included. -/
  chars : List Char
  deriving Inhabited

/-- The lines of a text that starts at an offset. The end of a line belongs to it,
and after the last one there is one more line, possibly empty. -/
def linesFrom (start : Nat) : List Char → List Line
  | [] => [⟨start, []⟩]
  | c :: rest =>
    if c = '\n' then ⟨start, [c]⟩ :: linesFrom (start + 1) rest
    else match linesFrom (start + c.utf8Size) rest with
      | line :: lines => ⟨start, c :: line.chars⟩ :: lines
      | [] => []

/-- The lines of a text. -/
def lines (text : String) : List Line := linesFrom 0 text.toList

/-- The number, from `0` on, of the line an offset is in: the last one that does
not start after it. -/
def lineAt (lines : List Line) (offset : Nat) : Nat :=
  (lines.takeWhile fun line => line.start ≤ offset).length - 1

/-- How many characters of a line lie wholly before an offset. -/
def Line.charsBefore (line : Line) (offset : Nat) : Nat :=
  go line.start line.chars
where
  /-- The characters before the offset, of those that start at `i`. -/
  go (i : Nat) : List Char → Nat
    | [] => 0
    | c :: rest => if i + c.utf8Size ≤ offset then 1 + go (i + c.utf8Size) rest else 0

/-- A line as it is shown, without the end of the line. -/
def Line.shown (line : Line) : List Char :=
  (line.chars.reverse.dropWhile fun c => c = '\n' || c = '\r' || c = '\x00').reverse

/-- White space: the characters that only leave a gap, the ends of lines among them. -/
def blank : Text.Class := ⟨
  [(0x9, 0xD), (0x20, 0x20), (0x85, 0x85), (0xA0, 0xA0), (0x1680, 0x1680), (0x2000, 0x200A),
   (0x2028, 0x2029), (0x202F, 0x202F), (0x205F, 0x205F), (0x3000, 0x3000)]⟩

/-- How many bytes of white space a line begins with. -/
def indentation (text : List Char) : Nat := byteSize (text.takeWhile blank.contains)

/-- A character where it stands in a line. -/
structure Cell where
  /-- The character. -/
  char : Char
  /-- Its offset in the line. -/
  offset : Nat
  /-- How many columns it takes there. -/
  width : Nat

/-- The characters of a line. A tab reaches to the next column that `tab`
divides. -/
def cells (tab : Nat) (text : List Char) : List Cell :=
  go 0 0 text
where
  /-- The cells from an offset and a column on. -/
  go (offset column : Nat) : List Char → List Cell
    | [] => []
    | c :: rest =>
      let width := if c = '\t' then tab - column % tab else columns c
      ⟨c, offset, width⟩ :: go (offset + c.utf8Size) (column + width) rest

end Yuyan.Snippet
