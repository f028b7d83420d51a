import Yuyan.Diagnostic
import Yuyan.Diagnostic.Lines

/-!
# Diagnostics with their lines

A diagnostic is shown with the lines of the program it is about. A place within
one line is underlined with carets:

    error[UndeclaredIdentifier]: Scope error
      ┌─ main:2:5
      │
    2 │ x = y
      │     ^ identifier 'y' not declared

A place that goes over several lines has a bar on its left, from the line where
it starts to a caret below the line where it ends. Of a long place only the first
and the last lines are shown.

This is the terminal's side of the program. What a diagnostic says is in `Diagnostic`,
which nothing here changes, and nothing that the compiler does depends on how it is shown.
-/

namespace Yuyan

/-- A program text with a name. -/
structure SourceFile where
  /-- The name. -/
  name : String
  /-- The text. -/
  text : String

namespace Snippet

/-- A tab reaches to the next multiple of four columns. -/
def tab : Nat := 4

/-- How many lines are shown after the first line of a place. -/
def linesAfterStart : Nat := 3

/-- How many lines are shown before the last line of a place. -/
def linesBeforeEnd : Nat := 1

/-- A character so many times. -/
def times (n : Nat) (c : Char) : String := .ofList (List.replicate n c)

/-- The text of a line, with spaces for its tabs. -/
def lineText (text : List Char) : String :=
  .ofList ((cells tab text).flatMap fun cell =>
    if cell.char = '\t' then List.replicate cell.width ' ' else [cell.char])

/-- The part of a place that falls on one line, or a bar beside it. -/
inductive Mark where
  /-- The place starts at an offset in this line and goes on. -/
  | starts (offset : Nat)
  /-- The place covers this line. -/
  | covers
  /-- The place ends at an offset in this line. -/
  | ends (offset : Nat)
  deriving DecidableEq

/-- What stands to the left of the lines of one diagnostic. -/
structure Margin where
  /-- The columns that line numbers take. -/
  width : Nat

namespace Margin

/-- The margin of a line without a number. -/
def empty (m : Margin) : String := times (m.width + 1) ' '

/-- The margin of a line with its number, which is shown from `1` on. -/
def numbered (m : Margin) (line : Nat) : String :=
  let digits := toString (line + 1)
  times (m.width - digits.length) ' ' ++ digits ++ " "

end Margin

/-! ### A place within one line -/

/-- The carets under the bytes from `a` to `b` of a line. Past the end of the line
there is room for one caret. -/
def carets (text : List Char) (a b : Nat) : String :=
  let placeholder : Cell := ⟨' ', byteSize text, 1⟩
  .ofList ((cells tab text ++ [placeholder]).flatMap fun cell =>
    if max a cell.offset < min b (cell.offset + cell.char.utf8Size) then
      List.replicate cell.width '^'
    else if cell.offset < b then List.replicate cell.width ' '
    else [])

/-- The lines for a place within one line. At least one byte is underlined. -/
def single (m : Margin) (number : Nat) (line : Line) (d : Diagnostic) : List String :=
  let a := d.span.start - line.start
  let b := max (d.span.stop - line.start) (a + 1)
  [m.empty ++ "│",
   m.numbered number ++ "│ " ++ lineText line.shown,
   m.empty ++ "│ " ++ carets line.shown a b ++ " " ++ d.message]

/-! ### A place over several lines -/

/-- A rule below a line, as long as the characters before an offset. -/
def rule (text : List Char) (offset : Nat) : String :=
  .ofList (((cells tab text).takeWhile (·.offset < offset)).flatMap fun cell =>
    List.replicate cell.width '─')

/-- A line beside which nothing or a bar stands, and what is below it. -/
def marked (m : Margin) (number : Nat) (line : Line) (mark : Option Mark) (message : String) :
    List String :=
  let text := line.shown
  let beside (bar : String) := m.numbered number ++ "│ " ++ bar ++ " " ++ lineText text
  match mark with
  | some (.starts a) =>
    if a ≤ indentation text then [beside "╭"]
    else [beside " ", m.empty ++ "│ ╭" ++ rule text (a + 1) ++ "^"]
  | some .covers => [beside "│"]
  | some (.ends b) => [beside "│", m.empty ++ "│ ╰" ++ rule text b ++ "^ " ++ message]
  | none => [beside " "]

/-- What the break in the lines after a mark looks like. -/
def gap (m : Margin) : Mark → String
  | .starts _ => m.empty ++ "·  "
  | .covers | .ends _ => m.empty ++ "· │"

/-- The marks of a place from line `first` to line `last`, in the order of the
lines. -/
def marks (first last : Nat) (a b : Nat) : List (Nat × Mark) :=
  if first ≤ last then
    (first, .starts a) :: (List.range' (first + 1) (last - first - 1)).map (·, .covers) ++
      [(last, .ends b)]
  else [(last, .ends b), (first, .starts a)]

/-- Whether a line is shown on its own account: the ends of a place are, and the
lines close to them. -/
def isShown (first last : Nat) : Nat × Mark → Bool
  | (number, .covers) => number - first ≤ linesAfterStart || last - number ≤ linesBeforeEnd
  | _ => true

/-- The lines with the given marks. A single line between two of them is shown
too; more of them make a gap. -/
def body (m : Margin) (lines : List Line) (all : List (Nat × Mark)) (message : String) :
    List (Nat × Mark) → List String
  | [] => []
  | (number, mark) :: rest =>
    let here := marked m number (lines.getD number default) (some mark) message
    let between := match rest with
      | (next, _) :: _ =>
        if next = number + 1 then []
        else if next = number + 2 then
          marked m (number + 1) (lines.getD (number + 1) default) (all.lookup (number + 1)) message
        else [gap m mark]
      | [] => []
    here ++ between ++ body m lines all message rest

/-- The lines for a place over several lines. -/
def several (m : Margin) (lines : List Line) (first last : Nat) (d : Diagnostic) : List String :=
  let start (number : Nat) := (lines.getD number default).start
  let all := marks first last (d.span.start - start first) (d.span.stop - start last)
  (m.empty ++ "│  ") :: body m lines all d.message (all.filter (isShown first last))

end Snippet

open Snippet

/-- The lines of a diagnostic about a file. -/
def Diagnostic.render (d : Diagnostic) (file : SourceFile) : List String :=
  let lines := Snippet.lines file.text
  let first := lineAt lines d.span.start
  let last := lineAt lines d.span.stop
  let line := lines.getD first default
  let column := 1 + line.charsBefore d.span.start
  let m : Margin := ⟨(toString (max first last + 1)).length⟩
  let border := if first = last then "│" else "│  "
  [s!"error[{d.code}]: {d.title}",
   s!"{m.empty}┌─ {file.name}:{first + 1}:{column}"] ++
    (if first = last then single m first line d else several m lines first last d) ++
    d.notes.flatMap (fun note => [m.empty ++ border, m.empty ++ "= " ++ note]) ++
    [""]

/-- The text of a diagnostic, if its file is among the given ones. -/
def Diagnostic.renderAmong? (d : Diagnostic) (files : List SourceFile) : Option String :=
  files[d.file]?.map fun file => .join ((d.render file).map (· ++ "\n"))

end Yuyan
