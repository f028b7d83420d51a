/-!
# Outlines

A tree of named parts, shown over many lines. Each part of a node has lines of
its own, set in by four spaces and ended by a comma.
-/

namespace Yuyan.Text

/-- The lines of one part of an outline. -/
abbrev Outline := List String

namespace Outline

/-- The lines with a comma after the last. -/
def comma : Outline → Outline
  | [] => []
  | [line] => [line ++ ","]
  | line :: rest => line :: comma rest

/-- A part inside a larger one. -/
def inner (part : Outline) : Outline := (comma part).map ("    " ++ ·)

/-- A part under a label, on its first line. -/
def labelled (label : String) : Outline → Outline
  | [] => []
  | line :: rest => (label ++ ": " ++ line) :: rest

/-- A node whose parts have labels. -/
def record (name : String) (parts : List (String × Outline)) : Outline :=
  (name ++ " \x7b") :: parts.flatMap (fun (label, part) => inner (labelled label part)) ++ ["\x7d"]

/-- A node with one part. -/
def wrap (name : String) (part : Outline) : Outline :=
  (name ++ "(") :: inner part ++ [")"]

/-- Any number of parts. -/
def list (parts : List Outline) : Outline :=
  if parts.isEmpty then ["[]"] else "[" :: parts.flatMap inner ++ ["]"]

/-- The text of an outline. -/
def text (outline : Outline) : String := "\n".intercalate outline

end Outline

end Yuyan.Text
