import Yuyan.Text.Classes

/-!
# Quoted text

Text is shown between quotes on one line. The quote itself, the backslash and
the usual control characters have a short escape; any other character that would
not show, or would join the character before it, is written by its code point,
as `\u{301}`.
-/

namespace Yuyan.Text

/-- A character by its code point. -/
def codePoint (c : Char) : List Char :=
  ['\\', 'u', '\x7b'] ++ Nat.toDigits 16 c.toNat ++ ['\x7d']

/-- How a character is written between two `quote` characters. -/
def escape (quote c : Char) : List Char :=
  if c = quote ∨ c = '\\' then ['\\', c]
  else if c = '\n' then ['\\', 'n']
  else if c = '\r' then ['\\', 'r']
  else if c = '\t' then ['\\', 't']
  else if c = '\x00' then ['\\', '0']
  else if invisible.contains c || combining.contains c then codePoint c
  else [c]

/-- Text between two `quote` characters. -/
def quoted (quote : Char) (text : List Char) : String :=
  .ofList ([quote] ++ text.flatMap (escape quote) ++ [quote])

end Yuyan.Text
