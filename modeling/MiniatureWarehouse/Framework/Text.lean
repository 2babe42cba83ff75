import Mathlib.Data.List.Basic

/-!
# Texts

The string methods the program reads model output with, on lists of characters.  White space and
line breaks are the language's own, which know more characters than ASCII: a line also ends at a
vertical tab, at the information separators and at the Unicode line and paragraph separators.
-/

namespace MiniatureWarehouse

namespace Text

/-- The characters `splitlines` breaks a line at; a carriage return takes a following newline
with it. -/
def isLineBreak (c : Char) : Bool :=
  [0x0a, 0x0b, 0x0c, 0x0d, 0x1c, 0x1d, 0x1e, 0x85, 0x2028, 0x2029].contains c.toNat

/-- `c.isspace()`. -/
def isSpace (c : Char) : Bool :=
  isLineBreak c ||
    [0x09, 0x1f, 0x20, 0xa0, 0x1680, 0x202f, 0x205f, 0x3000].contains c.toNat ||
    (0x2000 ≤ c.toNat && c.toNat ≤ 0x200a)

/-- `s.strip()`. -/
def strip (s : List Char) : List Char :=
  ((s.dropWhile isSpace).reverse.dropWhile isSpace).reverse

/-- `splitlines` with the line read so far, in reverse: a last line without a break counts, an
empty one does not. -/
def splitlinesFrom : List Char → List Char → List (List Char)
  | [], [] => []
  | [], line => [line.reverse]
  | '\r' :: '\n' :: cs, line => line.reverse :: splitlinesFrom cs []
  | c :: cs, line =>
    if isLineBreak c then line.reverse :: splitlinesFrom cs [] else splitlinesFrom cs (c :: line)

/-- `s.splitlines()`. -/
def splitlines (s : List Char) : List (List Char) := splitlinesFrom s []

/-- `"\n".join(lines)`. -/
def joinLines (lines : List (List Char)) : List Char := (lines.intersperse ['\n']).flatten

/-- `sub in s`. -/
def contains (s sub : List Char) : Bool := s.tails.any fun t => sub.isPrefixOf t

end Text

end MiniatureWarehouse
