/-! # White space

The characters of the Unicode `White_Space` property: the ASCII tab, line feed, vertical tab,
form feed, carriage return and space, and U+0085, U+00A0, U+1680, U+2000 to U+200A, U+2028,
U+2029, U+202F, U+205F and U+3000. Trimming a text removes them from both ends.
-/

namespace ConnectorPlane

namespace Blank

/-- Whether a character has the Unicode `White_Space` property. -/
def isSpace (c : Char) : Bool :=
  let n := c.toNat
  (9 ≤ n && n ≤ 13) || n = 32 || n = 0x85 || n = 0xA0 || n = 0x1680 ||
    (0x2000 ≤ n && n ≤ 0x200A) || n = 0x2028 || n = 0x2029 || n = 0x202F || n = 0x205F ||
    n = 0x3000

/-- Drops white space at the start. -/
def trimStart (cs : List Char) : List Char := cs.dropWhile isSpace

/-- Drops white space at both ends. -/
def trim (s : String) : String :=
  String.ofList (trimStart (trimStart s.toList).reverse).reverse

end Blank

end ConnectorPlane
