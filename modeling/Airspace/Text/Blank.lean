/-!
# White space

The white-space characters of Unicode: the ASCII tab, line feed, vertical tab,
form feed, carriage return and space, the next-line control U+0085, and the
code points with the `White_Space` property — the no-break space, the Ogham
space mark, the spaces U+2000 to U+200A, the line and paragraph separators,
the narrow no-break space, the medium mathematical space and the ideographic
space. The zero-width space U+200B and the byte-order mark U+FEFF are not
white space.
-/

namespace Airspace.Text

/-- Whether a character is white space. -/
def isBlank (c : Char) : Bool :=
  let n := c.toNat
  (0x09 ≤ n && n ≤ 0x0D) || n == 0x20 || n == 0x85 || n == 0xA0 || n == 0x1680 ||
    (0x2000 ≤ n && n ≤ 0x200A) || n == 0x2028 || n == 0x2029 || n == 0x202F || n == 0x205F ||
    n == 0x3000

/-- The text without white space at either end. -/
def trimBlank (s : String) : String :=
  String.ofList ((s.toList.dropWhile isBlank).reverse.dropWhile isBlank).reverse

end Airspace.Text
