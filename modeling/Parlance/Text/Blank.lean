/-!
# White space

The white space of message texts and bundle files: the characters that separate words inside an
expression, and of which a file that counts as empty may consist.
-/

namespace Parlance.Text

/-- The 29 white-space characters: the ASCII controls that separate text, the space, and the blanks
and separators of Unicode. -/
def isBlank (c : Char) : Bool :=
  let n := c.toNat
  (0x09 ≤ n && n ≤ 0x0D) || (0x1C ≤ n && n ≤ 0x20) || n == 0x85 || n == 0xA0 || n == 0x1680 ||
    (0x2000 ≤ n && n ≤ 0x200A) || n == 0x2028 || n == 0x2029 || n == 0x202F || n == 0x205F ||
    n == 0x3000

/-- Whether a text holds white space only; the empty text does. -/
def isBlankText (s : String) : Bool := s.toList.all isBlank

/-- A text without the white space around it. -/
def trimBlanks (s : List Char) : List Char :=
  ((s.dropWhile isBlank).reverse.dropWhile isBlank).reverse

end Parlance.Text
