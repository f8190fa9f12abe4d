/-!
# Lines of documentation text

`linesOf` cuts a text at every line boundary of Unicode. A boundary ends a line, so a text that
ends with one has no empty line after it, and the empty text has no line at all.
-/

namespace Parlance.Text

/-- The characters that end a line; a carriage return with a line feed after it ends one line. -/
def isLineBreak (c : Char) : Bool :=
  let n := c.toNat
  (0x0A ≤ n && n ≤ 0x0D) || (0x1C ≤ n && n ≤ 0x1E) || n == 0x85 || n == 0x2028 || n == 0x2029

/-- The lines of a text, without their boundaries. -/
def linesOf : List Char → List (List Char)
  | [] => []
  | '\r' :: '\n' :: rest => [] :: linesOf rest
  | c :: rest =>
    if isLineBreak c then [] :: linesOf rest
    else match linesOf rest with
      | [] => [[c]]
      | line :: more => (c :: line) :: more

/-- The lines of a string. -/
def lines (s : String) : List String := (linesOf s.toList).map String.ofList

end Parlance.Text
