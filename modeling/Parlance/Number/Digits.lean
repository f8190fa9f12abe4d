/-!
# Decimal and hexadecimal digits

Natural numbers as digit texts. `ofDigits?` reads a run of ASCII digits of any length; `hexDigits`
writes a number in lower-case hexadecimal with a least width. `tenTo` and `twoTo` are the powers by
which numbers are scaled.
-/

namespace Parlance.Number

/-- A power of ten. -/
def tenTo (n : Nat) : Nat := Nat.pow 10 n

/-- A power of two. -/
def twoTo (n : Nat) : Nat := Nat.pow 2 n

/-- The greatest number of digits, leading zeros included, of an integer that is read. -/
def digitLimit : Nat := 4300

/-- The wording of the refusal of a longer one. -/
def oversizedMessage (digits : Nat) : String :=
  s!"Exceeds the limit ({digitLimit} digits) for integer string conversion: value has {digits} " ++
    "digits; use sys.set_int_max_str_digits() to increase the limit"

/-- The value of a digit in a base up to 36, letters of either case counting from ten. -/
def digitValue? (base : Nat) (c : Char) : Option Nat :=
  let n := c.toNat
  let v :=
    if 0x30 ≤ n && n ≤ 0x39 then n - 0x30
    else if 0x41 ≤ n && n ≤ 0x5A then n - 0x41 + 10
    else if 0x61 ≤ n && n ≤ 0x7A then n - 0x61 + 10
    else 36
  if v < base then some v else none

/-- The number that a run of digits continues `acc` to; `none` if a character is no digit. -/
def digitsFrom? (base : Nat) : Nat → List Char → Option Nat
  | acc, [] => some acc
  | acc, c :: rest => (digitValue? base c).bind fun d => digitsFrom? base (acc * base + d) rest

/-- The number that a run of digits in a base denotes; the empty run denotes none. -/
def ofBaseDigits? (base : Nat) (digits : List Char) : Option Nat :=
  if digits.isEmpty then none else digitsFrom? base 0 digits

/-- The number that a run of decimal digits denotes. -/
def ofDigits? (digits : List Char) : Option Nat := ofBaseDigits? 10 digits

/-- The decimal digits of a number, without leading zeros. -/
def decimalDigits (n : Nat) : List Char := Nat.toDigits 10 n

/-- A number in decimal with zeros in front up to a least width. -/
def paddedDecimal (width n : Nat) : List Char :=
  let digits := decimalDigits n
  List.replicate (width - digits.length) '0' ++ digits

/-- A number in lower-case hexadecimal with zeros in front up to a least width. -/
def hexDigits (width n : Nat) : List Char :=
  let digits := Nat.toDigits 16 n
  List.replicate (width - digits.length) '0' ++ digits

/-- The text of an integer: a minus sign if it is negative, then its digits. -/
def intText (i : Int) : String :=
  match i with
  | .ofNat n => String.ofList (decimalDigits n)
  | .negSucc n => String.ofList ('-' :: decimalDigits (n + 1))

end Parlance.Number
