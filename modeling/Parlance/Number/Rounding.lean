/-!
# Rounding a quotient to the nearest integer

`divHalfEven n d` is the integer nearest to `n / d`, the even one of two that are equally near.
-/

namespace Parlance.Number

/-- The integer nearest to `n / d`; a tie goes to the even neighbour. -/
def divHalfEven (n d : Nat) : Nat :=
  let q := n / d
  let r := n % d
  if 2 * r < d then q
  else if d < 2 * r then q + 1
  else if q % 2 = 0 then q else q + 1

end Parlance.Number
