/-!
# Base64

Bytes written with 64 characters, four for three bytes; equals signs fill up the last four. `decode`
is lenient: characters that are not of the alphabet count for nothing, and what comes after the
equals signs is not read.
-/

namespace Parlance.Text.Base64

/-- The six bits that a character stands for. -/
def sextet? (c : Char) : Option Nat :=
  let n := c.toNat
  if 0x41 ≤ n && n ≤ 0x5A then some (n - 0x41)
  else if 0x61 ≤ n && n ≤ 0x7A then some (n - 0x61 + 26)
  else if 0x30 ≤ n && n ≤ 0x39 then some (n - 0x30 + 52)
  else if c = '+' then some 62
  else if c = '/' then some 63
  else none

/-- Between two characters: how many of a group of four have been read, the bits of them that are in
no byte yet, and how many equals signs have come since. -/
structure Group where
  filled : Nat
  bits : Nat
  signs : Nat

namespace Group

/-- No character of a group. -/
def empty : Group := ⟨0, 0, 0⟩

/-- The group after one more character, and the byte that it completes. -/
def push (g : Group) (sextet : Nat) : Group × List UInt8 :=
  match g.filled with
  | 0 => (⟨1, sextet, 0⟩, [])
  | 1 => (⟨2, sextet % 16, 0⟩, [(g.bits * 4 + sextet / 16).toUInt8])
  | 2 => (⟨3, sextet % 4, 0⟩, [(g.bits * 16 + sextet / 4).toUInt8])
  | _ => (empty, [(g.bits * 64 + sextet).toUInt8])

end Group

/-- The bytes of the rest of a text; a group that is neither full nor filled up has none. -/
def decodeFrom (g : Group) : List Char → Option (List UInt8)
  | [] => if g.filled = 0 then some [] else none
  | c :: rest =>
    if c = '=' then
      -- signs fill the last group up, and what follows them is not read
      if 2 ≤ g.filled && 4 ≤ g.filled + g.signs + 1 then some []
      else decodeFrom (if 2 ≤ g.filled then { g with signs := g.signs + 1 } else g) rest
    else
      match sextet? c with
      | none => decodeFrom g rest
      | some sextet =>
        let (g, bytes) := g.push sextet
        (decodeFrom g rest).map (bytes ++ ·)

/-- The bytes that a text writes down. -/
def decode (s : List Char) : Option (List UInt8) := decodeFrom .empty s

end Parlance.Text.Base64
