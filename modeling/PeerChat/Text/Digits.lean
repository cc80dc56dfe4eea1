/-!
Digits: the characters that write numbers in base 10 and in base 16, and the numbers that runs of them write.
-/

namespace PeerChat.Text

/-! ### Base 10 -/

def isDigit (c : Char) : Bool := '0' ≤ c && c ≤ '9'

/-- The number that a run of decimal digits writes. -/
def ofDigits (cs : List Char) : Nat := cs.foldl (fun n c => 10 * n + (c.toNat - '0'.toNat)) 0

def digits (n : Nat) : List Char := Nat.toDigits 10 n

/-- The decimal digits of a number, with zeros in front up to `width` of them. -/
def digitsPadded (width n : Nat) : List Char :=
  List.replicate (width - (digits n).length) '0' ++ digits n

/-! ### Base 16 -/

/-- The value of a hexadecimal digit of either case. -/
def hexValue? (c : Char) : Option Nat :=
  if '0' ≤ c ∧ c ≤ '9' then some (c.toNat - '0'.toNat)
  else if 'a' ≤ c ∧ c ≤ 'f' then some (c.toNat - 'a'.toNat + 10)
  else if 'A' ≤ c ∧ c ≤ 'F' then some (c.toNat - 'A'.toNat + 10)
  else none

end PeerChat.Text
