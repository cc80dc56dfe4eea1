/-!
Rounding to the nearest value, where a half goes to the even neighbour: of quotients to whole numbers, and of whole
numbers to those that a double holds.
-/

namespace PeerChat

/-- The whole number nearest to `num / den`; a half goes to the even neighbour. -/
def roundHalfEven (num den : Nat) : Nat :=
  let quotient := num / den
  let rest := num % den
  if 2 * rest < den then quotient
  else if den < 2 * rest then quotient + 1
  else if quotient % 2 = 0 then quotient
  else quotient + 1

/-- The number with a significand of 53 bits nearest to `n`; a half goes to the even significand. -/
def nearestDouble (n : Nat) : Nat :=
  let grain := Nat.pow 2 (Nat.log2 n - 52)
  roundHalfEven n grain * grain

theorem roundHalfEven_one (n : Nat) : roundHalfEven n 1 = n := by simp [roundHalfEven, Nat.mod_one]

/-- From here on, and that is the middle between the largest double and the next power of two, no double is near. -/
def doubleBound : Nat := Nat.pow 2 1024 - Nat.pow 2 970

end PeerChat
