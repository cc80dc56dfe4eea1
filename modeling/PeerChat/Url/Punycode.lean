/-!
Punycode: texts of any characters, written with letters, digits and hyphens of ASCII alone. The ASCII characters come
first; the others follow as numbers in a variable base 36 that tell how far to go on, in code points and in places.
-/

namespace PeerChat.Url.Punycode

/-! ### Digits, thresholds and the bias -/

def digit (n : Nat) : Char := Char.ofNat (if n < 26 then 0x61 + n else 0x16 + n)

/-- The value of a digit, of either case. -/
def digitValue? (c : Char) : Option Nat :=
  if 'a' ≤ c ∧ c ≤ 'z' then some (c.toNat - 0x61)
  else if 'A' ≤ c ∧ c ≤ 'Z' then some (c.toNat - 0x41)
  else if '0' ≤ c ∧ c ≤ '9' then some (c.toNat - 0x16)
  else none

/-- The value below which the digit at position `k` is the last one of its number. -/
def threshold (k bias : Nat) : Nat := min 26 (max 1 (k - bias))

theorem one_le_threshold (k bias : Nat) : 1 ≤ threshold k bias := by
  unfold threshold
  omega

/-- A large delta is divided down; each division is worth 36 positions. -/
def reduce (delta k : Nat) : Nat :=
  if 455 < delta then reduce (delta / 35) (k + 36) else k + 36 * delta / (delta + 38)
termination_by delta
decreasing_by exact Nat.div_lt_self (by omega) (by omega)

/-- The bias after a delta, when `count` characters are in place. -/
def adapt (delta count : Nat) (first : Bool) : Nat :=
  let delta := if first then delta / 700 else delta / 2
  reduce (delta + delta / count) 0

/-! ### Writing -/

/-- The digits of a number from position `k` on. -/
def writeDigits (bias n k : Nat) : List Char :=
  let t := threshold k bias
  if n < t then [digit n] else digit (t + (n - t) % (36 - t)) :: writeDigits bias ((n - t) / (36 - t)) (k + 36)
termination_by n
decreasing_by
  have := one_le_threshold k bias
  exact Nat.lt_of_le_of_lt (Nat.div_le_self _ _) (by omega)

/-- Where the writer stands. -/
structure Writer where
  bias : Nat
  /-- The distance since the last number. -/
  delta : Nat
  /-- How many characters are written. -/
  count : Nat
  first : Bool
  written : List Char

/-- Passes one character of the text while the characters of one code point are written. -/
def Writer.pass (code : Nat) (w : Writer) (c : Char) : Writer :=
  if c.toNat < code then { w with delta := w.delta + 1 }
  else if c.toNat = code then
    { bias := adapt w.delta (w.count + 1) w.first, delta := 0, count := w.count + 1, first := false,
      written := w.written ++ writeDigits w.bias w.delta 36 }
  else w

/-- Writes the characters of each code point in turn; the last one written was `last - 1`. -/
def writeFrom (text : List Char) (last : Nat) (w : Writer) : List Nat → Writer
  | [] => w
  | code :: codes =>
    let w := { w with delta := w.delta + (code - last) * (w.count + 1) }
    let w := text.foldl (Writer.pass code) w
    writeFrom text (code + 1) { w with delta := w.delta + 1 } codes

/-- A number put at its place in an ascending list, once. -/
def insertCode (n : Nat) : List Nat → List Nat
  | [] => [n]
  | m :: ms => if n < m then n :: m :: ms else if n = m then m :: ms else m :: insertCode n ms

def write (text : List Char) : List Char :=
  let ascii := text.filter (·.toNat < 0x80)
  let codes := ((text.filter (0x80 ≤ ·.toNat)).map Char.toNat).foldr insertCode []
  let start : Writer := ⟨72, 0, ascii.length, true, ascii ++ if ascii.isEmpty then [] else ['-']⟩
  (writeFrom text 0x80 start codes).written

/-! ### Reading -/

/-- Where the reader stands. -/
structure Reader where
  bias : Nat
  /-- The code point that was read last. -/
  code : Nat
  /-- The place after which the next character goes. -/
  place : Nat
  /-- The number that is being read, its next weight and position. -/
  number : Nat
  weight : Nat
  position : Nat
  first : Bool
  text : List Char

/-- Reads one digit; a number that is complete puts a character into its place. -/
def Reader.next (r : Reader) (c : Char) : Option Reader := do
  let value ← digitValue? c
  let number := r.number + value * r.weight
  let t := threshold r.position r.bias
  if UInt32.size ≤ number then none
  else if t ≤ value then
    if UInt32.size ≤ r.weight * (36 - t) then none
    else return { r with number := number, weight := r.weight * (36 - t), position := r.position + 36 }
  else
    let length := r.text.length + 1
    let place := r.place + number
    let code := r.code + place / length
    if code < 0x110000 ∧ ¬(0xD800 ≤ code ∧ code < 0xE000) then
      let place := place % length
      return { bias := adapt number length r.first, code := code, place := place + 1, number := 0, weight := 1,
               position := 36, first := false, text := r.text.insertIdx place (Char.ofNat code) }
    else none

/-- The characters before the last hyphen, and those after it. A hyphen at the start, with nothing before it, stays with
what follows, where it is no digit. -/
def cutAtLastHyphen (cs : List Char) : List Char × List Char :=
  let before := (cs.reverse.dropWhile (· ≠ '-')).tail.reverse
  if before = [] then ([], cs) else (before, (cs.reverse.takeWhile (· ≠ '-')).reverse)

/-- The text of a written form; none if it is not one. -/
def read? (cs : List Char) : Option (List Char) := do
  let (ascii, digits) := cutAtLastHyphen cs
  let r ← digits.foldlM Reader.next ⟨72, 0x80, 0, 0, 1, 36, true, ascii⟩
  if r.weight = 1 then return r.text else none

end PeerChat.Url.Punycode
