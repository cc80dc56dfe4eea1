import PeerChat.Rounding
import PeerChat.Text.Blank

/-!
Size labels: a count of bytes as a short decimal number and a unit, `1536` as `1.5 KB`.

The unit is the largest one not above the count. The count is first rounded to the nearest double, then divided
by the unit, which is exact, and rounded to the wanted decimal places; halves go to the even neighbour both
times. Zeros at the end of the places are not written.
-/

namespace PeerChat

/-! ### Units -/

/-- The units of sizes, each 1024 of the one before. -/
inductive SizeUnit
  | byte | kilo | mega | giga | tera
deriving DecidableEq, Repr

namespace SizeUnit

def bytes : SizeUnit → Nat
  | byte => 1
  | kilo => 1024
  | mega => 1024 * 1024
  | giga => 1024 * 1024 * 1024
  | tera => 1024 * 1024 * 1024 * 1024

/-- The unit as labels write it. -/
def symbol : SizeUnit → String
  | byte => "Bytes"
  | kilo => "KB"
  | mega => "MB"
  | giga => "GB"
  | tera => "TB"

/-- The largest unit not above a count of bytes. -/
def ofBytes (n : Nat) : SizeUnit :=
  if tera.bytes ≤ n then tera
  else if giga.bytes ≤ n then giga
  else if mega.bytes ≤ n then mega
  else if kilo.bytes ≤ n then kilo
  else byte

theorem bytes_pos (u : SizeUnit) : 0 < u.bytes := by cases u <;> decide

theorem bytes_ofBytes_le {n : Nat} (h : 0 < n) : (ofBytes n).bytes ≤ n := by
  unfold ofBytes
  split
  · assumption
  split
  · assumption
  split
  · assumption
  split
  · assumption
  · exact h

end SizeUnit

/-! ### Labels -/

/-- A size label: a number of units with a fixed number of decimal places. -/
structure SizeLabel where
  unit : SizeUnit
  places : Nat
  /-- The number of units, times ten to the power of the places. -/
  scaled : Nat
deriving DecidableEq, Repr

namespace SizeLabel

/-- The places of a label where nobody asks for others. -/
def defaultPlaces : Nat := 2

/-- The label of a count of bytes. -/
def ofBytes (n places : Nat) : SizeLabel :=
  let unit := SizeUnit.ofBytes n
  ⟨unit, places, roundHalfEven (nearestDouble n * Nat.pow 10 places) unit.bytes⟩

/-- The digits before the decimal point. -/
def whole (l : SizeLabel) : List Char := Text.digits (l.scaled / Nat.pow 10 l.places)

/-- The digits after the decimal point, without zeros at the end. -/
def fraction (l : SizeLabel) : List Char :=
  if l.places = 0 then []
  else Text.dropTrailing (· = '0') (Text.digitsPadded l.places (l.scaled % Nat.pow 10 l.places))

/-- The number as it is written; the point stands only before a digit. -/
def number (l : SizeLabel) : List Char :=
  l.whole ++ if l.fraction = [] then [] else '.' :: l.fraction

def text (l : SizeLabel) : String := String.ofList l.number ++ " " ++ l.unit.symbol

end SizeLabel

/-- A count of bytes as a label with the usual number of places. -/
def sizeText (n : Nat) : String := (SizeLabel.ofBytes n SizeLabel.defaultPlaces).text

end PeerChat
