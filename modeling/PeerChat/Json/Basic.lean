import PeerChat.Rounding
import PeerChat.Text.Digits

/-!
JSON values, as far as a text gave them.

A reader that wants a certain shape meets the faults of a text in the order of the text: a value of the wrong
shape may stand before the place where the text stops being JSON. So a value can end in a `cut`, the place where
the text broke off, and a text value can be unreadable without the rest being lost.
-/

namespace PeerChat

/-- A number as it is written. -/
structure Numeral where
  negative : Bool
  whole : Nat
  /-- The digits after the point; empty without a point. -/
  fraction : List Char
  exponent : Option Int
deriving DecidableEq, Repr

/-- A JSON value, as far as its text could be read. -/
inductive Json
  | null
  | flag (value : Bool)
  | number (value : Numeral)
  /-- A text; `none` stands for one with half of a surrogate pair, which no string holds. -/
  | text (value : Option String)
  | array (items : List Json)
  /-- The entries in the order of the text, with their keys. -/
  | object (entries : List (Option String × Json))
  /-- The place where the text stopped being JSON. -/
  | cut

/-- What can be wrong with a text that a value is wanted from. -/
inductive JsonFault
  /-- The text is not JSON, or holds something that no value can be read from. -/
  | malformed
  /-- The text is JSON so far, of another shape than wanted. -/
  | mismatched
deriving DecidableEq, Repr

namespace Numeral

def ofNat (n : Nat) : Numeral := ⟨false, n, [], none⟩

/-- Written as a natural number: no sign, no point, no exponent. -/
def isNatural (n : Numeral) : Bool := !n.negative && n.fraction.isEmpty && n.exponent.isNone

/-- Goes on with the number that digits write as long as it fits 64 bits; the digits that are left come with it. -/
def readWord (n : Nat) : List Char → Nat × List Char
  | [] => (n, [])
  | d :: ds =>
    let next := 10 * n + (d.toNat - '0'.toNat)
    if next < UInt64.size then readWord next ds else (n, d :: ds)

/-- The number as a word of 64 bits and a power of ten: digits of the whole part that do not fit count as zeros, and
so do those of the fraction. -/
def scientific (n : Numeral) : Nat × Int :=
  let (word, left) := readWord 0 (Text.digits n.whole)
  let (word, leftFraction) := readWord word n.fraction
  (word, n.exponent.getD 0 + left.length - (n.fraction.length - leftFraction.length))

/-- Too large to be read: word and power are rounded to doubles, and their product lies beyond all doubles. -/
def isTooLarge (n : Numeral) : Bool :=
  let (word, power) := n.scientific
  word ≠ 0 &&
    (308 < power || (0 ≤ power && doubleBound ≤ nearestDouble word * nearestDouble (Nat.pow 10 power.toNat)))

end Numeral

namespace Json

def nat (n : Nat) : Json := number (Numeral.ofNat n)

def str (s : String) : Json := text (some s)

def record (entries : List (String × Json)) : Json := object (entries.map fun (key, value) => (some key, value))

mutual

/-- The text of the value did not break off. -/
def isWhole : Json → Bool
  | array items => areWhole items
  | object entries => entriesAreWhole entries
  | cut => false
  | _ => true

def areWhole : List Json → Bool
  | [] => true
  | item :: items => isWhole item && areWhole items

def entriesAreWhole : List (Option String × Json) → Bool
  | [] => true
  | (_, value) :: entries => isWhole value && entriesAreWhole entries

end

/-! ### Reading a value of a kind -/

/-- The fault of meeting this value where another kind is wanted. -/
def mismatch : Json → JsonFault
  | cut => .malformed
  | text none => .malformed
  | number n => if n.isTooLarge then .malformed else .mismatched
  | _ => .mismatched

def asText : Json → Except JsonFault String
  | text (some s) => .ok s
  | j => .error j.mismatch

def asFlag : Json → Except JsonFault Bool
  | flag b => .ok b
  | j => .error j.mismatch

/-- The value as a number of 64 bits, written as a natural number. -/
def asWord : Json → Except JsonFault UInt64
  | number n =>
    if n.isNatural && n.whole < UInt64.size then .ok (UInt64.ofNat n.whole) else .error (number n).mismatch
  | j => .error j.mismatch

/-- The items of an array, each read by `item`; an item that broke off counts as one of the wrong kind. -/
def asList (item : Json → Except JsonFault α) : Json → Except JsonFault (List α)
  | array items => items.mapM item
  | j => .error j.mismatch

/-! ### Reading a record -/

/-- A field of a record. -/
structure Field where
  key : String
  /-- Accepts the values that the field can have. -/
  check : Json → Except JsonFault Unit
  /-- The value of the field where none is given. -/
  default : Option Json

def Field.required (key : String) (kind : Json → Except JsonFault α) : Field :=
  ⟨key, fun j => discard (kind j), none⟩

def Field.optional (key : String) (kind : Json → Except JsonFault α) (default : Json) : Field :=
  ⟨key, fun j => discard (kind j), some default⟩

/-- The values given so far, one place per field. -/
abbrev Slots := List (Option Json)

/-- Puts the value of one entry into its place. Unknown keys are passed over, a known key may come once. -/
def fill : List Field → Slots → Option String → Json → Except JsonFault Slots
  | field :: fields, slot :: slots, key, value =>
    if key = some field.key then
      match slot with
      | some _ => .error .mismatched
      | none => do
        field.check value
        return some value :: slots
    else do
      return slot :: (← fill fields slots key value)
  | _, slots, key, value =>
    if key.isSome && value.isWhole then .ok slots else .error .malformed

/-- The value of each field, with the defaults where none was given. -/
def settle : List Field → Slots → Except JsonFault (List Json)
  | [], _ => .ok []
  | field :: fields, slots => do
    match (slots.head?.join).or field.default with
    | some value => return value :: (← settle fields slots.tail)
    | none => .error .mismatched

/-- The values of the fields from items in the order of the fields; there may be no item more. -/
def settleItems : List Field → List Json → Except JsonFault (List Json)
  | [], [] => .ok []
  | [], _ :: _ => .error .malformed
  | field :: fields, item :: items => do
    field.check item
    return item :: (← settleItems fields items)
  | field :: fields, [] =>
    match field.default with
    | some value => return value :: (← settleItems fields [])
    | none => .error .mismatched

/-- The values of the fields of a record, in the order of the fields: from an object, or from an array that lists
them. -/
def asRecord (fields : List Field) : Json → Except JsonFault (List Json)
  | object entries => do
    let slots ← entries.foldlM (fun slots (key, value) => fill fields slots key value) (fields.map fun _ => none)
    settle fields slots
  | array items => settleItems fields items
  | j => .error j.mismatch

end Json

end PeerChat
