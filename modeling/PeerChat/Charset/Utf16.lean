import PeerChat.Charset.OneByte

/-!
Reading UTF-16: units of two bytes, with two units for a character beyond the first 65536. Half of such a pair, and a
byte that is left over, count as an unknown character.
-/

namespace PeerChat.Charset.Utf16

/-- Where a reader stands: what it has read, in reverse order, the first half of a pair that waits for the second one,
and the byte that waits for the other one of its unit. -/
structure Reader where
  read : List Char
  lead : Option Nat
  byte : Option UInt8
deriving DecidableEq, Repr

namespace Reader

def start : Reader := ⟨[], none, none⟩

/-- Reads a unit with no half of a pair before it. -/
def first (r : Reader) (unit : Nat) : Reader :=
  if 0xD800 ≤ unit ∧ unit < 0xDC00 then { r with lead := some unit }
  else if 0xDC00 ≤ unit ∧ unit < 0xE000 then { r with read := unknown :: r.read }
  else { r with read := Char.ofNat unit :: r.read }

def nextUnit (r : Reader) (unit : Nat) : Reader :=
  match r.lead with
  | none => r.first unit
  | some lead =>
    let r := { r with lead := none }
    if 0xDC00 ≤ unit ∧ unit < 0xE000 then
      { r with read := Char.ofNat (0x10000 + 0x400 * (lead - 0xD800) + (unit - 0xDC00)) :: r.read }
    else { r with read := unknown :: r.read }.first unit

def next (bigEndian : Bool) (r : Reader) (b : UInt8) : Reader :=
  match r.byte with
  | none => { r with byte := some b }
  | some a =>
    { r with byte := none }.nextUnit (if bigEndian then 256 * a.toNat + b.toNat else 256 * b.toNat + a.toNat)

def chars (r : Reader) : List Char :=
  (if r.lead.isSome || r.byte.isSome then unknown :: r.read else r.read).reverse

end Reader

def read (bigEndian : Bool) (bs : ByteArray) : String :=
  String.ofList (bs.foldl (Reader.next bigEndian) .start).chars

end PeerChat.Charset.Utf16
