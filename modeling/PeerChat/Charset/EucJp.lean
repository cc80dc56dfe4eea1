import PeerChat.Charset.Jis
import PeerChat.Charset.OneByte

/-!
Japanese in two bytes beyond ASCII, and three where a byte calls for the supplementary set.
-/

namespace PeerChat.Charset.EucJp

/-- Where a reader stands: what it has read, in reverse order, the byte that waits for the other one, and whether the
supplementary set was called for. -/
structure Reader where
  read : List Char
  lead : Option UInt8
  supplement : Bool
deriving DecidableEq, Repr

namespace Reader

def start : Reader := ⟨[], none, false⟩

/-- Adds a character, and stands between characters. -/
def push (r : Reader) (c : Char) : Reader := ⟨c :: r.read, none, false⟩

/-- A byte of one of the sets. -/
def isSetByte (b : UInt8) : Bool := 0xA1 ≤ b && b ≤ 0xFE

def first (r : Reader) (b : UInt8) : Reader :=
  if b < 0x80 then r.push (Char.ofNat b.toNat)
  else if b = 0x8E ∨ b = 0x8F ∨ isSetByte b then { r with lead := some b }
  else r.push unknown

/-- Reads a byte. A byte of ASCII that ends no character stands for itself. -/
def next (r : Reader) (b : UInt8) : Reader :=
  match r.lead with
  | none => r.first b
  | some a =>
    if a = 0x8E ∧ 0xA1 ≤ b ∧ b ≤ 0xDF then r.push (Jis.halfWidth (b.toNat - 0xA1))
    else if a = 0x8F ∧ isSetByte b then { r with lead := some b, supplement := true }
    else
      let char? := if r.supplement then Jis.supplementIndex.char? else Jis.char?
      match (Jis.number? 0xA1 a b).bind char? with
      | some c => r.push c
      | none => if b < 0x80 then (r.push unknown).push (Char.ofNat b.toNat) else r.push unknown

def chars (r : Reader) : List Char := (if r.lead.isSome then unknown :: r.read else r.read).reverse

end Reader

def read (bs : ByteArray) : String := String.ofList (bs.foldl Reader.next .start).chars

end PeerChat.Charset.EucJp
