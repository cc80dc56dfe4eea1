import PeerChat.Charset.Jis
import PeerChat.Charset.TwoByte

/-!
Japanese with its sets shifted behind the half-width syllabary: one byte for a letter of that, two for any other
character.
-/

namespace PeerChat.Charset

namespace ShiftJis

/-- The character of one byte: half-width letters, and one byte that stands for itself. -/
def single? (b : UInt8) : Option Char :=
  if b = 0x80 then some (Char.ofNat 0x80)
  else if 0xA1 ≤ b ∧ b ≤ 0xDF then some (Jis.halfWidth (b.toNat - 0xA1))
  else none

/-- The numbers between the two parts of the first set are those of private characters. -/
def firstPrivate : Nat := 8836

def pair? (a b : UInt8) : Option (List Char) :=
  if 0x40 ≤ b ∧ b ≤ 0xFC ∧ b ≠ 0x7F then
    let number := (a.toNat - if a < 0xA0 then 0x81 else 0xC1) * 188 + (b.toNat - if b < 0x7F then 0x40 else 0x41)
    if firstPrivate ≤ number ∧ number < 10716 then some [Char.ofNat (0xE000 + (number - firstPrivate))]
    else (Jis.char? number).map ([·])
  else none

end ShiftJis

def shiftJis : TwoByte where
  single? := ShiftJis.single?
  isLead := fun b => (0x81 ≤ b && b ≤ 0x9F) || (0xE0 ≤ b && b ≤ 0xFC)
  pair? := ShiftJis.pair?

end PeerChat.Charset
