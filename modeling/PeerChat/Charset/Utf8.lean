import PeerChat.Charset.OneByte

/-!
Reading UTF-8 where it may be broken: the longest start of a character that nothing can complete counts as one unknown
character, and reading goes on with the byte that broke it off.
-/

namespace PeerChat.Charset.Utf8

/-- A character that is not complete. -/
structure Pending where
  /-- The bits that were read. -/
  code : Nat
  /-- How many bytes are still to come. -/
  owed : Nat
  /-- The least and the greatest byte that can come next. -/
  low : UInt8
  high : UInt8
deriving DecidableEq, Repr

/-- Where a reader stands: what it has read, in reverse order and with `none` for what is broken, and the character that
it is in. -/
structure Reader where
  read : List (Option Char)
  pending : Option Pending
deriving DecidableEq, Repr

namespace Reader

def start : Reader := ⟨[], none⟩

/-- Adds a character or a broken one, and stands between characters. -/
def push (r : Reader) (c : Option Char) : Reader := ⟨c :: r.read, none⟩

/-- Stands inside a character. -/
def await (r : Reader) (code owed : Nat) (low high : UInt8) : Reader :=
  { r with pending := some ⟨code, owed, low, high⟩ }

/-- Reads the first byte of a character. The second byte is bounded so that no character is written longer than it has
to be, and none is half of a pair or too large. -/
def first (r : Reader) (b : UInt8) : Reader :=
  if b < 0x80 then r.push (some (Char.ofNat b.toNat))
  else if 0xC2 ≤ b ∧ b ≤ 0xDF then r.await (b.toNat - 0xC0) 1 0x80 0xBF
  else if 0xE0 ≤ b ∧ b ≤ 0xEF then
    r.await (b.toNat - 0xE0) 2 (if b = 0xE0 then 0xA0 else 0x80) (if b = 0xED then 0x9F else 0xBF)
  else if 0xF0 ≤ b ∧ b ≤ 0xF4 then
    r.await (b.toNat - 0xF0) 3 (if b = 0xF0 then 0x90 else 0x80) (if b = 0xF4 then 0x8F else 0xBF)
  else r.push none

def next (r : Reader) (b : UInt8) : Reader :=
  match r.pending with
  | none => r.first b
  | some p =>
    if p.low ≤ b ∧ b ≤ p.high then
      let code := 64 * p.code + (b.toNat - 0x80)
      if p.owed ≤ 1 then r.push (some (Char.ofNat code)) else r.await code (p.owed - 1) 0x80 0xBF
    else (r.push none).first b

def chars (r : Reader) : List (Option Char) := (if r.pending.isSome then r.push none else r).read.reverse

end Reader

def chars (bs : ByteArray) : List (Option Char) := (bs.foldl Reader.next .start).chars

def read (bs : ByteArray) : String :=
  match String.fromUTF8? bs with
  | some text => text
  | none => String.ofList ((chars bs).map (·.getD unknown))

end PeerChat.Charset.Utf8
