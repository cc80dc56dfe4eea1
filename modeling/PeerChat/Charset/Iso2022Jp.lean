import PeerChat.Charset.Jis
import PeerChat.Charset.OneByte

/-!
Japanese in bytes of seven bits: escapes of three bytes change the set that the bytes after them belong to.
-/

namespace PeerChat.Charset.Iso2022Jp

/-- The sets of characters. -/
inductive Mode
  | ascii
  /-- ASCII with a sign of currency and an overline of its own. -/
  | roman
  /-- Half-width letters. -/
  | syllabary
  /-- Two bytes for each character. -/
  | main
deriving DecidableEq, Repr

/-- What a reader has read of a character or of an escape. -/
inductive Pending
  | none
  /-- The first byte of a character. -/
  | lead (a : UInt8)
  | escape
  /-- An escape and its first byte. -/
  | escapeWith (a : UInt8)
deriving DecidableEq, Repr

/-- Where a reader stands: what it has read, in reverse order, the set that it reads, what waits to be completed, and
whether an escape came last. -/
structure Reader where
  read : List Char
  mode : Mode
  pending : Pending
  escaped : Bool
deriving DecidableEq, Repr

/-- The set that an escape changes to. -/
def mode? (a b : UInt8) : Option Mode :=
  if a = 0x28 ∧ b = 0x42 then some .ascii
  else if a = 0x28 ∧ b = 0x4A then some .roman
  else if a = 0x28 ∧ b = 0x49 then some .syllabary
  else if a = 0x24 ∧ (b = 0x40 ∨ b = 0x42) then some .main
  else none

/-- The character of one byte in a set. -/
def single? (mode : Mode) (b : UInt8) : Option Char :=
  match mode with
  | .ascii => if b < 0x80 ∧ b ≠ 0x0E ∧ b ≠ 0x0F then some (Char.ofNat b.toNat) else none
  | .roman =>
    if b = 0x5C then some '¥'
    else if b = 0x7E then some '‾'
    else if b < 0x80 ∧ b ≠ 0x0E ∧ b ≠ 0x0F then some (Char.ofNat b.toNat)
    else none
  | .syllabary => if 0x21 ≤ b ∧ b ≤ 0x5F then some (Jis.halfWidth (b.toNat - 0x21)) else none
  | .main => none

namespace Reader

def start : Reader := ⟨[], .ascii, .none, false⟩

/-- Adds a character, and stands between characters. -/
def push (r : Reader) (c : Char) : Reader := { r with read := c :: r.read, pending := .none, escaped := false }

/-- Reads a byte outside of escapes. -/
def plain (r : Reader) (b : UInt8) : Reader :=
  match r.pending with
  | .lead a =>
    if b = 0x1B then { r with read := unknown :: r.read, pending := .escape }
    else { r with read := ((Jis.number? 0x21 a b).bind Jis.char?).getD unknown :: r.read, pending := .none }
  | _ =>
    if b = 0x1B then { r with pending := .escape }
    else if r.mode = .main ∧ 0x21 ≤ b ∧ b ≤ 0x7E then { r with pending := .lead b, escaped := false }
    else r.push ((single? r.mode b).getD unknown)

/-- Reads a byte. The bytes of an escape that there is none are read as what they are by themselves; of two escapes with
nothing between them the second one counts as an unknown character, too. -/
def next (r : Reader) (b : UInt8) : Reader :=
  match r.pending with
  | .escape => if b = 0x24 ∨ b = 0x28 then { r with pending := .escapeWith b } else (r.push unknown).plain b
  | .escapeWith a =>
    match mode? a b with
    | some mode =>
      { r with
        read := if r.escaped then unknown :: r.read else r.read
        mode := mode
        pending := .none
        escaped := true }
    | none => ((r.push unknown).plain a).plain b
  | _ => r.plain b

/-- The reader at the end: what is not complete is unknown. -/
def finish (r : Reader) : Reader :=
  match r.pending with
  | .none => r
  | .escapeWith a =>
    let r := (r.push unknown).plain a
    if r.pending = .none then r else r.push unknown
  | _ => r.push unknown

end Reader

def read (bs : ByteArray) : String := String.ofList (bs.foldl Reader.next .start).finish.read.reverse

end PeerChat.Charset.Iso2022Jp
