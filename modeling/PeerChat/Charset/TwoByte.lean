import PeerChat.Charset.Index
import PeerChat.Charset.OneByte

/-!
Encodings with one or two bytes for a character: a lead byte and the one after it.
-/

namespace PeerChat.Charset

/-- An encoding with one or two bytes for a character. -/
structure TwoByte where
  /-- The character of one byte beyond ASCII. -/
  single? : UInt8 → Option Char
  /-- A byte that another one has to follow. -/
  isLead : UInt8 → Bool
  /-- The characters of two bytes. -/
  pair? : UInt8 → UInt8 → Option (List Char)

namespace TwoByte

/-- Where a reader stands: what it has read, in reverse order, and the lead byte that waits for the other one. -/
structure Reader where
  read : List Char
  lead : Option UInt8

/-- Reads a byte. A byte of ASCII that ends no character stands for itself. -/
def next (e : TwoByte) (r : Reader) (b : UInt8) : Reader :=
  match r.lead with
  | none =>
    if b < 0x80 then ⟨Char.ofNat b.toNat :: r.read, none⟩
    else if e.isLead b then ⟨r.read, some b⟩
    else ⟨(e.single? b).getD unknown :: r.read, none⟩
  | some a =>
    match e.pair? a b with
    | some cs => ⟨cs.reverse ++ r.read, none⟩
    | none => ⟨if b < 0x80 then Char.ofNat b.toNat :: unknown :: r.read else unknown :: r.read, none⟩

def read (e : TwoByte) (bs : ByteArray) : String :=
  let r := bs.foldl e.next ⟨[], none⟩
  String.ofList (if r.lead.isSome then unknown :: r.read else r.read).reverse

end TwoByte

end PeerChat.Charset
