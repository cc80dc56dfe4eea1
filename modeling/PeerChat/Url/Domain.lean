import PeerChat.Unicode.Canonical
import PeerChat.Url.Domain.Label
import PeerChat.Url.Domain.Mapping
import PeerChat.Url.Punycode

/-!
Domain names: labels with points between them, in small letters and in canonical form, a label beyond ASCII in Punycode
after `xn--`.
-/

namespace PeerChat.Url.Domain

/-! ### Reading labels -/

/-- The characters of a name as they are read, in canonical form; none if no name holds one of them. -/
def fold? (cs : List Char) : Option (List Char) := (cs.mapM map?).map fun read => Unicode.canonical read.flatten

def isAscii (c : Char) : Bool := c.toNat < 0x80

/-- What a label in Punycode begins with. -/
def mark : List Char := ['x', 'n', '-', '-']

/-- The largest number of characters that are read as Punycode. -/
def maxRead : Nat := 2000

/-- The largest number of characters that are written in Punycode. -/
def maxWritten : Nat := 1000

/-- The text of a label; none where its Punycode cannot be read, or writes what no label holds as it is. -/
def readLabel? (label : List Char) : Option (List Char) :=
  match Text.afterChars? mark label with
  | none => some label
  | some written => do
    if ¬written.all isAscii ∨ written.getLast?.all (· == '-') ∨ maxRead < written.length then none
    let text ← Punycode.read? written
    if fold? text = some text then return text else none

/-! ### Writing names -/

/-- The written form of the text of a label. -/
def writeLabel? (label : List Char) : Option (List Char) :=
  if label.all isAscii then some label
  else if label.length ≤ maxWritten then some (mark ++ Punycode.write label)
  else none

/-- The written form of a name; none for a text that is no domain name. -/
def ofChars? (cs : List Char) : Option (List Char) := do
  let labels ← (Text.splitAtChar '.' (← fold? cs)).mapM readLabel?
  if labels.all isLabel ∧ (labels.any (·.any turns) → labels.all runsOneWay) then
    return ['.'].intercalate (← labels.mapM writeLabel?)
  else none

end PeerChat.Url.Domain
