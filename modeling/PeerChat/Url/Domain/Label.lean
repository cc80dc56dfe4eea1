import PeerChat.Unicode.CombiningClass
import PeerChat.Unicode.Direction
import PeerChat.Unicode.Joining

/-!
The labels of domain names: which characters of a label may stand where. A label does not begin with a mark, an
invisible joiner stands only where it joins something, and labels that run from right to left have one direction
throughout.
-/

namespace PeerChat.Url.Domain

open Unicode (Direction direction joining)

/-! ### Characters -/

/-- The ASCII characters that no domain name holds. -/
def isForbidden (c : Char) : Bool :=
  c.toNat ≤ 0x20 || c.toNat = 0x7F || ['%', '#', '/', ':', '<', '>', '?', '@', '[', '\\', ']', '^', '|'].contains c

/-! ### Joiners -/

/-- Keeps its neighbours from joining. -/
def isNonJoiner (c : Char) : Bool := c.toNat == 0x200C

/-- Makes its neighbours join. -/
def isJoiner (c : Char) : Bool := c.toNat == 0x200D

/-- Passes over the characters that a stroke goes through, and asks the next one. -/
def meets (p : Unicode.Joining → Bool) (cs : List Char) : Bool :=
  (cs.dropWhile fun c => joining c == .transparent).head?.any fun c => p (joining c)

/-- The joiners among the characters are in place, where `before` are the characters in front of them in reverse order:
either one may stand after a mark that joins consonants, and a non-joiner also between letters that would join. -/
def joinersInPlace (before : List Char) : List Char → Bool
  | [] => true
  | c :: cs =>
    let afterVirama := before.head?.any (Unicode.combiningClass · == Unicode.viramaClass)
    let apart := meets (·.joinsNext) before && meets (·.joinsPrevious) cs
    (!isJoiner c || afterVirama) && (!isNonJoiner c || afterVirama || apart) && joinersInPlace (c :: before) cs

/-! ### Direction -/

/-- A name with such a character has labels that run from right to left. -/
def turns (c : Char) : Bool := [Direction.rightToLeft, .arabicLetter, .arabicNumber].contains (direction c)

/-- What a label may hold in either direction. -/
def neutralDirections : List Direction :=
  [.europeanNumber, .europeanSeparator, .commonSeparator, .europeanTerminator, .otherNeutral, .boundaryNeutral, .mark]

/-- The directions of a label are those of one that runs from left to right. -/
def runsRight (ds : List Direction) (last : Direction) : Bool :=
  ds.all (fun d => d == .leftToRight || neutralDirections.contains d) && [.leftToRight, .europeanNumber].contains last

/-- The directions of a label are those of one that runs from right to left; its numbers are of one kind. -/
def runsLeft (ds : List Direction) (last : Direction) : Bool :=
  ds.all (fun d => [.rightToLeft, .arabicLetter, .arabicNumber].contains d || neutralDirections.contains d) &&
    [.rightToLeft, .arabicLetter, .europeanNumber, .arabicNumber].contains last &&
    !(ds.contains .europeanNumber && ds.contains .arabicNumber)

/-- The label runs in one direction: that of its first letter. Marks at the end do not count for how it ends. -/
def runsOneWay (label : List Char) : Bool :=
  let ds := label.map direction
  match ds, (ds.reverse.dropWhile (· == .mark)).head? with
  | .leftToRight :: _, some last => runsRight ds last
  | .rightToLeft :: _, some last => runsLeft ds last
  | .arabicLetter :: _, some last => runsLeft ds last
  | [], _ => true
  | _, _ => false

/-! ### Labels -/

/-- A label that can stand in a name, but for its direction. -/
def isLabel (label : List Char) : Bool :=
  !label.any isForbidden && !label.head?.any Unicode.isMark && joinersInPlace [] label

end PeerChat.Url.Domain
