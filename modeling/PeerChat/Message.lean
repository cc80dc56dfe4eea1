import PeerChat.Calendar.Timestamp

/-!
Messages: their content, the message as the client holds it, and the message as it travels.

A text that begins with the emoji tag names an emoji. A message that travels always has a recipient and a flag
that tells whether it is private; a message that the client holds has a recipient only if it is private, so the
flag cannot disagree with it.
-/

namespace PeerChat

abbrev Username := String

/-! ### Content -/

/-- What a message carries. -/
inductive Content
  | text (words : String)
  | emoji (id : String)
deriving DecidableEq, Repr

namespace Content

/-- The tag in front of the id of an emoji. -/
def emojiTag : String := "emoji:"

/-- The content that a text stands for. The id of an emoji ends at the next colon. -/
def decode (raw : String) : Content :=
  match Text.after? emojiTag raw with
  | some rest => emoji (String.ofList (rest.toList.takeWhile (· ≠ ':')))
  | none => text raw

def encode : Content → String
  | text words => words
  | emoji id => emojiTag ++ id

end Content

/-! ### Messages -/

/-- A message as the client holds it. -/
structure Message where
  sender : Username
  /-- Whom a private message is for; none of a message for everyone. -/
  recipient : Option Username
  content : Content
  timestamp : Calendar.Timestamp
  isOwn : Bool
deriving DecidableEq, Repr

/-- A message as it travels. -/
structure WireMessage where
  sender : String
  recipient : String
  content : String
  timestamp : Calendar.Timestamp
  isOwn : Bool
  isPrivate : Bool
deriving DecidableEq, Repr

namespace Message

/-- The recipient that stands for everyone in messages that travel. -/
def everyone : String := "all"

/-- Whether the message is for one recipient alone. -/
def isPrivate (m : Message) : Bool := m.recipient.isSome

/-- The message that travelled. -/
def ofWire (w : WireMessage) : Message where
  sender := w.sender
  recipient := if w.isPrivate then some w.recipient else none
  content := Content.decode w.content
  timestamp := w.timestamp
  isOwn := w.isOwn

def toWire (m : Message) : WireMessage where
  sender := m.sender
  recipient := m.recipient.getD everyone
  content := m.content.encode
  timestamp := m.timestamp
  isOwn := m.isOwn
  isPrivate := m.isPrivate

@[simp] theorem isPrivate_ofWire (w : WireMessage) : (ofWire w).isPrivate = w.isPrivate := by
  unfold isPrivate ofWire
  cases w.isPrivate <;> rfl

end Message

end PeerChat
