import PeerChat.Message

/-!
File offers: one file that a peer would send, or that was offered to a peer.
-/

namespace PeerChat

abbrev FileId := String

namespace Transfer

/-- Which way the file goes. -/
inductive Direction
  | send
  | receive
deriving DecidableEq, Repr

/-- How far an offer has come. -/
inductive Status
  | pending
  | transferring
  | completed
  | failed
  | rejected
  /-- Any state that this client does not know. -/
  | other
deriving DecidableEq, Repr

def Direction.word : Direction → String
  | send => "send"
  | receive => "receive"

def Direction.ofWord? (word : String) : Option Direction :=
  if word = "send" then some send else if word = "receive" then some receive else none

def Status.word : Status → String
  | pending => "pending"
  | transferring => "transferring"
  | completed => "completed"
  | failed => "failed"
  | rejected => "rejected"
  | other => "other"

/-- The status that a word names; every unknown word names `other`. -/
def Status.ofWord (word : String) : Status :=
  if word = "pending" then pending
  else if word = "transferring" then transferring
  else if word = "completed" then completed
  else if word = "failed" then failed
  else if word = "rejected" then rejected
  else other

@[simp] theorem Status.ofWord_word (s : Status) : ofWord s.word = s := by cases s <;> decide

/-- A file offer. -/
structure Offer where
  fileId : FileId
  fileName : String
  fileSize : UInt64
  progress : UInt64
  status : Status
  direction : Direction
  peerName : Username
deriving DecidableEq, Repr

/-- The offer waits for the local user to take the file or not. -/
def Offer.isPendingInbound (o : Offer) : Bool := o.direction == .receive && o.status == .pending

/-- The answer of the local user to an offer. -/
structure Response where
  fileId : FileId
  accepted : Bool
deriving DecidableEq, Repr

end Transfer

end PeerChat
