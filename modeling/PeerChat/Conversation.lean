import PeerChat.Message

/-!
Conversations: the room of everyone and one private thread per peer, and which messages belong to which.
-/

namespace PeerChat

/-- A conversation that can be looked at and written into. -/
inductive Conversation
  /-- The room of everyone. -/
  | everyone
  /-- The private thread with a peer. -/
  | withPeer (peer : Username)
deriving DecidableEq, Repr

namespace Conversation

instance : Inhabited Conversation := ⟨everyone⟩

def everyoneId : String := "all"

/-- The conversation that an id names: blanks around it do not count, and the empty id names the room of
everyone. -/
def ofId (id : String) : Conversation :=
  let name := Text.trim id
  if name = "" ∨ name = everyoneId then everyone else withPeer name

def id : Conversation → String
  | everyone => everyoneId
  | withPeer peer => peer

/-- The name under which the conversation is shown. -/
def title : Conversation → String
  | everyone => "Public"
  | withPeer peer => peer

def peer? : Conversation → Option Username
  | everyone => none
  | withPeer peer => some peer

/-- Whether a message belongs to the conversation, for a user who is called `self`. A private thread holds what
the peer sent to this user and what this user sent to the peer; while `self` is unknown, only the latter. -/
def holds (conversation : Conversation) (self : Option Username) (m : Message) : Bool :=
  match conversation with
  | everyone => !m.isPrivate
  | withPeer peer =>
    match m.recipient with
    | none => false
    | some recipient => (m.sender == peer && self == some recipient) || (m.isOwn && recipient == peer)

/-- The messages of a log that belong to the conversation, in the order of the log. -/
def view (conversation : Conversation) (self : Option Username) (log : List Message) : List Message :=
  log.filter (conversation.holds self)

end Conversation

end PeerChat
