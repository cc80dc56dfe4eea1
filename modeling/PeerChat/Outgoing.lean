import PeerChat.Blocking
import PeerChat.Conversation
import PeerChat.Emoji

/-!
Outgoing messages: the checks before a message leaves, and the text that leaves.
-/

namespace PeerChat

def privateVerb : String := "/to"

/-- The text that carries a content into a conversation. -/
def outgoingText (conversation : Conversation) (content : Content) : String :=
  match conversation.peer? with
  | some peer => privateVerb ++ " " ++ peer ++ " " ++ content.encode
  | none => content.encode

/-- Why a message does not leave. -/
inductive SendRefusal
  | emptyMessage
  | unknownEmoji (id : String)
  | recipientBlocked (peer : Username)
deriving DecidableEq, Repr

def SendRefusal.message : SendRefusal → String
  | emptyMessage => "message must not be empty"
  | unknownEmoji id => "unknown emoji id " ++ id
  | recipientBlocked peer => peer ++ " is blocked; unblock them before sending"

/-- The content as it leaves: a text is trimmed. -/
def Content.trimmed : Content → Content
  | text words => text (Text.trim words)
  | emoji id => emoji id

/-- The fault of a content on its own: a blank text, or an emoji outside the catalogue. -/
def Content.fault? : Content → Option SendRefusal
  | text words => if Text.isAllBlank words then some .emptyMessage else none
  | emoji id => if (Emoji.find? id).isSome then none else some (.unknownEmoji id)

/-- The text that leaves for a content, or why none does: the content is looked at first, then whether the peer
of the conversation is blocked. -/
def gate (conversation : Conversation) (blocked : BlockList) (content : Content) : Except SendRefusal String :=
  match content.fault? with
  | some refusal => .error refusal
  | none =>
    match conversation.peer?.filter blocked.contains with
    | some peer => .error (.recipientBlocked peer)
    | none => .ok (outgoingText conversation content.trimmed)

end PeerChat
