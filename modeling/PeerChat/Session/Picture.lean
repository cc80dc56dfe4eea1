import PeerChat.Session.Basic

/-!
What an observer of a session knows from the events alone.
-/

namespace PeerChat

open Transfer (Prompt)

/-- The picture that the events of a session give. -/
structure Picture where
  conversation : Conversation
  messages : List Message
  users : List UserView
  current : Option Prompt
  liveness : Option Liveness
deriving DecidableEq, Repr

namespace Picture

def empty : Picture := ⟨.everyone, [], [], none, none⟩

/-- The picture after one more event. -/
def after (p : Picture) : Event → Picture
  | .messagesUpdated conversation messages => { p with conversation := conversation, messages := messages }
  | .rosterUpdated users => { p with users := users }
  | .conversationSwitched conversation _ => { p with conversation := conversation }
  | .promptOpened prompt => { p with current := some prompt }
  | .promptClosed _ => { p with current := none }
  | .connectionChanged liveness => { p with liveness := some liveness }
  | .draftCleared | .resourceUnreachable _ _ | .notice _ _ => p

def ofEvents (events : List Event) : Picture := events.foldl after empty

end Picture

/-- What there is to see of a session. -/
def Session.picture (s : Session) : Picture :=
  ⟨s.conversation, s.visibleMessages, s.users, s.prompts.current, s.liveness⟩

end PeerChat
