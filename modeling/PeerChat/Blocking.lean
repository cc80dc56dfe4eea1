import PeerChat.Roster

/-!
Blocking: which users of the roster are blocked, and the command that changes it. The list of blocked names is
kept by the peer; the client only asks for a change.
-/

namespace PeerChat

abbrev BlockList := NameSet

/-- A user as the roster shows it. -/
structure UserView where
  username : Username
  isBlocked : Bool
deriving DecidableEq, Repr

/-- The users of the roster apart from the local one, with their place on the block list. -/
def userViews (roster : List User) (blocked : BlockList) : List UserView :=
  (roster.filter (!·.isSelf)).map fun user => ⟨user.username, blocked.contains user.username⟩

/-- The wish to block a user, or to unblock one. -/
structure BlockIntent where
  username : Username
  block : Bool
deriving DecidableEq, Repr

namespace BlockIntent

def blockVerb : String := "/block"

def unblockVerb : String := "/unblock"

/-- The wish that turns the place of a user on the block list around. -/
def toggle (username : Username) (blocked : BlockList) : BlockIntent := ⟨username, !blocked.contains username⟩

def command (intent : BlockIntent) : String :=
  (if intent.block then blockVerb else unblockVerb) ++ " " ++ intent.username

end BlockIntent

end PeerChat
