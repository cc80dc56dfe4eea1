import PeerChat.Message
import PeerChat.NameSet

/-!
The roster: who is online, as display texts that travel and as the users they stand for.

The name of a user is the first word of the display text. The marker of the local user may stand anywhere in it;
the marker of a blocked peer is for the eye only.
-/

namespace PeerChat

/-- A user of the roster. -/
structure User where
  username : Username
  /-- The user at this client. -/
  isSelf : Bool
deriving DecidableEq, Repr

namespace Roster

/-- Marks the display text of the local user. -/
def selfMarker : String := "(自己)"

/-- Marks the display text of a blocked peer. -/
def blockedMarker : String := "(屏蔽)"

/-! ### Reading -/

/-- The name in a display text; none in a blank one. -/
def nameOf? (entry : String) : Option Username := Text.firstWord entry

def isSelfEntry (entry : String) : Bool := Text.occursIn selfMarker.toList entry.toList

def user? (entry : String) : Option User := (nameOf? entry).map fun name => ⟨name, isSelfEntry entry⟩

/-- The users of the display texts, blank texts passed over. -/
def users (entries : List String) : List User := entries.filterMap user?

/-- The name of the local user, if exactly one user is marked as such. -/
def identity? (users : List User) : Option Username :=
  match users.filter (·.isSelf) with
  | [user] => some user.username
  | _ => none

/-! ### Writing -/

/-- The display texts of the local user and of the peers that are online, the blocked ones marked. -/
def entries (self : Username) (online blocked : NameSet) : List String :=
  (self ++ " " ++ selfMarker) ::
    online.names.map fun peer => if blocked.contains peer then peer ++ " " ++ blockedMarker else peer

end Roster

end PeerChat
