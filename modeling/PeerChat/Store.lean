import PeerChat.Blocking
import PeerChat.Transfer.Offer

/-!
The store: what the client last knew of each resource of the peer, and whether a new answer changes it.

Message logs and rosters are compared by their lengths alone: one of the same length counts as unchanged and is
kept out, unless it was asked for by force. The transfer queue changes when an id appears that was never seen, and
the block list when it differs. An answer with a lower sequence number than one already taken is stale.
-/

namespace PeerChat

open Transfer (Offer)

/-! ### Resources -/

/-- What the client asks the peer for again and again. -/
inductive Resource
  | messages
  | roster
  | transfers
  | blockList
deriving DecidableEq, Repr

namespace Resource

/-- All resources, in the order in which they are first asked for. -/
def all : List Resource := [messages, roster, transfers, blockList]

def label : Resource → String
  | messages => "messages"
  | roster => "roster"
  | transfers => "transfers"
  | blockList => "block list"

end Resource

/-- One value for each resource. -/
structure PerResource (α : Type) where
  messages : α
  roster : α
  transfers : α
  blockList : α
deriving DecidableEq, Repr

namespace PerResource

def const (a : α) : PerResource α := ⟨a, a, a, a⟩

def get (p : PerResource α) : Resource → α
  | .messages => p.messages
  | .roster => p.roster
  | .transfers => p.transfers
  | .blockList => p.blockList

/-- The values with that for one resource replaced. -/
def set (p : PerResource α) (r : Resource) (a : α) : PerResource α :=
  match r with
  | .messages => { p with messages := a }
  | .roster => { p with roster := a }
  | .transfers => { p with transfers := a }
  | .blockList => { p with blockList := a }

@[simp] theorem get_set_self (p : PerResource α) (r : Resource) (a : α) : (p.set r a).get r = a := by
  cases r <;> rfl

@[simp] theorem get_set_of_ne (p : PerResource α) {r s : Resource} (a : α) (h : s ≠ r) :
    (p.set r a).get s = p.get s := by
  cases r <;> cases s <;> first | rfl | exact absurd rfl h

end PerResource

/-! ### Snapshots -/

/-- One resource as the peer answered it. -/
inductive Snapshot
  | messages (log : List Message)
  /-- The display texts of the roster. -/
  | roster (entries : List String)
  | transfers (queue : List Offer)
  | blockList (names : BlockList)
deriving DecidableEq, Repr

def Snapshot.resource : Snapshot → Resource
  | messages _ => .messages
  | roster _ => .roster
  | transfers _ => .transfers
  | blockList _ => .blockList

/-- What a snapshot did to the store. -/
inductive ChangeSignal
  | changed
  | unchanged
  /-- The snapshot came after a newer one and was dropped. -/
  | stale
deriving DecidableEq, Repr

def ChangeSignal.ofChanged (changed : Bool) : ChangeSignal := if changed then .changed else .unchanged

/-! ### The store -/

/-- What the client last knew of each resource. -/
structure Store where
  messages : List Message
  roster : List User
  transfers : List Offer
  /-- The ids of all offers ever seen. -/
  seen : NameSet
  blocked : BlockList
  /-- The name of the local user, as last told by a roster. -/
  identity : Option Username
  /-- The sequence number of the last answer taken, per resource. -/
  applied : PerResource (Option Nat)
deriving DecidableEq, Repr

namespace Store

def empty : Store := ⟨[], [], [], ∅, ∅, none, PerResource.const none⟩

instance : Inhabited Store := ⟨empty⟩

/-- Takes a snapshot. With `keep`, a message log or roster of the same length is stored as well. -/
def reconcile (s : Store) (keep : Bool) : Snapshot → Store × ChangeSignal
  | .messages log =>
    let changed := log.length != s.messages.length
    (if changed || keep then { s with messages := log } else s, .ofChanged changed)
  | .roster entries =>
    let users := Roster.users entries
    let changed := users.length != s.roster.length
    let s := { s with identity := (Roster.identity? users).or s.identity }
    (if changed || keep then { s with roster := users } else s, .ofChanged changed)
  | .transfers queue =>
    let changed := queue.any fun offer => !s.seen.contains offer.fileId
    ({ s with transfers := queue, seen := queue.foldl (fun seen offer => seen.insert offer.fileId) s.seen },
      .ofChanged changed)
  | .blockList names => ({ s with blocked := names }, .ofChanged (names != s.blocked))

/-- Takes a snapshot if it brings a change. -/
def apply (s : Store) (snapshot : Snapshot) : Store × ChangeSignal := s.reconcile false snapshot

/-- Takes a snapshot in any case; the signal is still that of the comparison. -/
def refresh (s : Store) (snapshot : Snapshot) : Store × ChangeSignal := s.reconcile true snapshot

/-- Whether an answer under this sequence number comes after a newer one. -/
def isStale (s : Store) (resource : Resource) (seq : Nat) : Bool :=
  match s.applied.get resource with
  | some last => seq < last
  | none => false

/-- Takes the answer to the request with the given sequence number, by force or not, unless it is stale. -/
def applyInOrder (s : Store) (seq : Nat) (snapshot : Snapshot) (forced : Bool) : Store × ChangeSignal :=
  if s.isStale snapshot.resource seq then (s, .stale)
  else { s with applied := s.applied.set snapshot.resource (some seq) }.reconcile forced snapshot

end Store

end PeerChat
