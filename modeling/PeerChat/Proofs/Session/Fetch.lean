import PeerChat.Proofs.Store.Call
import PeerChat.Session.Basic

/-!
What a fetched snapshot does to a session: nothing if it is stale; otherwise the store takes it, and it is shown, or, if
it is the transfer queue, looked at for offers to put to the user.
-/

namespace PeerChat.Session

open Transfer (Offer)

variable (s : Session) (seq : Nat) (forced : Bool)

/-- The session whose store has taken an answer. -/
def stored (snapshot : Snapshot) : Session := { s with store := (s.store.applyInOrder seq snapshot forced).1 }

variable {s seq forced}

/-! ### The store afterwards -/

lemma store_stored_messages {log : List Message} (h : s.store.isStale .messages seq = false) :
    (s.stored seq forced (.messages log)).store =
      { s.store with
          messages := Store.pick forced s.store.messages log
          applied := s.store.applied.set .messages (some seq) } := by
  unfold stored
  rw [Store.applyInOrder_of_fresh h, Store.reconcile_messages]
  rfl

lemma store_stored_roster {entries : List String} (h : s.store.isStale .roster seq = false) :
    (s.stored seq forced (.roster entries)).store =
      { s.store with
          identity := (Roster.identity? (Roster.users entries)).or s.store.identity
          roster := Store.pick forced s.store.roster (Roster.users entries)
          applied := s.store.applied.set .roster (some seq) } := by
  unfold stored
  rw [Store.applyInOrder_of_fresh h, Store.reconcile_roster]
  rfl

lemma store_stored_transfers {queue : List Offer} (h : s.store.isStale .transfers seq = false) :
    (s.stored seq forced (.transfers queue)).store =
      { s.store with
          transfers := queue
          seen := queue.foldl (fun seen offer => seen.insert offer.fileId) s.store.seen
          applied := s.store.applied.set .transfers (some seq) } := by
  unfold stored
  rw [Store.applyInOrder_of_fresh h]
  rfl

lemma store_stored_blockList {names : BlockList} (h : s.store.isStale .blockList seq = false) :
    (s.stored seq forced (.blockList names)).store =
      { s.store with blocked := names, applied := s.store.applied.set .blockList (some seq) } := by
  unfold stored
  rw [Store.applyInOrder_of_fresh h]
  rfl

/-! ### The turn -/

lemma fetched_of_stale {snapshot : Snapshot} (h : s.store.isStale snapshot.resource seq = true) :
    s.fetched seq forced snapshot = ⟨s, [], []⟩ := by
  unfold fetched
  rw [Store.applyInOrder_of_stale h]
  rfl

lemma fetched_messages {log : List Message} (h : s.store.isStale .messages seq = false) :
    s.fetched seq forced (.messages log) =
      ⟨s.stored seq forced (.messages log),
        if log.length ≠ s.store.messages.length ∨ forced then [(s.stored seq forced (.messages log)).messagesEvent]
        else [], []⟩ := by
  unfold fetched stored
  rw [Store.applyInOrder_of_fresh h, Store.reconcile_messages]
  simp [Snapshot.resource, published]

/-- Besides the roster itself, the messages are shown again when the local user became known by another name. -/
lemma fetched_roster {entries : List String} (h : s.store.isStale .roster seq = false) :
    s.fetched seq forced (.roster entries) =
      ⟨s.stored seq forced (.roster entries),
        (if (Roster.users entries).length ≠ s.store.roster.length ∨ forced then
            [(s.stored seq forced (.roster entries)).rosterEvent] else []) ++
          if (s.stored seq forced (.roster entries)).store.identity = s.store.identity then []
          else [(s.stored seq forced (.roster entries)).messagesEvent], []⟩ := by
  unfold fetched stored
  rw [Store.applyInOrder_of_fresh h, Store.reconcile_roster]
  simp [Snapshot.resource, published]

lemma fetched_blockList {names : BlockList} (h : s.store.isStale .blockList seq = false) :
    s.fetched seq forced (.blockList names) =
      ⟨s.stored seq forced (.blockList names),
        if names ≠ s.store.blocked ∨ forced then [(s.stored seq forced (.blockList names)).rosterEvent] else [],
        []⟩ := by
  unfold fetched stored
  rw [Store.applyInOrder_of_fresh h]
  simp [Snapshot.resource, Store.reconcile, published]

lemma fetched_transfers {queue : List Offer} (h : s.store.isStale .transfers seq = false) :
    s.fetched seq forced (.transfers queue) =
      ⟨{ s.stored seq forced (.transfers queue) with prompts := (s.prompts.scan queue).1 },
        (s.prompts.scan queue).2.map .ofPromptUpdate, []⟩ := by
  unfold fetched stored
  rw [Store.applyInOrder_of_fresh h]
  simp [Snapshot.resource, Store.reconcile]

end PeerChat.Session
