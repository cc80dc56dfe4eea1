import PeerChat.Proofs.Session.Answers

/-!
The four resources do not interfere. What a session holds of a resource is made of the answers about that resource
alone, so that answers about different resources can come in any order.

* `holding_fetched`: an answer makes something new of what is held of its resource, from that alone, and leaves alone
  what is held of the others;
* `holding_answered`: so a run of answers makes of each resource what the answers about it make of it;
* `answered_of_reordered`: two runs that bring the same answers about each resource in the same order end alike.
-/

namespace PeerChat

open Transfer (Offer Prompts)

/-! ### What is held of one resource -/

/-- What is stored of one resource, and what was made of it. -/
inductive Stock
  | messages (log : List Message)
  | roster (users : List User) (identity : Option Username)
  | transfers (queue : List Offer) (seen : NameSet) (prompts : Prompts)
  | blockList (names : BlockList)

/-- What is held of one resource. -/
structure Holding where
  stock : Stock
  /-- The number of the newest answer about the resource. -/
  newest : Option Nat

/-- The stock after a snapshot of the same resource. -/
def Stock.after (forced : Bool) : Snapshot → Stock → Stock
  | .messages log, .messages old => .messages (Store.pick forced old log)
  | .roster entries, .roster old identity =>
    .roster (Store.pick forced old (Roster.users entries)) ((Roster.identity? (Roster.users entries)).or identity)
  | .transfers queue, .transfers _ seen prompts =>
    .transfers queue (queue.foldl (fun seen offer => seen.insert offer.fileId) seen) (prompts.scan queue).1
  | .blockList names, .blockList _ => .blockList names
  | _, stock => stock

/-- What is held after an answer about the same resource; one that comes after a newer one is dropped. -/
def Holding.after (held : Holding) (c : Store.Call) : Holding :=
  if held.newest.any (c.seq < ·) then held else ⟨held.stock.after c.forced c.snapshot, some c.seq⟩

namespace Session

/-- What is stored of a resource in a session, and what was made of it. -/
def stock (s : Session) : Resource → Stock
  | .messages => .messages s.store.messages
  | .roster => .roster s.store.roster s.store.identity
  | .transfers => .transfers s.store.transfers s.store.seen s.prompts
  | .blockList => .blockList s.store.blocked

/-- What a session holds of a resource. -/
def holding (s : Session) (resource : Resource) : Holding := ⟨s.stock resource, s.store.applied.get resource⟩

/-- A session is what it holds of the resources, with its conversation, its draft and its liveness. -/
lemma eq_of_holding {s t : Session} (h : ∀ resource, s.holding resource = t.holding resource)
    (hconversation : s.conversation = t.conversation) (hdraft : s.draft = t.draft)
    (hliveness : s.liveness = t.liveness) : s = t := by
  obtain ⟨⟨messages, roster, transfers, seen, blocked, identity, ⟨_, _, _, _⟩⟩, prompts, conversation, draft,
    liveness⟩ := s
  obtain ⟨⟨messages', roster', transfers', seen', blocked', identity', ⟨_, _, _, _⟩⟩, prompts', conversation', draft',
    liveness'⟩ := t
  have hmessages := h .messages
  have hroster := h .roster
  have htransfers := h .transfers
  have hblockList := h .blockList
  simp only [holding, stock, PerResource.get, Holding.mk.injEq, Stock.messages.injEq, Stock.roster.injEq,
    Stock.transfers.injEq, Stock.blockList.injEq] at hmessages hroster htransfers hblockList
  simp_all

/-! ### One answer -/

section Fetched

variable (s : Session) (seq : Nat) (forced : Bool)

lemma isStale_eq (resource : Resource) :
    s.store.isStale resource seq = (s.holding resource).newest.any (seq < ·) := by
  unfold Store.isStale holding
  cases s.store.applied.get resource <;> rfl

lemma holding_fetched_of_fresh {snapshot : Snapshot} (fresh : s.store.isStale snapshot.resource seq = false)
    (resource : Resource) :
    (s.fetched seq forced snapshot).session.holding resource =
      if snapshot.resource = resource then ⟨(s.stock resource).after forced snapshot, some seq⟩
      else s.holding resource := by
  unfold holding stock
  cases snapshot with
  | messages log =>
    rw [fetched_messages fresh]
    dsimp only
    rw [store_stored_messages fresh]
    cases resource <;> rfl
  | roster entries =>
    rw [fetched_roster fresh]
    dsimp only
    rw [store_stored_roster fresh]
    cases resource <;> rfl
  | transfers queue =>
    rw [fetched_transfers fresh]
    dsimp only
    rw [store_stored_transfers fresh]
    cases resource <;> rfl
  | blockList names =>
    rw [fetched_blockList fresh]
    dsimp only
    rw [store_stored_blockList fresh]
    cases resource <;> rfl

/-- An answer makes something new of what is held of its resource, and of nothing else. -/
theorem holding_fetched (c : Store.Call) (resource : Resource) :
    (s.fetched c.seq c.forced c.snapshot).session.holding resource =
      if c.snapshot.resource = resource then (s.holding resource).after c else s.holding resource := by
  cases hstale : s.store.isStale c.snapshot.resource c.seq with
  | true =>
    rw [fetched_of_stale hstale]
    split
    · next h =>
      rw [← h]
      unfold Holding.after
      rw [← isStale_eq, hstale, if_pos rfl]
    · rfl
  | false =>
    rw [holding_fetched_of_fresh s c.seq c.forced hstale]
    split
    · next h =>
      rw [← h]
      unfold Holding.after
      rw [← isStale_eq, hstale, if_neg Bool.false_ne_true]
      rfl
    · rfl

end Fetched

/-! ### Runs of answers -/

variable (s : Session)

/-- **The resources do not interfere**: of each of them a run of answers makes what the answers about it make of it. -/
theorem holding_answered (calls : List Store.Call) (resource : Resource) :
    (s.answered calls).session.holding resource =
      (calls.filter (·.snapshot.resource = resource)).foldl Holding.after (s.holding resource) := by
  induction calls using List.reverseRecOn with
  | nil => rfl
  | append_singleton calls c ih =>
    rw [session_answered_concat, holding_fetched, ih, List.filter_append, List.foldl_append]
    by_cases h : c.snapshot.resource = resource
    · simp [h]
    · simp [h]

/-- The same answers in another order, those about each resource in the same order as before. -/
def Reordered (calls calls' : List Store.Call) : Prop :=
  ∀ resource, calls.filter (·.snapshot.resource = resource) = calls'.filter (·.snapshot.resource = resource)

/-- **Answers about different resources commute.** Of two runs that bring the same answers about each resource in the
same order, whatever their numbers and whether they were asked for by force, both leave the same session and ask for
nothing. -/
theorem answered_of_reordered {calls calls' : List Store.Call} (h : Reordered calls calls') :
    (s.answered calls).session = (s.answered calls').session ∧
      (s.answered calls).requests = [] ∧ (s.answered calls').requests = [] := by
  refine ⟨?_, s.requests_answered calls, s.requests_answered calls'⟩
  obtain ⟨store, prompts, hsession⟩ := s.exists_session_answered calls
  obtain ⟨store', prompts', hsession'⟩ := s.exists_session_answered calls'
  refine eq_of_holding (fun resource => ?_) ?_ ?_ ?_
  · rw [holding_answered, holding_answered, h resource]
  · rw [hsession, hsession']
  · rw [hsession, hsession']
  · rw [hsession, hsession']

/-- The roster that names the user comes last in one run and first in the other, so that not the same is shown on the
way; one log is overtaken. -/
theorem answered_of_late_roster :
    ∃ (s : Session) (calls calls' : List Store.Call), Reordered calls calls' ∧
      (s.answered calls).events ≠ (s.answered calls').events ∧
      (s.answered calls).session = (s.answered calls').session ∧
      (s.answered calls).requests = [] ∧ (s.answered calls').requests = [] := by
  let noon : Calendar.Timestamp := ⟨⟨2025, 3, 1, by decide, by decide, by decide⟩, 12, 0, 0, 0, by decide, by decide,
    by decide, by decide⟩
  let s := (empty.run [.command (.switchConversation (.withPeer "bob"))]).session
  let log : Store.Call := ⟨2, .messages [⟨"bob", some "alice", .text "hello", noon, false⟩], false⟩
  let overtaken : Store.Call := ⟨1, .messages [], true⟩
  let roster : Store.Call := ⟨3, .roster ["alice (自己)", "bob"], false⟩
  let queue : Store.Call := ⟨1, .transfers [⟨"file-1", "a.txt", 3, 0, .pending, .receive, "bob"⟩], true⟩
  let blocked : Store.Call := ⟨1, .blockList (NameSet.ofList ["bob"]), false⟩
  let calls := [log, queue, overtaken, blocked, roster]
  let calls' := [roster, blocked, log, overtaken, queue]
  have hreordered : Reordered calls calls' := fun resource => by cases resource <;> decide
  exact ⟨s, calls, calls', hreordered, by decide +kernel, answered_of_reordered s hreordered⟩

end Session

end PeerChat
