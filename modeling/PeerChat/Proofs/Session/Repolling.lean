import PeerChat.Proofs.Session.Answers
import PeerChat.Proofs.Store.Specification
import PeerChat.Proofs.Transfer.Look

/-!
Polling a service on which nothing has changed. A snapshot that brings nothing new is taken in silence, and once it has
been taken a snapshot brings nothing new, by force or not.

* `fetched_of_reflects`: a snapshot that brings nothing new leaves no trace but its number;
* `reflects_fetched`: a snapshot brings nothing new to the session that has taken it;
* `answered_of_reflects`: any number of polls of any resources are silent while nothing changes;
* `polled_again_of_fresh`: so is the poll that shows what the one before has shown.
-/

namespace PeerChat.Session

open Transfer (Offer)

variable {s : Session} {seq : Nat} {forced : Bool} {snapshot : Snapshot}

/-- The snapshot brings nothing new. A log or roster of the length that is stored counts as known; a roster must not
name another local user, and a queue must hold nothing for the user. -/
def Reflects (s : Session) : Snapshot → Prop
  | .messages log => log.length = s.store.messages.length
  | .roster entries =>
    (Roster.users entries).length = s.store.roster.length ∧
      (Roster.identity? (Roster.users entries)).or s.store.identity = s.store.identity
  | .transfers queue =>
    queue = s.store.transfers ∧ (∀ offer ∈ queue, offer.fileId ∈ s.store.seen) ∧ s.prompts.Quiet queue
  | .blockList names => names = s.store.blocked

/-- The session with another number for the newest answer about a resource. -/
def noted (s : Session) (resource : Resource) (seq : Nat) : Session :=
  { s with store := { s.store with applied := s.store.applied.set resource (some seq) } }

/-! ### A snapshot that brings nothing new -/

lemma foldl_insert_of_forall_mem {queue : List Offer} {seen : NameSet} (h : ∀ offer ∈ queue, offer.fileId ∈ seen) :
    queue.foldl (fun seen offer => seen.insert offer.fileId) seen = seen := by
  refine NameSet.eq_of_mem fun fileId => ?_
  rw [Store.mem_foldl_insert]
  refine ⟨fun hmem => ?_, Or.inl⟩
  rcases hmem with hmem | ⟨offer, hoffer, rfl⟩
  · exact hmem
  · exact h offer hoffer

/-- A snapshot that brings nothing new leaves the session as it was, but for its number. -/
theorem fetched_of_reflects (h : s.Reflects snapshot) (fresh : s.store.isStale snapshot.resource seq = false) :
    s.fetched seq false snapshot = ⟨s.noted snapshot.resource seq, [], []⟩ := by
  have hstored : ∀ store, (s.stored seq false snapshot).store = store →
      s.stored seq false snapshot = { s with store := store } := by
    rintro _ rfl
    rfl
  cases snapshot with
  | messages log =>
    have hlength : log.length = s.store.messages.length := h
    have hkept : ¬(log.length ≠ s.store.messages.length ∨ false = true) := by simpa using hlength
    rw [fetched_messages fresh, if_neg hkept, hstored _ (store_stored_messages fresh), Store.pick_of_not_keeps hkept]
    rfl
  | roster entries =>
    obtain ⟨hlength, hidentity⟩ := h
    have hkept : ¬((Roster.users entries).length ≠ s.store.roster.length ∨ false = true) := by simpa using hlength
    rw [fetched_roster fresh, if_neg hkept, hstored _ (store_stored_roster fresh), Store.pick_of_not_keeps hkept,
      hidentity, if_pos rfl]
    rfl
  | transfers queue =>
    obtain ⟨hqueue, hseen, hquiet⟩ := h
    rw [fetched_transfers fresh, Transfer.Prompts.scan_of_quiet hquiet, hstored _ (store_stored_transfers fresh),
      foldl_insert_of_forall_mem hseen, hqueue]
    rfl
  | blockList names =>
    have hnames : names = s.store.blocked := h
    have hkept : ¬(names ≠ s.store.blocked ∨ false = true) := by simpa using hnames
    rw [fetched_blockList fresh, if_neg hkept, hstored _ (store_stored_blockList fresh), hnames]
    rfl

/-! ### A snapshot that has been taken -/

/-- A snapshot brings nothing new to the session that has taken it, however it was taken. -/
theorem reflects_fetched (fresh : s.store.isStale snapshot.resource seq = false) :
    (s.fetched seq forced snapshot).session.Reflects snapshot := by
  cases snapshot with
  | messages log =>
    rw [fetched_messages fresh]
    show log.length = (s.stored seq forced (.messages log)).store.messages.length
    rw [store_stored_messages fresh, Store.length_pick]
  | roster entries =>
    rw [fetched_roster fresh]
    show _ = (s.stored seq forced (.roster entries)).store.roster.length ∧
      Option.or _ (s.stored seq forced (.roster entries)).store.identity = _
    rw [store_stored_roster fresh]
    refine ⟨(Store.length_pick _ _ _).symm, ?_⟩
    cases Roster.identity? (Roster.users entries) <;> rfl
  | transfers queue =>
    rw [fetched_transfers fresh]
    refine ⟨?_, fun offer hoffer => ?_, s.prompts.quiet_scan queue⟩
    · show queue = (s.stored seq forced (.transfers queue)).store.transfers
      rw [store_stored_transfers fresh]
    · show offer.fileId ∈ (s.stored seq forced (.transfers queue)).store.seen
      rw [store_stored_transfers fresh]
      exact (Store.mem_foldl_insert queue s.store.seen offer.fileId).2 (Or.inr ⟨offer, hoffer, rfl⟩)
  | blockList names =>
    rw [fetched_blockList fresh]
    show names = (s.stored seq forced (.blockList names)).store.blocked
    rw [store_stored_blockList fresh]

lemma isStale_fetched_of_le {seq' : Nat} (fresh : s.store.isStale snapshot.resource seq = false) (hle : seq ≤ seq') :
    (s.fetched seq forced snapshot).session.store.isStale snapshot.resource seq' = false := by
  obtain ⟨prompts, hsession⟩ := s.session_fetched seq forced snapshot
  have hcall : (s.fetched seq forced snapshot).session.store = (s.store.call ⟨seq, snapshot, forced⟩).1 := by
    rw [hsession]
    rfl
  rw [hcall, Bool.eq_false_iff, ne_eq, Store.isStale_call]
  rintro (⟨-, hlt⟩ | hstale)
  · have hlt' : seq' < seq := hlt
    omega
  · obtain ⟨last, hlast, hlt⟩ := Store.isStale_iff.1 hstale
    have hbefore : s.store.isStale snapshot.resource seq = true := Store.isStale_iff.2 ⟨last, hlast, by omega⟩
    rw [fresh] at hbefore
    exact nomatch hbefore

/-! ### Many polls -/

lemma reflects_applied (applied : PerResource (Option Nat)) :
    Reflects { s with store := { s.store with applied := applied } } snapshot ↔ s.Reflects snapshot := by
  cases snapshot <;> exact Iff.rfl

/-- A poll that brings nothing new leaves all of the session but the numbers, and a stale one leaves even these. -/
lemma exists_applied_of_reflects (seq : Nat) (h : s.Reflects snapshot) :
    ∃ applied, s.fetched seq false snapshot = ⟨{ s with store := { s.store with applied := applied } }, [], []⟩ := by
  cases hstale : s.store.isStale snapshot.resource seq with
  | true => exact ⟨s.store.applied, fetched_of_stale hstale⟩
  | false => exact ⟨s.store.applied.set snapshot.resource (some seq), fetched_of_reflects h hstale⟩

/-- **While nothing changes, polling is silent**: any polls of any resources, under any numbers, show nothing, ask for
nothing, and leave the session as it was, but for the numbers. -/
theorem answered_of_reflects {calls : List Store.Call} (h : ∀ c ∈ calls, s.Reflects c.snapshot ∧ c.forced = false) :
    ∃ applied, s.answered calls = ⟨{ s with store := { s.store with applied := applied } }, [], []⟩ := by
  induction calls using List.reverseRecOn with
  | nil => exact ⟨s.store.applied, rfl⟩
  | append_singleton calls c ih =>
    obtain ⟨applied, hbefore⟩ := ih fun d hd => h d (List.mem_append_left _ hd)
    obtain ⟨hreflects, hforced⟩ := h c (List.mem_append_right _ List.mem_cons_self)
    obtain ⟨applied', hpoll⟩ := exists_applied_of_reflects c.seq ((reflects_applied applied).2 hreflects)
    refine ⟨applied', ?_⟩
    rw [answered_concat, hbefore]
    show fetched _ c.seq c.forced c.snapshot = _
    rw [hforced, hpoll]

/-- **The same snapshot again, unforced, is taken in silence**: nothing is shown and nothing is asked for, and of the
session only the number of the newest answer about the resource changes. -/
theorem polled_again_of_fresh (s : Session) {seq seq' : Nat} (forced : Bool) (snapshot : Snapshot)
    (fresh : s.store.isStale snapshot.resource seq = false) (hle : seq ≤ seq') :
    (s.complete (.fetched seq forced snapshot)).session.complete (.fetched seq' false snapshot) =
      ⟨(s.complete (.fetched seq forced snapshot)).session.noted snapshot.resource seq', [], []⟩ :=
  fetched_of_reflects (reflects_fetched fresh) (isStale_fetched_of_le fresh hle)

/-- A queue in which the offer that is asked about does not wait any more, one that was answered waits still, and a new
one stands twice: the first look at it withdraws one prompt and raises another, the second does nothing. -/
theorem polled_again_of_repeated_offer :
    ∃ (s : Session) (queue : List Offer) (turn : Turn),
      turn = s.complete (.fetched 4 true (.transfers queue)) ∧
      s.store.isStale .transfers 4 = false ∧ 4 ≤ 4 ∧
      turn.events.length = 2 ∧
      turn.session.complete (.fetched 4 false (.transfers queue)) = ⟨turn.session.noted .transfers 4, [], []⟩ := by
  let waits (fileId : FileId) : Offer := ⟨fileId, "a.txt", 3, 0, .pending, .receive, "bob"⟩
  let before := [waits "file-1", waits "file-2"]
  let s := (empty.run [.completion (.fetched 2 false (.transfers before)), .command (.respondToPrompt true),
    .completion (.fetched 3 false (.transfers before))]).session
  let queue := [waits "file-3", waits "file-1", waits "file-3"]
  have fresh : s.store.isStale (Snapshot.transfers queue).resource 4 = false := by decide +kernel
  exact ⟨s, queue, _, rfl, fresh, le_rfl, by decide +kernel,
    polled_again_of_fresh s true (.transfers queue) fresh le_rfl⟩

end PeerChat.Session
