import Mathlib.Data.List.Induction
import PeerChat.Proofs.Peer.Run
import PeerChat.Proofs.Session.Fetch

/-!
A client that polls the message log of a peer while things happen at the peer. The peer keeps only its last messages,
and the client tells a new log by its length alone.

* `sound_run`: at all times the client is behind the peer only by messages that make the log longer, unless the log is
  full;
* `mirrored_run`: after a poll the client has the log of the peer message for message, until a poll has found the log
  full; from that poll on it has what that poll showed;
* `full_log_is_missed`: so it does miss messages once the log is full.
-/

namespace PeerChat

/-- A peer, and a client that polls its messages. -/
structure Watch where
  peer : Peer
  client : Session
  /-- The polls so far had numbers below this one. -/
  next : Nat
deriving DecidableEq, Repr

namespace Watch

/-- One thing happens. -/
inductive Happening
  /-- Something happens at the peer. -/
  | incident (incident : Peer.Incident)
  /-- The client polls the messages, under a number above those of all polls before; some numbers may go unused. -/
  | poll (unused : Nat)
deriving DecidableEq, Repr

/-- The user of the peer submits a text, a message comes to the peer, or the client polls. -/
def Happening.isTalk : Happening → Bool
  | incident (.deed (.submit _ _)) | incident (.deed (.receive _ _ _ _)) | poll _ => true
  | incident _ => false

/-- The log of the peer as a client reads it. -/
def shown (w : Watch) : List Message := w.peer.log.map Message.ofWire

def stored (w : Watch) : List Message := w.client.store.messages

/-- What is left after one thing happened: a poll shows the client the log as it is, and is not forced. -/
def after (w : Watch) : Happening → Watch
  | .incident incident => { w with peer := w.peer.meets incident }
  | .poll unused =>
    { w with
      client := (w.client.complete (.fetched (w.next + unused) false (.messages w.shown))).session
      next := w.next + unused + 1 }

def run (name : Username) (happenings : List Happening) : Watch :=
  happenings.foldl after ⟨Peer.start name, .empty, 0⟩

lemma run_concat (name : Username) (happenings : List Happening) (happening : Happening) :
    run name (happenings ++ [happening]) = (run name happenings).after happening := by
  unfold run
  rw [List.foldl_append]
  rfl

/-! ### One poll -/

section Poll

variable {w : Watch}

/-- No number from the next one on is stale. -/
def Fresh (w : Watch) : Prop := ∀ seq, w.next ≤ seq → w.client.store.isStale .messages seq = false

lemma client_after_poll (hw : w.Fresh) (unused : Nat) :
    (w.after (.poll unused)).client = w.client.stored (w.next + unused) false (.messages w.shown) := by
  have hfresh := hw (w.next + unused) (Nat.le_add_right _ _)
  show (w.client.fetched _ _ _).session = _
  rw [Session.fetched_messages hfresh]

lemma stored_after_poll (hw : w.Fresh) (unused : Nat) :
    (w.after (.poll unused)).stored = Store.pick false w.stored w.shown := by
  unfold stored
  rw [client_after_poll hw, Session.store_stored_messages (hw _ (Nat.le_add_right _ _))]

lemma fresh_after_poll (hw : w.Fresh) (unused : Nat) : (w.after (.poll unused)).Fresh := by
  intro seq hseq
  rw [client_after_poll hw, Session.store_stored_messages (hw _ (Nat.le_add_right _ _))]
  have hle : w.next + unused + 1 ≤ seq := hseq
  simp only [Store.isStale, PerResource.get_set_self, decide_eq_false_iff_not, Nat.not_lt]
  omega

lemma length_shown (w : Watch) : w.shown.length = w.peer.log.length := List.length_map _

lemma length_stored_after_poll (hw : w.Fresh) (unused : Nat) :
    (w.after (.poll unused)).stored.length = w.peer.log.length := by
  rw [stored_after_poll hw, Store.length_pick, length_shown]

lemma stored_after_poll_of_ne (hw : w.Fresh) (unused : Nat) (h : w.stored.length ≠ w.peer.log.length) :
    (w.after (.poll unused)).stored = w.shown := by
  rw [stored_after_poll hw, Store.pick_of_keeps (Or.inl _)]
  rw [length_shown]
  exact Ne.symm h

lemma stored_after_poll_of_eq (hw : w.Fresh) (unused : Nat) (h : w.stored.length = w.peer.log.length) :
    (w.after (.poll unused)).stored = w.stored := by
  rw [stored_after_poll hw, Store.pick_of_not_keeps]
  simpa [length_shown] using h.symm

end Poll

/-! ### Runs -/

/-- What holds at all times: the client is not ahead of the peer, and unless the log is full it is behind only by
messages that make the log longer. -/
structure Sound (w : Watch) : Prop where
  fresh : w.Fresh
  length_log : w.peer.log.length ≤ Peer.logCap
  length_stored : w.stored.length ≤ w.peer.log.length
  stored_eq : w.stored.length = w.peer.log.length → w.peer.log.length < Peer.logCap → w.stored = w.shown

lemma sound_after {w : Watch} (hw : w.Sound) (happening : Happening) : (w.after happening).Sound := by
  cases happening with
  | incident incident =>
    have hlength := Peer.length_log_meets incident hw.length_log
    refine ⟨hw.fresh, hlength.2, Nat.le_trans hw.length_stored hlength.1, fun heq hcap => ?_⟩
    -- the log did not grow, so it is the one from before
    have heq' : w.stored.length = (w.peer.meets incident).log.length := heq
    have hcap' : (w.peer.meets incident).log.length < Peer.logCap := hcap
    have hle := hw.length_stored
    have hlog : (w.peer.meets incident).log = w.peer.log :=
      Peer.log_meets_of_length_eq incident (by omega) (by omega)
    show w.stored = (w.peer.meets incident).log.map Message.ofWire
    rw [hlog] at heq' hcap' ⊢
    exact hw.stored_eq heq' hcap'
  | poll unused =>
    have hlength : (w.after (.poll unused)).stored.length = w.peer.log.length :=
      length_stored_after_poll hw.fresh unused
    refine ⟨fresh_after_poll hw.fresh unused, hw.length_log, Nat.le_of_eq hlength, fun _ hcap => ?_⟩
    by_cases heq : w.stored.length = w.peer.log.length
    · rw [stored_after_poll_of_eq hw.fresh unused heq]
      exact hw.stored_eq heq hcap
    · exact stored_after_poll_of_ne hw.fresh unused heq

variable (name : Username)

theorem sound_run (happenings : List Happening) : (run name happenings).Sound := by
  induction happenings using List.reverseRecOn with
  | nil => exact ⟨fun _ _ => rfl, Nat.zero_le _, Nat.le_refl _, fun _ _ => rfl⟩
  | append_singleton happenings happening ih =>
    rw [run_concat]
    exact sound_after ih happening

/-- While no poll has found the log full, the client has fewer messages than a full log. -/
lemma length_stored_lt {happenings : List Happening}
    (h : ∀ earlier unused, earlier ++ [.poll unused] <+: happenings →
      (run name earlier).peer.log.length < Peer.logCap) : (run name happenings).stored.length < Peer.logCap := by
  induction happenings using List.reverseRecOn with
  | nil =>
    show 0 < Peer.logCap
    decide
  | append_singleton happenings happening ih =>
    rw [run_concat]
    cases happening with
    | incident incident =>
      exact ih fun earlier unused hearlier => h earlier unused (hearlier.trans (List.prefix_append _ _))
    | poll unused =>
      rw [length_stored_after_poll (sound_run name happenings).fresh]
      exact h happenings unused (List.prefix_refl _)

/-- Once the client has a full log, it keeps to it. -/
lemma stored_of_full {happenings : List Happening} (h : (run name happenings).stored.length = Peer.logCap)
    (more : List Happening) : (run name (happenings ++ more)).stored = (run name happenings).stored := by
  induction more using List.reverseRecOn with
  | nil => rw [List.append_nil]
  | append_singleton more happening ih =>
    rw [← List.append_assoc, run_concat]
    cases happening with
    | incident incident => exact ih
    | poll unused =>
      have hsound := sound_run name (happenings ++ more)
      have hfull : (run name (happenings ++ more)).stored.length = (run name (happenings ++ more)).peer.log.length := by
        have hle := hsound.length_stored
        have hcap := hsound.length_log
        rw [ih] at hle ⊢
        omega
      rw [stored_after_poll_of_eq hsound.fresh unused hfull, ih]

/-- What the client has after a poll that follows on a run. -/
structure Mirrored (happenings : List Happening) (unused : Nat) : Prop where
  /-- It has as many messages as the peer. -/
  length_eq : (run name (happenings ++ [.poll unused])).stored.length =
    (run name (happenings ++ [.poll unused])).peer.log.length
  /-- It has the log of the peer, message for message, if no poll before has found the log full. -/
  eq_shown : (∀ earlier unused', earlier ++ [.poll unused'] <+: happenings →
      (run name earlier).peer.log.length < Peer.logCap) →
    (run name (happenings ++ [.poll unused])).stored = (run name (happenings ++ [.poll unused])).shown
  /-- It has what it had after any poll that found the log full. -/
  eq_stored (earlier : List Happening) (unused' : Nat) : earlier ++ [.poll unused'] <+: happenings →
    (run name earlier).peer.log.length = Peer.logCap →
      (run name (happenings ++ [.poll unused])).stored = (run name (earlier ++ [.poll unused'])).stored

/-- **Until a poll has found the log full, the client has the log of the peer after each poll**; from the first poll on
that found it full, the client has the log as it was then. -/
theorem mirrored_run (happenings : List Happening) (unused : Nat) : Mirrored name happenings unused where
  length_eq := by
    rw [run_concat]
    exact length_stored_after_poll (sound_run name happenings).fresh unused
  eq_shown h := by
    have hsound := sound_run name happenings
    have hlt := length_stored_lt name h
    rw [run_concat]
    by_cases heq : (run name happenings).stored.length = (run name happenings).peer.log.length
    · rw [stored_after_poll_of_eq hsound.fresh unused heq]
      exact hsound.stored_eq heq (heq ▸ hlt)
    · exact stored_after_poll_of_ne hsound.fresh unused heq
  eq_stored earlier unused' := by
    rintro ⟨more, rfl⟩ hfull
    have hstored : (run name (earlier ++ [.poll unused'])).stored.length = Peer.logCap := by
      rw [run_concat, length_stored_after_poll (sound_run name earlier).fresh, hfull]
    rw [List.append_assoc]
    exact stored_of_full name hstored (more ++ [.poll unused])

/-- Messages can be missed: a peer takes a hundred messages and is polled, and takes one more and is polled again. -/
theorem full_log_is_missed :
    ¬∀ (name : Username) (happenings : List Happening) (unused : Nat), happenings.all Happening.isTalk = true →
      (run name (happenings ++ [.poll unused])).stored = (run name (happenings ++ [.poll unused])).shown := by
  intro h
  let noon : Calendar.Timestamp := ⟨⟨2025, 3, 1, by decide, by decide, by decide⟩, 12, 0, 0, 0, by decide, by decide,
    by decide, by decide⟩
  let heard (text : String) : Happening := .incident (.deed (.receive noon "bob" text false))
  let happenings : List Happening := List.replicate 100 (heard "a") ++ [.poll 0, heard "b"]
  have hmissed : (run "alice" (happenings ++ [.poll 0])).stored ≠ (run "alice" (happenings ++ [.poll 0])).shown := by
    decide +kernel
  exact hmissed (h "alice" happenings 0 (by decide +kernel))

end Watch

end PeerChat
