import PeerChat.Proofs.Exchange.BlockCommands
import PeerChat.Proofs.Roster.Entries
import PeerChat.Proofs.Session.Frame

/-!
A user is blocked or unblocked by a client that knows the roster and the block list of its peer: the toggle goes out as
a command, the peer carries it out, and the client asks for both resources again.

* `users_of_knows`: what a client shows that knows the peer as it is;
* `knows_of_answered`: the client knows the peer as it is once both answers have come, whichever comes first;
* `toggled_of_knows`: what the user sees afterwards is what he saw before, with the mark of one user turned around.
-/

namespace PeerChat

open Calendar (Timestamp)

/-- The user on the roster with the mark turned around if he is the one who is meant. -/
def UserView.turned (username : Username) (view : UserView) : UserView :=
  if view.username = username then { view with isBlocked := !view.isBlocked } else view

namespace Session

/-- The session holds the roster and the block list of the peer as they are. -/
structure Knows (s : Session) (p : Peer) : Prop where
  roster : s.store.roster = Roster.users p.roster
  blocked : s.store.blocked = p.blocked

/-- An answer under this number is newer than all that were taken for the resource. -/
def Newer (s : Session) (resource : Resource) (seq : Nat) : Prop :=
  ∀ last, s.store.applied.get resource = some last → last < seq

variable {s : Session} {p : Peer}

lemma users_of_knows (h : s.Knows p) (hplain : ∀ name ∈ p.online.names, Roster.IsPlain name) :
    s.users = p.online.names.map fun name => ⟨name, p.blocked.contains name⟩ := by
  have hothers : (Roster.users p.roster).filter (!·.isSelf) = p.online.names.map (⟨·, false⟩) :=
    Roster.filter_users_entries p.name p.blocked hplain
  unfold users userViews
  rw [h.roster, h.blocked, hothers, List.map_map]
  rfl

lemma isStale_of_newer {resource : Resource} {seq : Nat} (h : s.Newer resource seq) :
    s.store.isStale resource seq = false := by
  rw [Bool.eq_false_iff, ne_eq, Store.isStale_iff]
  rintro ⟨last, hlast, hlt⟩
  exact Nat.lt_asymm hlt (h last hlast)

/-! ### The answers to the forced requests -/

/-- The block list of a peer as it answers a forced request. -/
def blockListAnswer (p : Peer) (seq : Nat) : Completion := .fetched seq true (.blockList p.blocked)

/-- The roster of a peer as it answers a forced request. -/
def rosterAnswer (p : Peer) (seq : Nat) : Completion := .fetched seq true (.roster p.roster)

lemma store_blockListAnswer {seq : Nat} (hfresh : s.store.isStale .blockList seq = false) :
    (s.complete (blockListAnswer p seq)).session.store =
      { s.store with blocked := p.blocked, applied := s.store.applied.set .blockList (some seq) } := by
  show (s.fetched seq true (.blockList p.blocked)).session.store = _
  rw [fetched_blockList hfresh, store_stored_blockList hfresh]

lemma store_rosterAnswer {seq : Nat} (hfresh : s.store.isStale .roster seq = false) :
    (s.complete (rosterAnswer p seq)).session.store =
      { s.store with
          identity := (Roster.identity? (Roster.users p.roster)).or s.store.identity
          roster := Roster.users p.roster
          applied := s.store.applied.set .roster (some seq) } := by
  show (s.fetched seq true (.roster p.roster)).session.store = _
  rw [fetched_roster hfresh, store_stored_roster hfresh, Store.pick_of_keeps (Or.inr rfl)]

/-- Once both answers have come, the session knows the peer as it is, whichever of them comes first. -/
theorem knows_of_answered {blockSeq rosterSeq : Nat} (hblock : s.Newer .blockList blockSeq)
    (hroster : s.Newer .roster rosterSeq) :
    (((s.complete (blockListAnswer p blockSeq)).session.complete (rosterAnswer p rosterSeq)).session).Knows p ∧
      (((s.complete (rosterAnswer p rosterSeq)).session.complete (blockListAnswer p blockSeq)).session).Knows p := by
  have hblock' := store_blockListAnswer (p := p) (isStale_of_newer hblock)
  have hroster' := store_rosterAnswer (p := p) (isStale_of_newer hroster)
  constructor
  · -- the number of the block list does not make a roster stale
    have hfresh : (s.complete (blockListAnswer p blockSeq)).session.store.isStale .roster rosterSeq = false := by
      rw [hblock']
      exact isStale_of_newer hroster
    exact ⟨by rw [store_rosterAnswer hfresh], by rw [store_rosterAnswer hfresh, hblock']⟩
  · have hfresh : (s.complete (rosterAnswer p rosterSeq)).session.store.isStale .blockList blockSeq = false := by
      rw [hroster']
      exact isStale_of_newer hblock
    exact ⟨by rw [store_blockListAnswer hfresh, hroster'], by rw [store_blockListAnswer hfresh]⟩

end Session

/-! ### The toggle -/

namespace Peer

variable (p : Peer) (now : Timestamp)

lemma contains_toggled (username name : Username) :
    (p.carryOut now (.setBlocked (.toggle username p.blocked))).blocked.contains name =
      if name = username then !p.blocked.contains name else p.blocked.contains name := by
  rw [Bool.eq_iff_iff, NameSet.contains_iff, mem_blocked_carryOut]
  unfold BlockIntent.toggle
  dsimp only
  by_cases hname : name = username
  · rw [if_pos hname, if_pos hname, hname]
  · rw [if_neg hname, if_neg hname, NameSet.contains_iff]

/-- On the roster, the mark of just the user who is meant is turned around. -/
lemma views_toggled (username : Username) :
    (p.online.names.map fun name =>
        (⟨name, (p.carryOut now (.setBlocked (.toggle username p.blocked))).blocked.contains name⟩ : UserView)) =
      (p.online.names.map fun name => ⟨name, p.blocked.contains name⟩).map (UserView.turned username) := by
  rw [List.map_map]
  refine List.map_congr_left fun name _ => ?_
  show _ = UserView.turned username ⟨name, p.blocked.contains name⟩
  rw [contains_toggled]
  unfold UserView.turned
  by_cases h : name = username <;> simp [h]

lemma submit_toggle {username : Username} (hname : Roster.IsPlain username) (honline : username ∈ p.online) :
    p.submit now (BlockIntent.toggle username p.blocked).command =
      .ok (p.carryOut now (.setBlocked (.toggle username p.blocked))) := by
  have hread : Order.readName username = username := (Order.read_of_visible hname.visible "").1
  have hcases := p.submit_command now (.toggle username p.blocked)
  simp only [BlockIntent.toggle, hread] at hcases ⊢
  rcases hcases hname.ne_empty with ⟨-, hsubmit⟩ | ⟨habsent, -⟩
  · exact hsubmit
  · exact absurd honline habsent

end Peer

/-- How a toggle goes, from the command of the user to the roster that he sees at last. -/
structure Toggled (now : Timestamp) (username : Username) (s : Session) (p : Peer) (intent : BlockIntent) (q : Peer) :
    Prop where
  /-- The session asks for one thing, that the command is sent, and stays as it is. -/
  asked : s.command (.toggleBlock username) = ⟨s, [], [.sendText intent.command (.block intent)]⟩
  taken : p.submit now intent.command = .ok q
  /-- When it is told that the command was taken, the session asks for both resources and stays as it is. -/
  confirmed : s.complete (.sent (.block intent) none) = ⟨s, [], [.fetch .blockList true, .fetch .roster true]⟩
  /-- The answers, under any new numbers and in both orders, turn around the mark of the user and no other. -/
  turned (blockSeq rosterSeq : Nat) : s.Newer .blockList blockSeq → s.Newer .roster rosterSeq →
    ∀ answers : List Completion,
      answers = [Session.blockListAnswer q blockSeq, Session.rosterAnswer q rosterSeq] ∨
        answers = [Session.rosterAnswer q rosterSeq, Session.blockListAnswer q blockSeq] →
      (s.run (.command (.toggleBlock username) :: .completion (.sent (.block intent) none) ::
        answers.map .completion)).session.users = s.users.map (UserView.turned username)

/-- **A toggle turns around the mark of one user and no other**, for a client that knows the roster and the block list
of the peer. The users who are online have plain names; nothing is asked of the name of the local user. -/
theorem toggled_of_knows (now : Timestamp) {s : Session} {p : Peer} {username : Username}
    (hplain : ∀ name ∈ p.online.names, Roster.IsPlain name) (hknows : s.Knows p)
    (hlisted : username ∈ s.users.map UserView.username) :
    ∃ intent q, intent.username = username ∧ Toggled now username s p intent q := by
  let intent : BlockIntent := .toggle username p.blocked
  let q : Peer := p.carryOut now (.setBlocked intent)
  have husers := Session.users_of_knows hknows hplain
  have honline : username ∈ p.online := by
    rw [husers, List.map_map] at hlisted
    obtain ⟨name, hname, rfl⟩ := List.mem_map.1 hlisted
    exact hname
  have hasked : s.command (.toggleBlock username) = ⟨s, [], [.sendText intent.command (.block intent)]⟩ := by
    show s.askBlock (.toggle username s.store.blocked) = _
    rw [hknows.blocked]
    rfl
  refine ⟨intent, q, rfl, hasked, p.submit_toggle now (hplain username honline) honline, rfl, ?_⟩
  intro blockSeq rosterSeq hblock hroster answers hanswers
  obtain ⟨hfirst, hlast⟩ := Session.knows_of_answered (p := q) hblock hroster
  rw [husers, ← p.views_toggled now username]
  rcases hanswers with rfl | rfl
  · exact Session.users_of_knows hfirst hplain
  · exact Session.users_of_knows hlast hplain

/-- A client that has been told the roster and the block list, in a peer with a user blocked, who is unblocked. -/
theorem toggled_of_blocked_user :
    ∃ (now : Timestamp) (s : Session) (p : Peer), (∀ name ∈ p.online.names, Roster.IsPlain name) ∧ s.Knows p ∧
      "carol" ∈ s.users.map UserView.username ∧ s.Newer .blockList 4 ∧ s.Newer .roster 3 ∧
        ∃ intent q, intent.username = "carol" ∧ Toggled now "carol" s p intent q := by
  let p : Peer := { ((Peer.start "alice").join "carol").join "bob" with blocked := NameSet.ofList ["carol", "dave"] }
  let s : Session := ((Session.empty.complete (Session.blockListAnswer p 3)).session.complete
    (Session.rosterAnswer p 2)).session
  have hnames : p.online.names = ["bob", "carol"] := by decide +kernel
  have hplain : ∀ name ∈ p.online.names, Roster.IsPlain name := by
    rw [hnames]
    intro name hname
    rcases List.mem_pair.1 hname with rfl | rfl
    · exact ⟨by decide, Text.visible_of_all (by decide), by decide⟩
    · exact ⟨by decide, Text.visible_of_all (by decide), by decide⟩
  have hknows : s.Knows p := ⟨by decide +kernel, by decide +kernel⟩
  have hlisted : "carol" ∈ s.users.map UserView.username := by decide +kernel
  have hblock : s.Newer .blockList 4 := by
    intro last hlast
    have hthree : s.store.applied.get .blockList = some 3 := by decide +kernel
    rw [← Option.some.inj (hthree.symm.trans hlast)]
    decide
  have hroster : s.Newer .roster 3 := by
    intro last hlast
    have htwo : s.store.applied.get .roster = some 2 := by decide +kernel
    rw [← Option.some.inj (htwo.symm.trans hlast)]
    decide
  exact ⟨.epoch, s, p, hplain, hknows, hlisted, hblock, hroster, toggled_of_knows .epoch hplain hknows hlisted⟩

end PeerChat
