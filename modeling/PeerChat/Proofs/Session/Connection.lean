import Mathlib.Data.List.Chain
import Mathlib.Data.List.Induction
import PeerChat.Proofs.Session.Idle
import PeerChat.Proofs.Session.Run

/-!
The connection to the service over whole runs: when a session takes the service for reachable, what it shows of that,
and which resources it asks for again by itself.

* `connects_turn`: what one turn does to the liveness, and the fetches that it asks for;
* `count_fetch_run`: how often each resource was asked for in a run;
* `connection_run`: the changes of liveness in a run and the fetches that come of them.
-/

namespace PeerChat

namespace Session

/-! ### What inputs show -/

/-- What the session learns of whether the service can be reached: from the end of a probe, and from a fetch that did
not reach it. -/
def Input.reachable? : Input → Option Bool
  | .completion (.probed failure) => some failure.isNone
  | .completion (.fetchFailed _ failure) => if failure.isUnreachable then some false else none
  | _ => none

/-- A change of the block list was sent. -/
def Input.isBlockSent : Input → Bool
  | .completion (.sent (.block _) none) => true
  | _ => false

/-- How often the service came back: how many changes to connected come after some change to disconnected. -/
def returns (changes : List Liveness) : Nat := (changes.dropWhile (· ≠ .disconnected)).count .connected

/-! ### One turn -/

/-- The service comes back between these two. -/
def ComesBack (before after : Option Liveness) : Prop := before = some .disconnected ∧ after = some .connected

instance (before after : Option Liveness) : Decidable (ComesBack before after) := by
  unfold ComesBack; infer_instance

end Session

/-- What a turn does to the liveness, and what it asks for again: messages and roster when the service comes back, block
list and roster when a change of the block list was sent. -/
structure Turn.Connects (turn : Turn) (s : Session) (input : Session.Input) : Prop where
  liveness : turn.session.liveness = (input.reachable?.map Liveness.ofReachable).or s.liveness
  changes : Session.changes turn.events =
    if turn.session.liveness = s.liveness then [] else turn.session.liveness.toList
  fetches : turn.requests.filter Request.isFetch =
    (if Session.ComesBack s.liveness turn.session.liveness then [.fetch .messages true, .fetch .roster true] else []) ++
      if input.isBlockSent then [.fetch .blockList true, .fetch .roster true] else []

namespace Session

lemma not_comesBack_self (liveness : Option Liveness) : ¬ComesBack liveness liveness := by
  rintro ⟨h, h'⟩
  rw [h] at h'
  exact nomatch h'

variable {s : Session}

lemma connects_of_neutral {turn : Turn} (h : turn.Neutral s) {input : Input} (hr : input.reachable? = none)
    (hb : input.isBlockSent = false) : turn.Connects s input where
  liveness := by rw [h.liveness, hr]; rfl
  changes := by rw [h.changes, if_pos h.liveness]
  fetches := by rw [h.fetches, h.liveness, if_neg (not_comesBack_self _), hb]; rfl

/-! ### Turns that have nothing to do with the connection -/

variable (s)

lemma neutral_respondTo (fileId : FileId) (accepted : Bool) : (s.respondTo fileId accepted).Neutral s := by
  unfold respondTo
  split
  · refine ⟨rfl, ?_, rfl⟩
    show changes (if _ then _ else _) = []
    split <;> rfl
  · exact (s.idle_tell _ _).neutral

lemma neutral_command (command : Command) : (s.command command).Neutral s := by
  cases hanswer : command.isAnswer with
  | false => exact (idle_command hanswer).neutral
  | true =>
    unfold Session.command
    cases command with
    | respondToPrompt accepted =>
      cases s.prompts.current with
      | some prompt => exact s.neutral_respondTo prompt.fileId accepted
      | none => exact (s.idle_tell _ _).neutral
    | respondToOffer response => exact s.neutral_respondTo _ _
    | switchConversation | updateDraft | submitDraft | sendEmoji | toggleBlock | setBlocked | sendFile | shutdown =>
      exact nomatch hanswer

lemma neutral_fetched (seq : Nat) (forced : Bool) (snapshot : Snapshot) :
    (s.fetched seq forced snapshot).Neutral s := by
  rcases idle_fetched_or_transfers seq forced snapshot with hidle | ⟨queue, rfl, fresh⟩
  · exact hidle.neutral
  · rw [fetched_transfers fresh]
    refine ⟨rfl, List.filterMap_eq_nil_iff.2 ?_, rfl⟩
    intro event hevent
    obtain ⟨update, -, rfl⟩ := List.mem_map.1 hevent
    cases update <;> rfl

lemma neutral_responded (response : Transfer.Response) (failure : Option Failure) :
    (s.responded response failure).Neutral s := by
  unfold responded
  split <;> exact ⟨rfl, rfl, rfl⟩

/-! ### Turns that do -/

lemma connects_observe {reachable : Bool} {input : Input} (hr : input.reachable? = some reachable)
    (hb : input.isBlockSent = false) : (s.observe reachable).Connects s input := by
  unfold observe Liveness.observe
  by_cases h : s.liveness = some (Liveness.ofReachable reachable)
  · rw [if_pos h]
    exact ⟨by rw [hr, h]; rfl, by simp [changes], by simp [hb, not_comesBack_self]⟩
  · rw [if_neg h]
    refine ⟨by rw [hr]; rfl, ?_, ?_⟩
    · simp [changes, Event.liveness?, Ne.symm h]
    · simp only [hb, Liveness.Transition.isReconnect, ComesBack, Bool.and_eq_true, beq_iff_eq, Option.some_inj]
      split <;> rfl

lemma requests_fetched (seq : Nat) (forced : Bool) (snapshot : Snapshot) :
    (s.fetched seq forced snapshot).requests = [] := by
  cases h : s.store.isStale snapshot.resource seq with
  | true => rw [fetched_of_stale h]
  | false =>
    cases snapshot with
    | messages log => rw [fetched_messages h]
    | roster entries => rw [fetched_roster h]
    | blockList names => rw [fetched_blockList h]
    | transfers queue => rw [fetched_transfers h]

lemma requests_observe_false : (s.observe false).requests = [] := by
  unfold observe Liveness.observe
  by_cases h : s.liveness = some (Liveness.ofReachable false)
  · rw [if_pos h]
  · rw [if_neg h]
    simp [Liveness.Transition.isReconnect, Liveness.ofReachable]

lemma requests_fetchFailed (resource : Resource) (failure : Failure) :
    (s.fetchFailed resource failure).requests = [] := by
  unfold fetchFailed
  split
  · exact s.requests_observe_false
  · rfl

lemma connects_fetchFailed (resource : Resource) (failure : Failure) :
    (s.fetchFailed resource failure).Connects s (.completion (.fetchFailed resource failure)) := by
  unfold fetchFailed
  by_cases hf : failure.isUnreachable = true
  · have hreach : (Input.completion (.fetchFailed resource failure)).reachable? = some false := if_pos hf
    have h := s.connects_observe hreach rfl
    rw [if_pos hf]
    exact ⟨h.liveness, h.changes, h.fetches⟩
  · rw [if_neg hf]
    exact connects_of_neutral ⟨rfl, rfl, rfl⟩ (if_neg hf) rfl

lemma connects_sent (purpose : SendPurpose) (failure : Option Failure) :
    (s.sent purpose failure).Connects s (.completion (.sent purpose failure)) := by
  unfold sent
  cases failure with
  | some failure => cases purpose <;> exact connects_of_neutral (s.idle_tell _ _).neutral rfl rfl
  | none =>
    cases purpose with
    | compose | emoji =>
      refine connects_of_neutral ?_ rfl rfl
      exact ⟨rfl, rfl, rfl⟩
    | block intent =>
      refine ⟨rfl, (if_pos rfl).symm, ?_⟩
      rw [if_neg (not_comesBack_self _)]
      rfl

/-- What every turn does to the connection. -/
theorem connects_turn (input : Input) : (s.turn input).Connects s input := by
  cases input with
  | command command => exact connects_of_neutral (s.neutral_command command) rfl rfl
  | completion completion =>
    cases completion with
    | fetched seq forced snapshot => exact connects_of_neutral (s.neutral_fetched seq forced snapshot) rfl rfl
    | fetchFailed resource failure => exact s.connects_fetchFailed resource failure
    | probed failure => exact s.connects_observe rfl rfl
    | sent purpose failure => exact s.connects_sent purpose failure
    | fileOffered path target failure =>
      exact connects_of_neutral (s.idle_fileOffered path target failure).neutral rfl rfl
    | responded response failure => exact connects_of_neutral (s.neutral_responded response failure) rfl rfl

/-! ### Counting -/

/-- How often a session asks for each resource by itself when the service came back so many times and so many changes of
the block list were sent. -/
def refreshes (returned sent : Nat) : PerResource Nat where
  messages := returned
  roster := returned + sent
  transfers := 0
  blockList := sent

lemma get_refreshes_add (returned sent returned' sent' : Nat) (resource : Resource) :
    (refreshes (returned + returned') (sent + sent')).get resource =
      (refreshes returned sent).get resource + (refreshes returned' sent').get resource := by
  cases resource with
  | roster => exact Nat.add_add_add_comm _ _ _ _
  | messages | transfers | blockList => rfl

lemma count_fetch_turn (input : Input) (resource : Resource) :
    (s.turn input).requests.count (.fetch resource true) =
      (refreshes (if ComesBack s.liveness (s.turn input).session.liveness then 1 else 0)
        (if input.isBlockSent then 1 else 0)).get resource := by
  have hfilter : ((s.turn input).requests.filter Request.isFetch).count (.fetch resource true) =
      (s.turn input).requests.count (.fetch resource true) := List.count_filter rfl
  rw [← hfilter, (s.connects_turn input).fetches, List.count_append]
  cases resource <;> split <;> split <;> rfl

lemma returns_concat_disconnected (changes : List Liveness) :
    returns (changes ++ [.disconnected]) = returns changes := by
  induction changes with
  | nil => rfl
  | cons change changes ih =>
    cases change with
    | connected => exact ih
    | disconnected =>
      show (Liveness.disconnected :: (changes ++ [_])).count _ = (Liveness.disconnected :: changes).count _
      simp

/-- A change to connected is a return if the service was not there at some time before. -/
lemma returns_concat_connected (changes : List Liveness) :
    returns (changes ++ [.connected]) = returns changes + if .disconnected ∈ changes then 1 else 0 := by
  induction changes with
  | nil => rfl
  | cons change changes ih =>
    cases change with
    | connected =>
      have hmem : .disconnected ∈ Liveness.connected :: changes ↔ .disconnected ∈ changes := by simp
      simp only [hmem]
      exact ih
    | disconnected =>
      rw [if_pos List.mem_cons_self]
      show (Liveness.disconnected :: (changes ++ [_])).count _ = (Liveness.disconnected :: changes).count _ + 1
      simp

/-! ### Runs -/

lemma changes_run_concat (s : Session) (inputs : List Input) (input : Input) :
    changes (s.run (inputs ++ [input])).events =
      changes (s.run inputs).events ++ changes ((s.run inputs).session.turn input).events := by
  rw [run_concat]
  exact List.filterMap_append

/-- A turn changes the liveness to one that is known, and reports it, or leaves it. -/
lemma turn_liveness_cases (input : Input) :
    ((s.turn input).session.liveness = s.liveness ∧ changes (s.turn input).events = []) ∨
      ∃ next, s.liveness ≠ some next ∧ (s.turn input).session.liveness = some next ∧
        changes (s.turn input).events = [next] := by
  have h := s.connects_turn input
  by_cases heq : (s.turn input).session.liveness = s.liveness
  · exact Or.inl ⟨heq, by rw [h.changes, if_pos heq]⟩
  · cases hnext : (s.turn input).session.liveness with
    | none =>
      have hnone := h.liveness
      rw [hnext] at heq hnone
      exact absurd (Option.or_eq_none_iff.1 hnone.symm).2.symm heq
    | some next =>
      rw [hnext] at heq
      refine Or.inr ⟨next, Ne.symm heq, rfl, ?_⟩
      rw [h.changes, hnext, if_neg heq]
      rfl

lemma liveness_run (inputs : List Input) :
    (empty.run inputs).session.liveness = (changes (empty.run inputs).events).getLast? := by
  induction inputs using List.reverseRecOn with
  | nil => rfl
  | append_singleton inputs input ih =>
    rw [changes_run_concat, run_concat]
    show ((empty.run inputs).session.turn input).session.liveness = _
    rcases turn_liveness_cases (empty.run inputs).session input with ⟨hsame, hchanges⟩ | ⟨next, -, hnext, hchanges⟩
    · rw [hsame, hchanges, List.append_nil, ih]
    · rw [hnext, hchanges, List.getLast?_concat]

lemma isChain_changes_run (inputs : List Input) : (changes (empty.run inputs).events).IsChain (· ≠ ·) := by
  induction inputs using List.reverseRecOn with
  | nil => exact List.IsChain.nil
  | append_singleton inputs input ih =>
    rw [changes_run_concat]
    rcases turn_liveness_cases (empty.run inputs).session input with ⟨-, hchanges⟩ | ⟨next, hne, -, hchanges⟩
    · rwa [hchanges, List.append_nil]
    · rw [hchanges, List.isChain_append]
      refine ⟨ih, List.IsChain.singleton _, ?_⟩
      intro last hlast change hchange heq
      rw [liveness_run] at hne
      cases hchange
      exact hne (heq ▸ hlast)

lemma returns_run_concat (inputs : List Input) (input : Input) :
    returns (changes (empty.run (inputs ++ [input])).events) =
      returns (changes (empty.run inputs).events) +
        if ComesBack (empty.run inputs).session.liveness ((empty.run inputs).session.turn input).session.liveness
        then 1 else 0 := by
  have hlast := liveness_run inputs
  rw [changes_run_concat]
  rcases turn_liveness_cases (empty.run inputs).session input with ⟨hsame, hchanges⟩ | ⟨next, hne, hnext, hchanges⟩
  · rw [hchanges, hsame, if_neg (not_comesBack_self _), List.append_nil, Nat.add_zero]
  · rw [hchanges, hnext]
    cases next with
    | disconnected =>
      have hno : ¬ComesBack (empty.run inputs).session.liveness (some .disconnected) := fun h => nomatch h.2
      rw [returns_concat_disconnected, if_neg hno]
      rfl
    | connected =>
      rw [returns_concat_connected]
      cases hbefore : (empty.run inputs).session.liveness with
      | none =>
        -- nothing was reported so far
        rw [hbefore] at hlast
        rw [List.getLast?_eq_none_iff.1 hlast.symm]
        rfl
      | some before =>
        cases before with
        | connected => exact absurd hbefore hne
        | disconnected =>
          rw [hbefore] at hlast
          rw [if_pos (List.mem_of_getLast? hlast.symm), if_pos ⟨rfl, rfl⟩]

/-- How often each resource was asked for by force. -/
theorem count_fetch_run (inputs : List Input) (resource : Resource) :
    (empty.run inputs).requests.count (.fetch resource true) =
      (refreshes (returns (changes (empty.run inputs).events)) (inputs.countP Input.isBlockSent)).get resource := by
  induction inputs using List.reverseRecOn with
  | nil => cases resource <;> rfl
  | append_singleton inputs input ih =>
    rw [returns_run_concat, List.countP_append, List.countP_singleton, get_refreshes_add, ← ih, ← count_fetch_turn,
      ← List.count_append, run_concat]
    rfl

lemma forced_of_mem_pair {asked : Prop} [Decidable asked] {first second resource : Resource} {forced : Bool}
    (h : .fetch resource forced ∈ if asked then [Request.fetch first true, .fetch second true] else []) :
    forced = true := by
  split at h
  · have hpair : resource = first ∧ forced = true ∨ resource = second ∧ forced = true := by simpa using h
    rcases hpair with ⟨-, hforced⟩ | ⟨-, hforced⟩ <;> exact hforced
  · exact absurd h List.not_mem_nil

lemma forced_of_mem_turn (input : Input) {resource : Resource} {forced : Bool}
    (h : .fetch resource forced ∈ (s.turn input).requests) : forced = true := by
  have hmem : .fetch resource forced ∈ (s.turn input).requests.filter Request.isFetch := List.mem_filter.2 ⟨h, rfl⟩
  rw [(s.connects_turn input).fetches, List.mem_append] at hmem
  exact hmem.elim forced_of_mem_pair forced_of_mem_pair

lemma forced_of_mem_run (inputs : List Input) {resource : Resource} {forced : Bool}
    (h : .fetch resource forced ∈ (empty.run inputs).requests) : forced = true := by
  induction inputs using List.reverseRecOn with
  | nil => exact absurd h List.not_mem_nil
  | append_singleton inputs input ih =>
    rw [run_concat] at h
    rcases List.mem_append.1 h with h | h
    · exact ih h
    · exact forced_of_mem_turn _ input h

/-! ### What brings a change about -/

lemma reachable_of_liveness_ne {input : Input} {next : Liveness}
    (hnext : (s.turn input).session.liveness = some next) (hne : s.liveness ≠ some next) :
    ∃ reachable, input.reachable? = some reachable ∧ Liveness.ofReachable reachable = next := by
  have h := (s.connects_turn input).liveness
  rw [hnext] at h
  cases hr : input.reachable? with
  | none =>
    rw [hr] at h
    exact absurd h.symm hne
  | some reachable =>
    rw [hr] at h
    exact ⟨reachable, rfl, (Option.some_inj.1 h).symm⟩

lemma eq_of_reachable {input : Input} (h : input.reachable? = some true) : input = .completion (.probed none) := by
  cases input with
  | command => exact nomatch h
  | completion completion =>
    cases completion with
    | probed failure =>
      cases failure with
      | none => rfl
      | some failure => exact nomatch h
    | fetchFailed resource failure =>
      have hif : (if failure.isUnreachable then some false else none) = some true := h
      split at hif
      · exact nomatch hif
      · exact nomatch hif
    | fetched | sent | fileOffered | responded => exact nomatch h

lemma eq_of_unreachable {input : Input} (h : input.reachable? = some false) :
    (∃ failure, input = .completion (.probed (some failure))) ∨
      (∃ resource reason, input = .completion (.fetchFailed resource (.transport reason))) ∨
      ∃ resource path code, input = .completion (.fetchFailed resource (.status path code)) := by
  cases input with
  | command => exact nomatch h
  | completion completion =>
    cases completion with
    | probed failure =>
      cases failure with
      | none => exact nomatch h
      | some failure => exact Or.inl ⟨failure, rfl⟩
    | fetchFailed resource failure =>
      cases failure with
      | transport reason => exact Or.inr (Or.inl ⟨resource, reason, rfl⟩)
      | status path code => exact Or.inr (Or.inr ⟨resource, path, code, rfl⟩)
      | malformed | invalidUrl | unreadable | fileTooLarge => exact nomatch h
    | fetched | sent | fileOffered | responded => exact nomatch h

/-- What holds of the connection after a run, and in any turn that follows it. -/
structure Connection (inputs : List Input) : Prop where
  /-- The changes that are reported go from connected to disconnected and back. -/
  alternates : (changes (empty.run inputs).events).IsChain (· ≠ ·)
  /-- A turn reports the liveness that it leaves, if it was another one before. -/
  reported (input : Input) :
    changes ((empty.run inputs).session.turn input).events =
      if ((empty.run inputs).session.turn input).session.liveness = (empty.run inputs).session.liveness then []
      else ((empty.run inputs).session.turn input).session.liveness.toList
  /-- Only a probe that succeeds connects. -/
  connected (input : Input) :
    ((empty.run inputs).session.turn input).session.liveness = some .connected →
      (empty.run inputs).session.liveness ≠ some .connected → input = .completion (.probed none)
  /-- Only a probe that fails disconnects, or a fetch that was not answered or was refused. -/
  disconnected (input : Input) :
    ((empty.run inputs).session.turn input).session.liveness = some .disconnected →
      (empty.run inputs).session.liveness ≠ some .disconnected →
        (∃ failure, input = .completion (.probed (some failure))) ∨
          (∃ resource reason, input = .completion (.fetchFailed resource (.transport reason))) ∨
          ∃ resource path code, input = .completion (.fetchFailed resource (.status path code))
  /-- A session asks for nothing by itself but by force. -/
  forced (resource : Resource) (forced : Bool) :
    .fetch resource forced ∈ (empty.run inputs).requests → forced = true
  /-- The messages are asked for once for each return of the service. -/
  messages :
    (empty.run inputs).requests.count (.fetch .messages true) = returns (changes (empty.run inputs).events)
  /-- The block list is asked for once for each change of it that was sent. -/
  blockList : (empty.run inputs).requests.count (.fetch .blockList true) = inputs.countP Input.isBlockSent
  /-- The roster is asked for on both occasions. -/
  roster : (empty.run inputs).requests.count (.fetch .roster true) =
    returns (changes (empty.run inputs).events) + inputs.countP Input.isBlockSent
  /-- The transfer queue is never asked for. -/
  transfers : (empty.run inputs).requests.count (.fetch .transfers true) = 0
  /-- The end of a fetch asks for nothing. -/
  fetched (seq : Nat) (forced : Bool) (snapshot : Snapshot) :
    ((empty.run inputs).session.turn (.completion (.fetched seq forced snapshot))).requests = []
  fetchFailed (resource : Resource) (failure : Failure) :
    ((empty.run inputs).session.turn (.completion (.fetchFailed resource failure))).requests = []

/-- **The connection over whole runs**: its changes alternate, only probes and fetches that did not reach the service
bring them about, and each return of the service and each change of the block list is followed by just its refreshes,
which lead to no more. -/
theorem connection_run (inputs : List Input) : Connection inputs where
  alternates := isChain_changes_run inputs
  reported input := (connects_turn _ input).changes
  connected input hafter hbefore := by
    obtain ⟨reachable, hr, hconnected⟩ := reachable_of_liveness_ne _ hafter hbefore
    cases reachable with
    | true => exact eq_of_reachable hr
    | false => exact nomatch hconnected
  disconnected input hafter hbefore := by
    obtain ⟨reachable, hr, hdisconnected⟩ := reachable_of_liveness_ne _ hafter hbefore
    cases reachable with
    | true => exact nomatch hdisconnected
    | false => exact eq_of_unreachable hr
  forced _ _ h := forced_of_mem_run inputs h
  messages := count_fetch_run inputs .messages
  blockList := count_fetch_run inputs .blockList
  roster := count_fetch_run inputs .roster
  transfers := count_fetch_run inputs .transfers
  fetched := requests_fetched _
  fetchFailed := requests_fetchFailed _

end Session

end PeerChat
