import PeerChat.Proofs.Session.Idle
import PeerChat.Proofs.Session.Run
import PeerChat.Proofs.Transfer.Lifecycle

/-!
What a session does to its prompts. Every turn is a row of acts on offers, each of which is brought about by what the
session is told in it; the prompts that open and close before the user, and the answers that are sent, are those of the
acts.

* `exists_row_turn`: every turn is a row of acts that its input brings about;
* `exists_row_run`: so is every run.
-/

namespace PeerChat

open Transfer (Act Offer Prompt Prompts PromptUpdate Response)

/-- What the user sees of an act: a prompt closes by its answer as well as by being withdrawn. -/
def Transfer.Act.event? : Act → Option Event
  | raise prompt => some (.promptOpened prompt)
  | withdraw fileId => some (.promptClosed fileId)
  | answer response => some (.promptClosed response.fileId)
  | settle _ _ => none

lemma Transfer.Act.event?_of_response?_eq_none {a : Act} (h : a.response? = none) :
    a.event? = a.update?.map Event.ofPromptUpdate := by
  cases a with
  | answer response => exact nomatch h
  | raise | withdraw | settle => rfl

namespace Session

/-- What a session is told brings an act about: a queue that is taken raises prompts, and withdraws those of offers that
do not wait in it; the user answers the open prompt; and the end of an answer settles it. -/
inductive Brings (s : Session) : Input → Act → Prop
  | raise {seq : Nat} {forced : Bool} {queue : List Offer} (fresh : s.store.isStale .transfers seq = false)
      (prompt : Prompt) : Brings s (.completion (.fetched seq forced (.transfers queue))) (.raise prompt)
  | withdraw {seq : Nat} {forced : Bool} {queue : List Offer} (fresh : s.store.isStale .transfers seq = false)
      {fileId : FileId} (gone : ∀ offer ∈ queue, offer.fileId = fileId → offer.isPendingInbound = false) :
      Brings s (.completion (.fetched seq forced (.transfers queue))) (.withdraw fileId)
  | answer {command : Command} {response : Response}
      (isOpen : s.prompts.current.map (·.fileId) = some response.fileId) :
      Brings s (.command command) (.answer response)
  | settle (response : Response) (failure : Option Failure) (accepted : Bool) :
      Brings s (.completion (.responded response failure)) (.settle ⟨response.fileId, accepted⟩ failure.isNone)

end Session

/-- The turn leads the prompts of `s` along the row of acts, and shows and asks for what these show and ask for. -/
structure Turn.Row (turn : Turn) (s : Session) (acts : List Act) : Prop where
  path : s.prompts.Path acts turn.session.prompts
  shown : turn.events.filter Event.isPrompt = acts.filterMap Act.event?
  asked : turn.requests.filterMap Request.response? = acts.filterMap Act.response?

lemma Turn.Spares.row {turn : Turn} {s : Session} (h : turn.Spares s) : turn.Row s [] where
  path := by rw [h.prompts]; exact .nil
  shown := h.shown
  asked := h.asked

lemma Turn.Spares.exists_row {turn : Turn} {s : Session} (h : turn.Spares s) (input : Session.Input) :
    ∃ acts, turn.Row s acts ∧ ∀ a ∈ acts, s.Brings input a :=
  ⟨[], h.row, by simp⟩

namespace Session

variable (s : Session)

/-! ### Turns that spare the prompts -/

lemma spares_observe (reachable : Bool) : (s.observe reachable).Spares s := by
  unfold observe
  split
  · exact ⟨rfl, rfl, rfl⟩
  · refine ⟨rfl, rfl, ?_⟩
    split <;> rfl

lemma spares_fetchFailed (resource : Resource) (failure : Failure) : (s.fetchFailed resource failure).Spares s := by
  unfold fetchFailed
  split
  · have h := s.spares_observe false
    exact ⟨h.prompts, h.shown, h.asked⟩
  · exact ⟨rfl, rfl, rfl⟩

lemma spares_sent (purpose : SendPurpose) (failure : Option Failure) : (s.sent purpose failure).Spares s := by
  unfold sent
  split <;> exact ⟨rfl, rfl, rfl⟩

variable {s}

/-! ### Turns that act on offers -/

lemma exists_row_respondTo (hp : s.prompts.Sound) (command : Command) (fileId : FileId) (accepted : Bool) :
    ∃ acts, (s.respondTo fileId accepted).Row s acts ∧ ∀ a ∈ acts, s.Brings (.command command) a := by
  unfold respondTo Prompts.respondTo
  by_cases h : s.prompts.state? fileId = some .prompted
  · rw [if_pos h]
    have hopen : s.prompts.current.map (·.fileId) = some fileId := (hp.prompted_iff fileId).1 h
    have hallows : s.prompts.Allows (.answer ⟨fileId, accepted⟩) := h
    refine ⟨[.answer ⟨fileId, accepted⟩], ⟨.single hallows, ?_, rfl⟩, ?_⟩
    · obtain ⟨prompt, hprompt, rfl⟩ := Option.map_eq_some_iff.1 hopen
      simp [hprompt, Event.isPrompt, Act.event?]
    · intro a ha
      obtain rfl := List.mem_singleton.1 ha
      exact .answer hopen
  · rw [if_neg h]
    exact (s.idle_tell _ _).spares.exists_row _

/-- Acts that send no answer are seen as the updates that they bring. -/
lemma filterMap_event? {acts : List Act} (h : acts.filterMap Act.response? = []) :
    acts.filterMap Act.event? = (acts.filterMap Act.update?).map Event.ofPromptUpdate := by
  rw [List.map_filterMap]
  refine List.filterMap_congr fun a ha => Act.event?_of_response?_eq_none ?_
  exact List.filterMap_eq_nil_iff.1 h a ha

lemma filter_isPrompt_map (updates : List PromptUpdate) :
    (updates.map Event.ofPromptUpdate).filter Event.isPrompt = updates.map Event.ofPromptUpdate := by
  refine List.filter_eq_self.2 fun event hevent => ?_
  obtain ⟨update, -, rfl⟩ := List.mem_map.1 hevent
  cases update <;> rfl

lemma exists_row_fetched_transfers (hp : s.prompts.Sound) {seq : Nat} {forced : Bool} {queue : List Offer}
    (fresh : s.store.isStale .transfers seq = false) :
    ∃ acts, (s.fetched seq forced (.transfers queue)).Row s acts ∧
      ∀ a ∈ acts, s.Brings (.completion (.fetched seq forced (.transfers queue))) a := by
  obtain ⟨acts, hacts, hlook⟩ := Prompts.carries_scan hp queue
  rw [fetched_transfers fresh]
  refine ⟨acts, ⟨hacts.path, ?_, hacts.responses⟩, fun a ha => ?_⟩
  · show ((s.prompts.scan queue).2.map _).filter _ = _
    rw [filter_isPrompt_map, filterMap_event? hacts.responses.symm]
    exact congrArg _ hacts.updates
  · cases hlook a ha with
    | raise prompt => exact .raise fresh prompt
    | withdraw gone => exact .withdraw fresh gone

lemma exists_row_responded (response : Response) (failure : Option Failure) :
    ∃ acts, (s.responded response failure).Row s acts ∧
      ∀ a ∈ acts, s.Brings (.completion (.responded response failure)) a := by
  obtain ⟨acts, hacts, hsettle⟩ := Prompts.carries_complete s.prompts response.fileId failure.isNone
  have hshown : acts.filterMap Act.event? = [] := by
    rw [filterMap_event? hacts.responses.symm, ← hacts.updates]
    rfl
  refine ⟨acts, ?_, fun a ha => ?_⟩
  · unfold responded
    split
    · exact ⟨hacts.path, hshown.symm, hacts.responses⟩
    · exact ⟨hacts.path, hshown.symm, hacts.responses⟩
  · obtain ⟨accepted, rfl⟩ := hsettle a ha
    exact .settle response failure accepted

/-! ### Turns and runs -/

/-- **Every turn is a row of acts**, each of which is brought about by what the session is told. -/
theorem exists_row_turn (hp : s.prompts.Sound) (input : Input) :
    ∃ acts, (s.turn input).Row s acts ∧ ∀ a ∈ acts, s.Brings input a := by
  cases input with
  | command command =>
    cases hanswer : command.isAnswer with
    | false => exact (idle_command hanswer).spares.exists_row _
    | true =>
      unfold turn Session.command
      cases command with
      | respondToPrompt accepted =>
        cases s.prompts.current with
        | some prompt => exact exists_row_respondTo hp _ prompt.fileId accepted
        | none => exact (s.idle_tell _ _).spares.exists_row _
      | respondToOffer response => exact exists_row_respondTo hp _ response.fileId response.accepted
      | switchConversation | updateDraft | submitDraft | sendEmoji | toggleBlock | setBlocked | sendFile | shutdown =>
        exact nomatch hanswer
  | completion completion =>
    cases completion with
    | fetched seq forced snapshot =>
      rcases idle_fetched_or_transfers seq forced snapshot with hidle | ⟨queue, rfl, fresh⟩
      · exact hidle.spares.exists_row _
      · exact exists_row_fetched_transfers hp fresh
    | fetchFailed resource failure => exact (s.spares_fetchFailed resource failure).exists_row _
    | probed failure => exact (s.spares_observe failure.isNone).exists_row _
    | sent purpose failure => exact (s.spares_sent purpose failure).exists_row _
    | fileOffered path target failure => exact (s.idle_fileOffered path target failure).spares.exists_row _
    | responded response failure => exact exists_row_responded response failure

/-- Every run is a row of acts. -/
theorem exists_row_run (inputs : List Input) : ∃ acts, (empty.run inputs).Row empty acts := by
  induction inputs using List.reverseRecOn with
  | nil => exact ⟨[], .nil, rfl, rfl⟩
  | append_singleton inputs input ih =>
    obtain ⟨acts, hacts⟩ := ih
    obtain ⟨more, hmore, -⟩ := exists_row_turn (Prompts.sound_path hacts.path Prompts.sound_empty) input
    refine ⟨acts ++ more, ?_⟩
    rw [run_concat]
    constructor
    · exact hacts.path.append hmore.path
    · show (_ ++ _ : List Event).filter _ = _
      rw [List.filter_append, hacts.shown, hmore.shown, List.filterMap_append]
    · show (_ ++ _ : List Request).filterMap _ = _
      rw [List.filterMap_append, hacts.asked, hmore.asked, List.filterMap_append]

lemma sound_run (inputs : List Input) : (empty.run inputs).session.prompts.Sound := by
  obtain ⟨acts, hacts⟩ := exists_row_run inputs
  exact Prompts.sound_path hacts.path Prompts.sound_empty

end Session

end PeerChat
