import PeerChat.Proofs.Session.PromptActs

/-!
The dialogue about file offers, as it is seen from outside of a session: the prompts that open and close among its
events, and the answers among its requests.

* `exists_closed`: along acts, each prompt is closed before the next is opened;
* `dialogue_run`: what is seen of the prompts, in any run and in each of its turns.
-/

namespace PeerChat

open Transfer (Act Offer Prompt Prompts Response)

/-- A prompt is opened, and closed again. -/
def Transfer.Prompt.openedAndClosed (prompt : Prompt) : List Event :=
  [.promptOpened prompt, .promptClosed prompt.fileId]

namespace Session

/-! ### Along acts -/

/-- Of the prompts that acts have raised, all but the open one were closed, each before the next was raised. -/
def Closes (acts : List Act) (current : Option Prompt) (closed : List Prompt) : Prop :=
  acts.filterMap Act.event? = closed.flatMap Prompt.openedAndClosed ++ current.toList.map .promptOpened ∧
    acts.filterMap Act.raised? = closed ++ current.toList

section Closes

variable {acts : List Act} {closed : List Prompt} {prompt : Prompt}

lemma Closes.raise (h : Closes acts none closed) : Closes (acts ++ [.raise prompt]) (some prompt) closed := by
  obtain ⟨hevents, hraised⟩ := h
  constructor
  · rw [List.filterMap_append, hevents]
    simp [Act.event?]
  · rw [List.filterMap_append, hraised]
    simp [Act.raised?]

lemma Closes.close (h : Closes acts (some prompt) closed) {a : Act}
    (hevent : a.event? = some (.promptClosed prompt.fileId)) (hraised : a.raised? = none) :
    Closes (acts ++ [a]) none (closed ++ [prompt]) := by
  obtain ⟨hevents, hbefore⟩ := h
  constructor
  · rw [List.filterMap_append, hevents]
    simp [hevent, Prompt.openedAndClosed]
  · rw [List.filterMap_append, hbefore]
    simp [hraised]

lemma Closes.settle {current : Option Prompt} (h : Closes acts current closed) (response : Response)
    (succeeded : Bool) : Closes (acts ++ [.settle response succeeded]) current closed := by
  obtain ⟨hevents, hraised⟩ := h
  constructor
  · rw [List.filterMap_append, hevents]
    simp [Act.event?]
  · rw [List.filterMap_append, hraised]
    simp [Act.raised?]

end Closes

lemma exists_closed {acts : List Act} {q : Prompts} (h : Prompts.empty.Path acts q) :
    ∃ closed, Closes acts q.current closed := by
  induction h with
  | nil => exact ⟨[], rfl, rfl⟩
  | @concat acts q a hpath ha ih =>
    obtain ⟨closed, hclosed⟩ := ih
    cases a with
    | raise prompt =>
      rw [show q.current = none from ha.1] at hclosed
      exact ⟨closed, hclosed.raise⟩
    | withdraw fileId =>
      obtain ⟨prompt, hprompt, rfl⟩ := Option.map_eq_some_iff.1 ha
      rw [hprompt] at hclosed
      exact ⟨closed ++ [prompt], hclosed.close rfl rfl⟩
    | answer response =>
      have hopen := ((Prompts.sound_path hpath Prompts.sound_empty).prompted_iff response.fileId).1 ha
      obtain ⟨prompt, hprompt, hid⟩ := Option.map_eq_some_iff.1 hopen
      have hnone : (q.act (.answer response)).current = none := by
        show q.current.filter _ = none
        simp [hprompt, hid, Option.filter_some]
      rw [hprompt] at hclosed
      rw [hnone]
      exact ⟨closed ++ [prompt], hclosed.close (by rw [hid]; rfl) rfl⟩
    | settle response succeeded => exact ⟨closed, hclosed.settle response succeeded⟩

/-! ### In one turn -/

section Turn

variable {s : Session} {input : Input}

lemma mem_requests_iff {turn : Turn} {acts : List Act} (h : turn.Row s acts) {response : Response} :
    .respond response ∈ turn.requests ↔ .answer response ∈ acts := by
  have hrequest : .respond response ∈ turn.requests ↔ response ∈ turn.requests.filterMap Request.response? := by
    refine ⟨fun hmem => List.mem_filterMap.2 ⟨_, hmem, rfl⟩, fun hmem => ?_⟩
    obtain ⟨request, hrequest, heq⟩ := List.mem_filterMap.1 hmem
    cases request with
    | respond given => exact Option.some_inj.1 heq ▸ hrequest
    | fetch | probe | sendText | sendFile => exact nomatch heq
  rw [hrequest, h.asked]
  refine ⟨fun hmem => ?_, fun hmem => List.mem_filterMap.2 ⟨_, hmem, rfl⟩⟩
  obtain ⟨a, ha, heq⟩ := List.mem_filterMap.1 hmem
  cases a with
  | answer given => exact Option.some_inj.1 heq ▸ ha
  | raise | withdraw | settle => exact nomatch heq

lemma promptClosed_mem_iff {turn : Turn} {acts : List Act} (h : turn.Row s acts) {fileId : FileId} :
    .promptClosed fileId ∈ turn.events ↔ ∃ a ∈ acts, a.event? = some (.promptClosed fileId) := by
  have hevent : .promptClosed fileId ∈ turn.events ↔ .promptClosed fileId ∈ turn.events.filter Event.isPrompt := by
    rw [List.mem_filter]
    exact (and_iff_left rfl).symm
  rw [hevent, h.shown, List.mem_filterMap]

/-- An answer is sent only while the prompt of its offer is the open one, and in the turn that closes this prompt. -/
lemma closed_of_answered (hp : s.prompts.Sound) {response : Response}
    (h : .respond response ∈ (s.turn input).requests) :
    s.prompts.current.map (·.fileId) = some response.fileId ∧
      .promptClosed response.fileId ∈ (s.turn input).events := by
  obtain ⟨acts, hrow, hbrings⟩ := exists_row_turn hp input
  have hmem : .answer response ∈ acts := (mem_requests_iff hrow).1 h
  refine ⟨?_, (promptClosed_mem_iff hrow).2 ⟨_, hmem, rfl⟩⟩
  cases hbrings _ hmem with
  | answer isOpen => exact isOpen

/-- A prompt that closes without an answer does so because a queue was taken in which its offer does not wait. -/
lemma withdrawn_of_not_answered (hp : s.prompts.Sound) {fileId : FileId}
    (h : .promptClosed fileId ∈ (s.turn input).events)
    (hanswer : ∀ accepted, .respond ⟨fileId, accepted⟩ ∉ (s.turn input).requests) :
    ∃ seq forced queue, input = .completion (.fetched seq forced (.transfers queue)) ∧
      s.store.isStale .transfers seq = false ∧
      ∀ offer ∈ queue, offer.fileId = fileId → offer.isPendingInbound = false := by
  obtain ⟨acts, hrow, hbrings⟩ := exists_row_turn hp input
  obtain ⟨a, ha, hevent⟩ := (promptClosed_mem_iff hrow).1 h
  cases a with
  | raise | settle => exact nomatch hevent
  | answer response =>
    obtain rfl : response.fileId = fileId := by simpa [Act.event?] using hevent
    exact absurd ((mem_requests_iff hrow).2 ha) (hanswer response.accepted)
  | withdraw withdrawn =>
    obtain rfl : withdrawn = fileId := by simpa [Act.event?] using hevent
    cases hbrings _ ha with
    | withdraw fresh gone => exact ⟨_, _, _, rfl, fresh, gone⟩

end Turn

/-! ### In a run -/

/-- What is seen of the prompts in a run, and in any turn that follows it. -/
structure Dialogue (inputs : List Input) : Prop where
  /-- Openings and closings alternate, beginning with an opening; a closing is that of the prompt opened just before,
  and no offer is put to the user twice. -/
  alternates : ∃ closed : List Prompt,
    (empty.run inputs).events.filter Event.isPrompt =
        closed.flatMap Prompt.openedAndClosed ++
          (empty.run inputs).session.prompts.current.toList.map .promptOpened ∧
      ((closed ++ (empty.run inputs).session.prompts.current.toList).map (·.fileId)).Nodup
  /-- No offer is answered twice. -/
  answered_once : (((empty.run inputs).requests.filterMap Request.response?).map (·.fileId)).Nodup
  /-- An answer goes out while the prompt of its offer is open, and closes it. -/
  answered (input : Input) (response : Response) :
    .respond response ∈ ((empty.run inputs).session.turn input).requests →
      (empty.run inputs).session.prompts.current.map (·.fileId) = some response.fileId ∧
        .promptClosed response.fileId ∈ ((empty.run inputs).session.turn input).events
  /-- Any other closing comes with a queue that is taken and in which the offer does not wait. -/
  withdrawn (input : Input) (fileId : FileId) :
    .promptClosed fileId ∈ ((empty.run inputs).session.turn input).events →
      (∀ accepted, .respond ⟨fileId, accepted⟩ ∉ ((empty.run inputs).session.turn input).requests) →
        ∃ seq forced queue, input = .completion (.fetched seq forced (.transfers queue)) ∧
          (empty.run inputs).session.store.isStale .transfers seq = false ∧
          ∀ offer ∈ queue, offer.fileId = fileId → offer.isPendingInbound = false

/-- **The dialogue is well kept in every run**: one prompt at a time, each offer put to the user once, answered at most
once and only while it is asked about, and otherwise closed only because the offer no longer waits. -/
theorem dialogue_run (inputs : List Input) : Dialogue inputs := by
  obtain ⟨acts, hrow⟩ := exists_row_run inputs
  obtain ⟨closed, hevents, hraised⟩ := exists_closed hrow.path
  constructor
  · refine ⟨closed, hrow.shown.trans hevents, ?_⟩
    rw [← hraised]
    exact Prompts.nodup_path_raised hrow.path
  · rw [hrow.asked]
    exact Prompts.nodup_path_answered hrow.path
  · exact fun input response => closed_of_answered (sound_run inputs)
  · exact fun input fileId => withdrawn_of_not_answered (sound_run inputs)

end Session

end PeerChat
