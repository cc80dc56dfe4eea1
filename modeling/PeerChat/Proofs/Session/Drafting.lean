import PeerChat.Proofs.Session.Connection
import PeerChat.Proofs.Session.Frame

/-!
The draft over whole runs. Typing replaces it, and two things throw it away: a switch of the conversation, and a
message that was sent. A message that was sent throws away the draft that there is by then, and not only the one that it
carried.

* `draft_run`: after a run, the draft is what the last input left that touched it;
* `drafting_run`: what becomes of a text from when it is typed until a message was sent;
* `later_draft_is_cleared`: so a text is lost that was typed while an earlier one was on its way.
-/

namespace PeerChat.Session

variable (s : Session)

/-! ### What a send carries -/

lemma gate_of_composed_send {content : Content} {purpose : SendPurpose} {text : String}
    (h : .sendText text .compose ∈ (s.send content purpose).requests) :
    purpose = .compose ∧ gate s.conversation s.store.blocked content = .ok text := by
  unfold send at h
  split at h
  · next sent hgate =>
    obtain ⟨rfl, rfl⟩ := Request.sendText.inj (List.mem_singleton.1 h)
    exact ⟨rfl, hgate⟩
  · exact absurd h List.not_mem_nil

lemma not_composed_respondTo {fileId : FileId} {accepted : Bool} {text : String} :
    .sendText text .compose ∉ (s.respondTo fileId accepted).requests := by
  unfold respondTo
  split
  · intro h
    exact nomatch List.mem_singleton.1 h
  · exact List.not_mem_nil

lemma not_composed_observe {reachable : Bool} {text : String} :
    .sendText text .compose ∉ (s.observe reachable).requests := by
  unfold observe
  split
  · exact List.not_mem_nil
  · show _ ∉ (if _ then _ else _ : List Request)
    split <;> simp

lemma not_composed_complete {completion : Completion} {text : String} :
    .sendText text .compose ∉ (s.complete completion).requests := by
  cases completion with
  | fetched seq forced snapshot =>
    show _ ∉ (s.fetched seq forced snapshot).requests
    rw [s.requests_fetched]
    exact List.not_mem_nil
  | fetchFailed resource failure =>
    show _ ∉ (s.fetchFailed resource failure).requests
    rw [s.requests_fetchFailed]
    exact List.not_mem_nil
  | probed failure => exact s.not_composed_observe
  | sent purpose failure => cases failure <;> cases purpose <;> simp [complete, sent, tell]
  | fileOffered path target failure => cases failure <;> exact List.not_mem_nil
  | responded response failure => cases failure <;> exact List.not_mem_nil

variable {s}

/-- A message is composed only by submitting the draft, and what leaves is the draft as the gate lets it out. -/
lemma gate_of_composed {input : Input} {text : String} (h : .sendText text .compose ∈ (s.turn input).requests) :
    input = .command .submitDraft ∧ gate s.conversation s.store.blocked (.text s.draft.text) = .ok text := by
  cases input with
  | completion completion => exact absurd h s.not_composed_complete
  | command command =>
    unfold turn Session.command at h
    cases command with
    | submitDraft => exact ⟨rfl, (s.gate_of_composed_send h).2⟩
    | sendEmoji id => exact nomatch (s.gate_of_composed_send h).1
    | respondToPrompt accepted =>
      cases hc : s.prompts.current with
      | none =>
        rw [hc] at h
        exact absurd h List.not_mem_nil
      | some prompt =>
        rw [hc] at h
        exact absurd h s.not_composed_respondTo
    | respondToOffer response => exact absurd h s.not_composed_respondTo
    | toggleBlock | setBlocked => exact nomatch List.mem_singleton.1 h
    | sendFile path target =>
      by_cases hblank : Text.isAllBlank target
      · simp [hblank, tell] at h
      · simp [hblank] at h
    | switchConversation | updateDraft | shutdown => exact absurd h List.not_mem_nil

/-! ### The draft after a run -/

variable (s)

/-- After a run the draft is what the last input left that touched it. -/
theorem draft_run (inputs : List Input) :
    (s.run inputs).session.draft.text = (inputs.reverse.findSome? Input.draft?).getD s.draft.text := by
  induction inputs using List.reverseRecOn with
  | nil => rfl
  | append_singleton inputs input ih =>
    rw [run_concat, List.reverse_concat, List.findSome?_cons]
    show ((s.run inputs).session.turn input).session.draft.text = _
    rw [draft_turn, ih]
    cases input.draft? <;> rfl

/-- None of the inputs touches the draft. -/
def SparesDraft (inputs : List Input) : Prop := ∀ input ∈ inputs, input.draft? = none

instance (inputs : List Input) : Decidable (SparesDraft inputs) := by
  unfold SparesDraft; infer_instance

variable {s}

lemma draft_run_append {inputs between : List Input} (h : SparesDraft between) :
    (s.run (inputs ++ between)).session.draft.text = (s.run inputs).session.draft.text := by
  have hnone : between.reverse.findSome? Input.draft? = none := by
    refine List.findSome?_eq_none_iff.2 fun input hinput => ?_
    exact h input (List.mem_reverse.1 hinput)
  rw [draft_run, draft_run, List.reverse_append, List.findSome?_append, hnone, Option.none_or]

lemma draft_run_typed {inputs between : List Input} {text : String} (h : SparesDraft between) :
    (s.run (inputs ++ .command (.updateDraft text) :: between)).session.draft.text = text := by
  have hsplit : inputs ++ .command (.updateDraft text) :: between =
      (inputs ++ [.command (.updateDraft text)]) ++ between := by simp
  rw [hsplit, draft_run_append h, run_concat]
  rfl

/-! ### The fate of a draft -/

variable (s)

/-- What becomes of the draft after a run. -/
structure Drafting (inputs : List Input) : Prop where
  /-- Nothing but typing changes the draft, apart from a switch and a message that was sent; these two leave none. -/
  changed : ∀ input, ((s.run inputs).session.turn input).session.draft ≠ (s.run inputs).session.draft →
    (∃ text, input = .command (.updateDraft text)) ∨
      ((∃ conversation, input = .command (.switchConversation conversation)) ∨
        input = .completion (.sent .compose none)) ∧
      ((s.run inputs).session.turn input).session.draft = .empty
  /-- A text that is typed now is kept through everything else, in whichever order it comes. -/
  kept : ∀ text between, SparesDraft between →
    (s.run (inputs ++ .command (.updateDraft text) :: between)).session.draft.text = text
  /-- The next message that was sent throws it away, even if that message was on its way before the text was typed. -/
  cleared : ∀ text between, SparesDraft between →
    let turn := (s.run (inputs ++ .command (.updateDraft text) :: between)).session.turn
      (.completion (.sent .compose none))
    turn.session.draft = .empty ∧ turn.events = [.draftCleared]
  /-- A message that leaves now carries the draft, as the gate lets it out; it is still this draft that there is at the
  end of the message, unless the draft is touched on the way. -/
  carried : ∀ input text, .sendText text .compose ∈ ((s.run inputs).session.turn input).requests →
    input = .command .submitDraft ∧ ∀ between, SparesDraft between →
      gate (s.run inputs).session.conversation (s.run inputs).session.store.blocked
        (.text (s.run (inputs ++ input :: between)).session.draft.text) = .ok text

/-- **A draft is thrown away only by a switch and by a message that was sent**: by any message that was sent, whether it
carried this draft or one before it. -/
theorem drafting_run (inputs : List Input) : Drafting s inputs where
  changed input hne := by
    cases hdraft : input.draft? with
    | none =>
      have htext := (s.run inputs).session.draft_turn input
      rw [hdraft] at htext
      exact absurd (congrArg Draft.mk htext) hne
    | some text =>
      rcases eq_of_draft?_eq_some hdraft with rfl | ⟨-, conversation, rfl⟩ | ⟨-, rfl⟩
      · exact Or.inl ⟨text, rfl⟩
      · exact Or.inr ⟨Or.inl ⟨conversation, rfl⟩, rfl⟩
      · exact Or.inr ⟨Or.inr rfl, rfl⟩
  kept _ _ h := draft_run_typed h
  cleared _ _ _ := ⟨rfl, rfl⟩
  carried input text hmem := by
    obtain ⟨rfl, hgate⟩ := gate_of_composed hmem
    refine ⟨rfl, fun between h => ?_⟩
    have hspares : SparesDraft (.command .submitDraft :: between) := by
      intro input hinput
      rcases List.mem_cons.1 hinput with rfl | hinput
      · rfl
      · exact h input hinput
    rw [draft_run_append hspares]
    exact hgate

/-- A draft can be lost: a message is submitted, another text is typed, and the message turns out to be sent. -/
theorem later_draft_is_cleared :
    ¬∀ (inputs waiting typing : List Input) (sent text : String),
      .sendText sent .compose ∈ ((empty.run inputs).session.turn (.command .submitDraft)).requests →
      .completion (.sent .compose none) ∉ waiting → SparesDraft typing →
      (empty.run (inputs ++ .command .submitDraft :: waiting ++ .command (.updateDraft text) :: typing ++
        [.completion (.sent .compose none)])).session.draft.text = text := by
  intro h
  have hlost := h [.command (.updateDraft "one")] [] [] "one" "two" (by decide) (by decide) (by decide)
  exact absurd hlost (by decide)

end PeerChat.Session
