import Mathlib.Data.List.Induction
import PeerChat.Proofs.Session.Fetch
import PeerChat.Proofs.Session.Run
import PeerChat.Proofs.Store.History

/-!
What a turn leaves as it is. The store changes only by answers that are fetched, the conversation only by a switch, and
the draft only by typing, by a switch and by a message that was sent.

* `keeps_turn`: every other turn leaves all three as they are, and shows no conversation;
* `store_run`: the store after a run is the store after the answers of the run;
* `conversation_turn`, `draft_turn`: the conversation and the draft after a turn.
-/

namespace PeerChat

/-- The event shows a conversation, or another one than before. -/
def Event.isView : Event → Bool
  | messagesUpdated _ _ | conversationSwitched _ _ => true
  | _ => false

/-- The turn leaves the store, the conversation and the draft as they are, and shows no conversation. -/
structure Turn.Keeps (turn : Turn) (s : Session) : Prop where
  store : turn.session.store = s.store
  conversation : turn.session.conversation = s.conversation
  draft : turn.session.draft = s.draft
  views : turn.events.filter Event.isView = []

namespace Session

/-! ### What inputs touch -/

namespace Input

/-- The answer that the store is given, if the input is one. -/
def call? : Input → Option Store.Call
  | completion (.fetched seq forced snapshot) => some ⟨seq, snapshot, forced⟩
  | _ => none

/-- The conversation that the user turns to, if the input asks for it. -/
def conversation? : Input → Option Conversation
  | command (.switchConversation conversation) => some conversation
  | _ => none

/-- The text that the input leaves as the draft; none if it leaves the draft as it is. -/
def draft? : Input → Option String
  | command (.updateDraft text) => some text
  | command (.switchConversation _) => some ""
  | completion (.sent .compose none) => some ""
  | _ => none

end Input

/-! ### Turns that touch nothing -/

variable (s : Session)

lemma keeps_tell (level : NoticeLevel) (text : String) : (s.tell level text).Keeps s := ⟨rfl, rfl, rfl, rfl⟩

lemma keeps_send (content : Content) (purpose : SendPurpose) : (s.send content purpose).Keeps s := by
  unfold send
  split
  · exact ⟨rfl, rfl, rfl, rfl⟩
  · exact s.keeps_tell _ _

lemma keeps_respondTo (fileId : FileId) (accepted : Bool) : (s.respondTo fileId accepted).Keeps s := by
  unfold respondTo
  split
  · refine ⟨rfl, rfl, rfl, ?_⟩
    show List.filter _ (if _ then _ else _) = _
    split <;> rfl
  · exact s.keeps_tell _ _

lemma keeps_observe (reachable : Bool) : (s.observe reachable).Keeps s := by
  unfold observe
  split <;> exact ⟨rfl, rfl, rfl, rfl⟩

lemma keeps_fetchFailed (resource : Resource) (failure : Failure) : (s.fetchFailed resource failure).Keeps s := by
  unfold fetchFailed
  split
  · obtain ⟨hstore, hconversation, hdraft, hviews⟩ := s.keeps_observe false
    exact ⟨hstore, hconversation, hdraft, hviews⟩
  · exact ⟨rfl, rfl, rfl, rfl⟩

lemma keeps_fileOffered (path : String) (target : Username) (failure : Option Failure) :
    (s.fileOffered path target failure).Keeps s := by
  unfold fileOffered
  split <;> exact s.keeps_tell _ _

lemma keeps_responded (response : Transfer.Response) (failure : Option Failure) :
    (s.responded response failure).Keeps s := by
  unfold responded
  split <;> exact ⟨rfl, rfl, rfl, rfl⟩

variable {s}

lemma keeps_command {command : Command} (h : (Input.command command).draft? = none) : (s.command command).Keeps s := by
  unfold Session.command
  cases command with
  | switchConversation | updateDraft => exact nomatch h
  | submitDraft | sendEmoji => exact s.keeps_send _ _
  | respondToPrompt accepted =>
    cases s.prompts.current with
    | none => exact s.keeps_tell _ _
    | some prompt => exact s.keeps_respondTo prompt.fileId accepted
  | respondToOffer response => exact s.keeps_respondTo _ _
  | sendFile path target =>
    by_cases hblank : Text.isAllBlank target
    · simp only [hblank, if_true]
      exact s.keeps_tell _ _
    · simp only [hblank]
      exact ⟨rfl, rfl, rfl, rfl⟩
  | toggleBlock | setBlocked | shutdown => exact ⟨rfl, rfl, rfl, rfl⟩

lemma keeps_sent {purpose : SendPurpose} {failure : Option Failure}
    (h : (Input.completion (.sent purpose failure)).draft? = none) : (s.sent purpose failure).Keeps s := by
  cases failure with
  | none =>
    cases purpose with
    | compose => exact nomatch h
    | emoji | block => exact ⟨rfl, rfl, rfl, rfl⟩
  | some failure => cases purpose <;> exact s.keeps_tell _ _

theorem keeps_turn {input : Input} (hdraft : input.draft? = none) (hcall : input.call? = none) :
    (s.turn input).Keeps s := by
  cases input with
  | command command => exact keeps_command hdraft
  | completion completion =>
    cases completion with
    | fetched seq forced snapshot => exact nomatch hcall
    | fetchFailed resource failure => exact s.keeps_fetchFailed resource failure
    | probed failure => exact s.keeps_observe failure.isNone
    | sent purpose failure => exact keeps_sent hdraft
    | fileOffered path target failure => exact s.keeps_fileOffered path target failure
    | responded response failure => exact s.keeps_responded response failure

/-! ### Turns that touch the draft -/

lemma eq_of_draft?_eq_some {input : Input} {text : String} (h : input.draft? = some text) :
    input = .command (.updateDraft text) ∨
      (text = "" ∧ ∃ conversation, input = .command (.switchConversation conversation)) ∨
      (text = "" ∧ input = .completion (.sent .compose none)) := by
  unfold Input.draft? at h
  split at h
  · cases h
    exact Or.inl rfl
  · cases h
    exact Or.inr (Or.inl ⟨rfl, _, rfl⟩)
  · cases h
    exact Or.inr (Or.inr ⟨rfl, rfl⟩)
  · exact nomatch h

/-! ### Turns that bring an answer -/

variable (s)

lemma session_fetched (seq : Nat) (forced : Bool) (snapshot : Snapshot) :
    ∃ prompts, (s.fetched seq forced snapshot).session = { s.stored seq forced snapshot with prompts := prompts } := by
  cases hstale : s.store.isStale snapshot.resource seq with
  | true =>
    refine ⟨s.prompts, ?_⟩
    rw [fetched_of_stale hstale]
    unfold stored
    rw [Store.applyInOrder_of_stale hstale]
  | false =>
    cases snapshot with
    | messages log => exact ⟨s.prompts, by rw [fetched_messages hstale]; rfl⟩
    | roster entries => exact ⟨s.prompts, by rw [fetched_roster hstale]; rfl⟩
    | transfers queue => exact ⟨(s.prompts.scan queue).1, by rw [fetched_transfers hstale]⟩
    | blockList names => exact ⟨s.prompts, by rw [fetched_blockList hstale]; rfl⟩

lemma eq_of_call?_eq_some {input : Input} {c : Store.Call} (h : input.call? = some c) :
    input = .completion (.fetched c.seq c.forced c.snapshot) := by
  unfold Input.call? at h
  split at h
  · cases h
    rfl
  · exact nomatch h

/-! ### Any turn -/

/-- The store takes the answer that the input brings, and is left alone by all other inputs. -/
theorem store_turn (input : Input) :
    (s.turn input).session.store = (input.call?.map fun c => (s.store.call c).1).getD s.store := by
  cases hcall : input.call? with
  | some c =>
    obtain rfl := eq_of_call?_eq_some hcall
    obtain ⟨prompts, hsession⟩ := s.session_fetched c.seq c.forced c.snapshot
    exact congrArg Session.store hsession
  | none =>
    cases hdraft : input.draft? with
    | none => exact (keeps_turn hdraft hcall).store
    | some text => rcases eq_of_draft?_eq_some hdraft with rfl | ⟨-, _, rfl⟩ | ⟨-, rfl⟩ <;> rfl

/-- The user alone chooses the conversation. -/
theorem conversation_turn (input : Input) :
    (s.turn input).session.conversation = input.conversation?.getD s.conversation := by
  cases hdraft : input.draft? with
  | some text => rcases eq_of_draft?_eq_some hdraft with rfl | ⟨-, _, rfl⟩ | ⟨-, rfl⟩ <;> rfl
  | none =>
    have hconversation : input.conversation? = none := by
      unfold Input.conversation?
      split
      · exact nomatch hdraft
      · rfl
    rw [hconversation]
    cases hcall : input.call? with
    | none => exact (keeps_turn hdraft hcall).conversation
    | some c =>
      obtain rfl := eq_of_call?_eq_some hcall
      obtain ⟨prompts, hsession⟩ := s.session_fetched c.seq c.forced c.snapshot
      show (s.fetched c.seq c.forced c.snapshot).session.conversation = s.conversation
      rw [hsession]
      rfl

/-- The draft is what the input leaves of it. -/
theorem draft_turn (input : Input) : (s.turn input).session.draft.text = input.draft?.getD s.draft.text := by
  cases hdraft : input.draft? with
  | some text => rcases eq_of_draft?_eq_some hdraft with rfl | ⟨rfl, _, rfl⟩ | ⟨rfl, rfl⟩ <;> rfl
  | none =>
    cases hcall : input.call? with
    | none => exact congrArg Draft.text (keeps_turn hdraft hcall).draft
    | some c =>
      obtain rfl := eq_of_call?_eq_some hcall
      obtain ⟨prompts, hsession⟩ := s.session_fetched c.seq c.forced c.snapshot
      show (s.fetched c.seq c.forced c.snapshot).session.draft.text = s.draft.text
      rw [hsession]
      rfl

/-! ### Runs -/

/-- The answers of a run, the last one first. -/
def answers (inputs : List Input) : List Store.Call := (inputs.filterMap Input.call?).reverse

lemma answers_concat (inputs : List Input) (input : Input) :
    answers (inputs ++ [input]) = input.call?.toList ++ answers inputs := by
  unfold answers
  rw [List.filterMap_append, List.reverse_append]
  cases hcall : input.call? with
  | none => simp [hcall]
  | some c => simp [hcall]

/-- The store after a run is the store after the answers of the run. -/
theorem store_run (inputs : List Input) : (empty.run inputs).session.store = Store.after (answers inputs) := by
  induction inputs using List.reverseRecOn with
  | nil => rfl
  | append_singleton inputs input ih =>
    rw [run_concat, answers_concat]
    show ((empty.run inputs).session.turn input).session.store = _
    rw [store_turn, ih]
    cases input.call? <;> rfl

end Session

end PeerChat
