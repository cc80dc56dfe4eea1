import PeerChat.Proofs.Session.Fetch

/-!
What is seen of the prompts and of the connection in a turn, and the turns that have to do with neither.

* `idle_command`: no command but an answer to an offer touches the prompts, and none touches the connection;
* `idle_fetched_or_transfers`: no snapshot that is fetched does, apart from a transfer queue.
-/

namespace PeerChat

open Transfer (Response)

/-- A prompt opens or closes. -/
def Event.isPrompt : Event → Bool
  | promptOpened _ | promptClosed _ => true
  | _ => false

/-- The liveness that an event reports. -/
def Event.liveness? : Event → Option Liveness
  | connectionChanged liveness => some liveness
  | _ => none

/-- The answer that a request carries to the peer. -/
def Request.response? : Request → Option Response
  | respond response => some response
  | _ => none

/-- The request asks for a resource. -/
def Request.isFetch : Request → Bool
  | fetch _ _ => true
  | _ => false

/-- The user answers an offer. -/
def Command.isAnswer : Command → Bool
  | respondToPrompt _ | respondToOffer _ => true
  | _ => false

/-- The changes of liveness that events report. -/
def Session.changes (events : List Event) : List Liveness := events.filterMap Event.liveness?

/-- The turn leaves the prompts as they are, and nothing is seen or sent of them. -/
structure Turn.Spares (turn : Turn) (s : Session) : Prop where
  prompts : turn.session.prompts = s.prompts
  shown : turn.events.filter Event.isPrompt = []
  asked : turn.requests.filterMap Request.response? = []

/-- The turn has nothing to do with the connection. -/
structure Turn.Neutral (turn : Turn) (s : Session) : Prop where
  liveness : turn.session.liveness = s.liveness
  changes : Session.changes turn.events = []
  fetches : turn.requests.filter Request.isFetch = []

/-- The turn has to do neither with the prompts nor with the connection. -/
structure Turn.Idle (turn : Turn) (s : Session) : Prop where
  spares : turn.Spares s
  neutral : turn.Neutral s

namespace Session

variable (s : Session)

lemma idle_tell (level : NoticeLevel) (text : String) : (s.tell level text).Idle s :=
  ⟨⟨rfl, rfl, rfl⟩, ⟨rfl, rfl, rfl⟩⟩

lemma idle_send (content : Content) (purpose : SendPurpose) : (s.send content purpose).Idle s := by
  unfold send
  split
  · exact ⟨⟨rfl, rfl, rfl⟩, ⟨rfl, rfl, rfl⟩⟩
  · exact s.idle_tell _ _

lemma idle_fileOffered (path : String) (target : Username) (failure : Option Failure) :
    (s.fileOffered path target failure).Idle s := by
  unfold fileOffered
  split <;> exact s.idle_tell _ _

variable {s}

lemma idle_command {command : Command} (h : command.isAnswer = false) : (s.command command).Idle s := by
  unfold Session.command
  cases command with
  | respondToPrompt | respondToOffer => exact nomatch h
  | submitDraft | sendEmoji => exact s.idle_send _ _
  | sendFile path target =>
    by_cases hblank : Text.isAllBlank target
    · simp only [hblank, if_true]
      exact s.idle_tell _ _
    · simp only [hblank]
      exact ⟨⟨rfl, rfl, rfl⟩, ⟨rfl, rfl, rfl⟩⟩
  | switchConversation | updateDraft | toggleBlock | setBlocked | shutdown =>
    exact ⟨⟨rfl, rfl, rfl⟩, ⟨rfl, rfl, rfl⟩⟩

/-- Only a transfer queue that is not stale has to do with the prompts, and nothing that is fetched with the
connection. -/
lemma idle_fetched_or_transfers (seq : Nat) (forced : Bool) (snapshot : Snapshot) :
    (s.fetched seq forced snapshot).Idle s ∨
      ∃ queue, snapshot = .transfers queue ∧ s.store.isStale .transfers seq = false := by
  cases hstale : s.store.isStale snapshot.resource seq with
  | true =>
    rw [fetched_of_stale hstale]
    exact Or.inl ⟨⟨rfl, rfl, rfl⟩, ⟨rfl, rfl, rfl⟩⟩
  | false =>
    cases snapshot with
    | messages log =>
      rw [fetched_messages hstale]
      split <;> exact Or.inl ⟨⟨rfl, rfl, rfl⟩, ⟨rfl, rfl, rfl⟩⟩
    | roster entries =>
      rw [fetched_roster hstale]
      split <;> split <;> exact Or.inl ⟨⟨rfl, rfl, rfl⟩, ⟨rfl, rfl, rfl⟩⟩
    | blockList names =>
      rw [fetched_blockList hstale]
      split <;> exact Or.inl ⟨⟨rfl, rfl, rfl⟩, ⟨rfl, rfl, rfl⟩⟩
    | transfers queue => exact Or.inr ⟨queue, rfl, hstale⟩

end Session

end PeerChat
