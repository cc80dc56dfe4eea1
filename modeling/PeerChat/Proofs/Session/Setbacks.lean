import PeerChat.Proofs.Session.Connection
import PeerChat.Proofs.Session.Frame

/-!
Setbacks: requests that fail, and answers that are overtaken. They cost a session nothing of what it holds.

* `withstands_complete`: all that the failure of a request does to a session;
* `isStale_run`: an answer is overtaken by answers alone, and never by a request that failed;
* `fetched_fetchFailed`: an answer that comes after the failure of a fetch is taken as if there had been no failure;
* `resilience_run`: the three of them, over whole runs.
-/

namespace PeerChat

open Transfer (Prompts Response)

/-! ### Failed requests -/

namespace Completion

/-- The request failed. -/
inductive Failed : Completion → Prop
  | fetch (resource : Resource) (failure : Failure) : Failed (.fetchFailed resource failure)
  | probe (failure : Failure) : Failed (.probed (some failure))
  | text (purpose : SendPurpose) (failure : Failure) : Failed (.sent purpose (some failure))
  | file (path : String) (target : Username) (failure : Failure) : Failed (.fileOffered path target (some failure))
  | response (response : Response) (failure : Failure) : Failed (.responded response (some failure))

/-- The service cannot be reached: a probe failed, or a fetch was not answered or was refused. -/
inductive LosesService : Completion → Prop
  | probe (failure : Failure) : LosesService (.probed (some failure))
  | unanswered (resource : Resource) (reason : String) : LosesService (.fetchFailed resource (.transport reason))
  | refused (resource : Resource) (path : String) (code : Nat) :
    LosesService (.fetchFailed resource (.status path code))

/-- The answer of the user to an offer did not arrive, and the offer still waits to hear of it. -/
def Strands (c : Completion) (p : Prompts) (fileId : FileId) : Prop :=
  ∃ accepted failure, c = .responded ⟨fileId, accepted⟩ (some failure) ∧
    ∃ chosen, p.state? fileId = some (.answered chosen)

/-- What the user is told of a failed request: which resource could not be fetched, or, in one notice, what could not be
done. Of a failed probe the user is told nothing. -/
inductive Reports : Completion → List Event → Prop
  | fetch (resource : Resource) (failure : Failure) :
    Reports (.fetchFailed resource failure) [.resourceUnreachable resource failure.message]
  | probe (failure : Failure) : Reports (.probed (some failure)) []
  | text (purpose : SendPurpose) (failure : Failure) (undone : String) :
    Reports (.sent purpose (some failure)) [.notice .error (undone ++ ": " ++ failure.message)]
  | file (path : String) (target : Username) (failure : Failure) (undone : String) :
    Reports (.fileOffered path target (some failure)) [.notice .error (undone ++ ": " ++ failure.message)]
  | response (response : Response) (failure : Failure) (undone : String) :
    Reports (.responded response (some failure)) [.notice .error (undone ++ ": " ++ failure.message)]

end Completion

/-- All that the failure of a request does to a session. -/
structure Turn.Withstands (turn : Turn) (s : Session) (c : Completion) : Prop where
  store : turn.session.store = s.store
  conversation : turn.session.conversation = s.conversation
  draft : turn.session.draft = s.draft
  /-- The prompts stay as they are, but for an answer that did not arrive. -/
  prompts : (∀ fileId, ¬c.Strands s.prompts fileId) → turn.session.prompts = s.prompts
  stranded (fileId : FileId) :
    c.Strands s.prompts fileId → turn.session.prompts = s.prompts.setState fileId .failed
  liveness : ¬c.LosesService → turn.session.liveness = s.liveness
  lost : c.LosesService → turn.session.liveness = some .disconnected
  events : ∃ report, c.Reports report ∧
    turn.events =
      report ++ if turn.session.liveness = s.liveness then [] else [.connectionChanged .disconnected]
  requests : turn.requests = []

namespace Transfer.Prompts

variable {p : Prompts} {fileId : FileId}

lemma complete_of_answered {chosen succeeded : Bool} (h : p.state? fileId = some (.answered chosen)) :
    p.complete fileId succeeded = p.setState fileId (settled chosen succeeded) := by
  unfold complete
  rw [h]

lemma complete_of_not_answered {succeeded : Bool} (h : ∀ chosen, p.state? fileId ≠ some (.answered chosen)) :
    p.complete fileId succeeded = p := by
  unfold complete
  split
  · next chosen hstate => exact absurd hstate (h chosen)
  · rfl

end Transfer.Prompts

namespace Session

variable (s : Session)

/-! ### What a failed request leaves -/

lemma keeps_of_failed {c : Completion} (h : c.Failed) : (s.complete c).Keeps s := by
  cases h with
  | fetch resource failure => exact s.keeps_fetchFailed resource failure
  | probe failure => exact s.keeps_observe false
  | text purpose failure => exact keeps_sent (by cases purpose <;> rfl)
  | file path target failure => exact s.keeps_fileOffered path target (some failure)
  | response response failure => exact s.keeps_responded response (some failure)

lemma losesService_iff {c : Completion} :
    c.LosesService ↔ (Input.completion c).reachable? = some false := by
  constructor
  · rintro (_ | _ | _) <;> rfl
  · intro hreach
    rcases eq_of_unreachable hreach with ⟨failure, heq⟩ | ⟨resource, reason, heq⟩ | ⟨resource, path, code, heq⟩
    · cases heq
      exact .probe failure
    · cases heq
      exact .unanswered resource reason
    · cases heq
      exact .refused resource path code

/-- A failed request asks for nothing: it shows no return of the service and sends no change of the block list. -/
lemma requests_of_failed {c : Completion} (h : c.Failed) : (s.complete c).requests = [] := by
  cases h with
  | fetch resource failure => exact s.requests_fetchFailed resource failure
  | probe failure => exact s.requests_observe_false
  | text purpose failure => cases purpose <;> rfl
  | file | response => rfl

/-! ### The liveness and what is shown -/

lemma exists_session_fetchFailed (resource : Resource) (failure : Failure) :
    ∃ liveness, (s.fetchFailed resource failure).session = { s with liveness := liveness } := by
  unfold fetchFailed observe
  split
  · split
    · exact ⟨s.liveness, rfl⟩
    · exact ⟨_, rfl⟩
  · exact ⟨s.liveness, rfl⟩

lemma events_observe_false :
    (s.observe false).events =
      if (s.observe false).session.liveness = s.liveness then [] else [.connectionChanged .disconnected] := by
  unfold observe Liveness.observe
  by_cases h : s.liveness = some (Liveness.ofReachable false)
  · rw [if_pos h]
    exact (if_pos rfl).symm
  · rw [if_neg h]
    exact (if_neg (Ne.symm h)).symm

lemma exists_report {c : Completion} (h : c.Failed) :
    ∃ report, c.Reports report ∧
      (s.complete c).events =
        report ++ if (s.complete c).session.liveness = s.liveness then [] else [.connectionChanged .disconnected] := by
  cases h with
  | fetch resource failure =>
    refine ⟨_, .fetch resource failure, ?_⟩
    show (s.fetchFailed resource failure).events =
      _ ++ if (s.fetchFailed resource failure).session.liveness = s.liveness then _ else _
    unfold fetchFailed
    split
    · exact congrArg (_ :: ·) s.events_observe_false
    · exact congrArg (_ :: ·) (if_pos rfl).symm
  | probe failure => exact ⟨_, .probe failure, s.events_observe_false⟩
  | text purpose failure =>
    cases purpose with
    | compose | emoji => exact ⟨_, .text _ failure "message not sent", by simp [complete, sent, tell]⟩
    | block intent =>
      let undone := "could not " ++ (if intent.block then "block" else "unblock") ++ " " ++ intent.username
      exact ⟨_, .text _ failure undone, by simp [complete, sent, tell, undone]⟩
  | file path target failure =>
    let undone := "could not offer " ++ path ++ " to " ++ target
    exact ⟨_, .file path target failure undone, by simp [complete, fileOffered, tell, undone]⟩
  | response response failure =>
    let undone := "could not send transfer response"
    exact ⟨_, .response response failure undone, by simp [complete, responded, tell, undone]⟩

/-! ### The prompts -/

lemma prompts_of_failed {c : Completion} (h : c.Failed)
    (hanswer : ∀ response failure, c ≠ .responded response (some failure)) :
    (s.complete c).session.prompts = s.prompts := by
  cases h with
  | fetch resource failure =>
    obtain ⟨liveness, hsession⟩ := s.exists_session_fetchFailed resource failure
    show (s.fetchFailed resource failure).session.prompts = s.prompts
    rw [hsession]
  | probe failure =>
    show (s.observe false).session.prompts = s.prompts
    unfold observe
    split <;> rfl
  | text purpose failure => cases purpose <;> rfl
  | file => rfl
  | response response failure => exact absurd rfl (hanswer response failure)

/-! ### Setbacks -/

/-- **The failure of a request costs a session nothing** but an answer to an offer, if that was the request, and the
connection, if that is what failed. -/
theorem withstands_complete {c : Completion} (h : c.Failed) : (s.complete c).Withstands s c where
  store := (s.keeps_of_failed h).store
  conversation := (s.keeps_of_failed h).conversation
  draft := (s.keeps_of_failed h).draft
  prompts hkept := by
    by_cases hanswer : ∃ response failure, c = .responded response (some failure)
    · obtain ⟨⟨fileId, accepted⟩, failure, rfl⟩ := hanswer
      refine Prompts.complete_of_not_answered fun chosen hstate => ?_
      exact hkept fileId ⟨accepted, failure, rfl, chosen, hstate⟩
    · exact s.prompts_of_failed h fun response failure hc => hanswer ⟨response, failure, hc⟩
  stranded fileId hstranded := by
    obtain ⟨accepted, failure, rfl, chosen, hstate⟩ := hstranded
    exact Prompts.complete_of_answered hstate
  liveness hkept := by
    have hnone : (Input.completion c).reachable? = none := by
      cases hreach : (Input.completion c).reachable? with
      | none => rfl
      | some reachable =>
        cases reachable with
        | false => exact absurd (losesService_iff.2 hreach) hkept
        | true =>
          cases eq_of_reachable hreach
          exact nomatch h
    show (s.turn (.completion c)).session.liveness = _
    rw [(s.connects_turn (.completion c)).liveness, hnone]
    rfl
  lost hlost := by
    show (s.turn (.completion c)).session.liveness = _
    rw [(s.connects_turn (.completion c)).liveness, losesService_iff.1 hlost]
    rfl
  events := s.exists_report h
  requests := s.requests_of_failed h

/-- After a fetch that failed, an answer is taken as it would have been without it. -/
theorem fetched_fetchFailed (resource : Resource) (failure : Failure) (seq : Nat) (forced : Bool)
    (snapshot : Snapshot) :
    (s.fetchFailed resource failure).session.fetched seq forced snapshot =
      { s.fetched seq forced snapshot with
        session := { (s.fetched seq forced snapshot).session with
          liveness := (s.fetchFailed resource failure).session.liveness } } := by
  obtain ⟨liveness, hsession⟩ := s.exists_session_fetchFailed resource failure
  rw [hsession]
  unfold fetched
  by_cases hstale : (s.store.applyInOrder seq snapshot forced).2 = .stale
  · simp only [hstale, if_true]
  · simp only [hstale, if_false]
    cases snapshot <;> rfl

/-! ### Runs -/

/-- An answer is stale if an answer with a higher number has come; requests that failed do not count. -/
theorem isStale_run (inputs : List Input) (resource : Resource) (seq : Nat) :
    (empty.run inputs).session.store.isStale resource seq = true ↔
      ∃ last forced snapshot, .completion (.fetched last forced snapshot) ∈ inputs ∧
        snapshot.resource = resource ∧ seq < last := by
  rw [store_run, Store.isStale_after]
  constructor
  · rintro ⟨c, hc, hresource, hlt⟩
    obtain ⟨input, hinput, hcall⟩ := List.mem_filterMap.1 (List.mem_reverse.1 hc)
    obtain rfl := eq_of_call?_eq_some hcall
    exact ⟨c.seq, c.forced, c.snapshot, hinput, hresource, hlt⟩
  · rintro ⟨last, forced, snapshot, hinput, hresource, hlt⟩
    refine ⟨⟨last, snapshot, forced⟩, ?_, hresource, hlt⟩
    exact List.mem_reverse.2 (List.mem_filterMap.2 ⟨_, hinput, rfl⟩)

/-- What failures and late answers do after a run. -/
structure Resilience (inputs : List Input) : Prop where
  /-- A failed request leaves everything as it is that it is not about. -/
  withstands (c : Completion) :
    c.Failed → ((empty.run inputs).session.complete c).Withstands (empty.run inputs).session c
  /-- An answer that was overtaken does nothing at all. -/
  stale (seq : Nat) (forced : Bool) (snapshot : Snapshot) :
    (empty.run inputs).session.store.isStale snapshot.resource seq = true →
      (empty.run inputs).session.complete (.fetched seq forced snapshot) = ⟨(empty.run inputs).session, [], []⟩
  /-- An answer is overtaken by answers only. -/
  stale_iff (resource : Resource) (seq : Nat) :
    (empty.run inputs).session.store.isStale resource seq = true ↔
      ∃ last forced snapshot, .completion (.fetched last forced snapshot) ∈ inputs ∧
        snapshot.resource = resource ∧ seq < last
  /-- A fetch that failed takes nothing away from an answer that comes after it, whichever was asked for first. -/
  overlooked (resource : Resource) (failure : Failure) (seq : Nat) (forced : Bool) (snapshot : Snapshot) :
    let session := (empty.run inputs).session
    let failed := (session.complete (.fetchFailed resource failure)).session
    let turn := session.complete (.fetched seq forced snapshot)
    failed.complete (.fetched seq forced snapshot) =
      { turn with session := { turn.session with liveness := failed.liveness } }

/-- **Failures and late answers leave a session intact**, whatever happened before. -/
theorem resilience_run (inputs : List Input) : Resilience inputs where
  withstands _ h := withstands_complete _ h
  stale _ _ _ h := fetched_of_stale h
  stale_iff := isStale_run inputs
  overlooked := fetched_fetchFailed _

end Session

end PeerChat
