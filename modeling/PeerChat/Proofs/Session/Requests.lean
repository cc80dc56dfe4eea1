import PeerChat.Proofs.Session.Connection
import PeerChat.Proofs.Session.Frame
import PeerChat.Service.Basic

/-!
Polls and numbers, as a session has to do with them: it never polls, and it learns no number but from answers.

* `requests_command`, `requests_complete`: what a session asks for in one turn;
* `polls_requests_turn`: whatever a session is told, it asks for no poll;
* `applied_complete`: the numbers that a session knows are those of the answers that it was told.
-/

namespace PeerChat

/-- The request is one that timers make: a fetch that is not forced, or a probe. -/
def Request.isPoll : Request → Bool
  | fetch _ forced => !forced
  | probe => true
  | sendText _ _ | sendFile _ _ | respond _ => false

/-- The number that an answer bears, if it is one about the resource. -/
def Completion.number? (resource : Resource) : Completion → Option Nat
  | fetched seq _ snapshot => if snapshot.resource = resource then some seq else none
  | _ => none

namespace Service

lemma exists_of_map {f : α → β} {reaction : Reaction α} {delay : Nat} {b : β}
    (h : Reaction.map f reaction = some (delay, .ok b)) : ∃ a, f a = b := by
  obtain ⟨⟨delay', result⟩, -, heq⟩ := Option.map_eq_some_iff.1 h
  cases result with
  | ok a => exact ⟨a, Except.ok.inj (Prod.mk.inj heq).2⟩
  | error failure => exact nomatch (Prod.mk.inj heq).2

lemma resource_of_fetch {service : Service} {resource : Resource} {nth time delay : Nat} {snapshot : Snapshot}
    (h : service.fetch resource nth time = some (delay, .ok snapshot)) : snapshot.resource = resource := by
  cases resource with
  | messages | roster | transfers | blockList =>
    obtain ⟨answer, rfl⟩ := exists_of_map h
    rfl

end Service

/-! ### The session does not poll -/

namespace Session

variable (s : Session)

lemma requests_send (content : Content) (purpose : SendPurpose) :
    (s.send content purpose).requests = [] ∨ ∃ text, (s.send content purpose).requests = [.sendText text purpose] := by
  unfold send
  split
  · next text _ => exact Or.inr ⟨text, rfl⟩
  · exact Or.inl rfl

lemma requests_respondTo (fileId : FileId) (accepted : Bool) :
    (s.respondTo fileId accepted).requests = [] ∨
      ∃ response, (s.respondTo fileId accepted).requests = [.respond response] := by
  unfold respondTo
  split
  · next response _ => exact Or.inr ⟨response, rfl⟩
  · exact Or.inl rfl

lemma requests_command (command : Command) :
    (s.command command).requests = [] ∨
      ∃ request, (s.command command).requests = [request] ∧ request.isPoll = false := by
  have hrespond (fileId : FileId) (accepted : Bool) : (s.respondTo fileId accepted).requests = [] ∨
      ∃ request, (s.respondTo fileId accepted).requests = [request] ∧ request.isPoll = false :=
    (s.requests_respondTo fileId accepted).imp_right fun ⟨response, h⟩ => ⟨.respond response, h, rfl⟩
  have hsend (content : Content) (purpose : SendPurpose) : (s.send content purpose).requests = [] ∨
      ∃ request, (s.send content purpose).requests = [request] ∧ request.isPoll = false :=
    (s.requests_send content purpose).imp_right fun ⟨text, h⟩ => ⟨.sendText text purpose, h, rfl⟩
  unfold Session.command
  cases command with
  | submitDraft | sendEmoji => exact hsend _ _
  | respondToPrompt accepted =>
    cases s.prompts.current with
    | none => exact Or.inl rfl
    | some prompt => exact hrespond prompt.fileId accepted
  | respondToOffer response => exact hrespond _ _
  | toggleBlock | setBlocked => exact Or.inr ⟨.sendText _ _, rfl, rfl⟩
  | sendFile path target =>
    dsimp only
    split
    · exact Or.inl rfl
    · exact Or.inr ⟨.sendFile path target, rfl, rfl⟩
  | switchConversation | updateDraft | shutdown => exact Or.inl rfl

lemma requests_observe (reachable : Bool) :
    (s.observe reachable).requests = [] ∨
      (s.observe reachable).requests = [.fetch .messages true, .fetch .roster true] := by
  unfold observe
  split
  · exact Or.inl rfl
  · dsimp only
    split
    · exact Or.inr rfl
    · exact Or.inl rfl

/-- The end of a request makes two forced fetches, if any request at all. -/
lemma requests_complete (completion : Completion) :
    (s.complete completion).requests = [] ∨
      ∃ first second, (s.complete completion).requests = [.fetch first true, .fetch second true] := by
  cases completion with
  | fetched seq forced snapshot => exact Or.inl (s.requests_fetched seq forced snapshot)
  | fetchFailed resource failure => exact Or.inl (s.requests_fetchFailed resource failure)
  | probed failure => exact (s.requests_observe failure.isNone).imp_right fun h => ⟨_, _, h⟩
  | sent purpose failure =>
    cases failure with
    | some failure => cases purpose <;> exact Or.inl rfl
    | none =>
      cases purpose with
      | compose | emoji => exact Or.inl rfl
      | block intent => exact Or.inr ⟨_, _, rfl⟩
  | fileOffered path target failure => cases failure <;> exact Or.inl rfl
  | responded response failure => cases failure <;> exact Or.inl rfl

/-- Whatever a session is told, it asks for no poll. -/
theorem polls_requests_turn (input : Input) : (s.turn input).requests.filter Request.isPoll = [] := by
  cases input with
  | command command =>
    show (s.command command).requests.filter _ = []
    rcases s.requests_command command with h | ⟨request, h, hpoll⟩
    · rw [h, List.filter_nil]
    · rw [h, List.filter_singleton, hpoll]
      rfl
  | completion completion =>
    show (s.complete completion).requests.filter _ = []
    rcases s.requests_complete completion with h | ⟨first, second, h⟩
    · rw [h, List.filter_nil]
    · rw [h]
      rfl

/-! ### Numbers that the session takes over -/

lemma store_command (command : Command) : (s.command command).session.store = s.store := s.store_turn (.command command)

lemma applied_complete {completion : Completion} {resource : Resource} {seq : Nat}
    (h : (s.complete completion).session.store.applied.get resource = some seq) :
    s.store.applied.get resource = some seq ∨ completion.number? resource = some seq := by
  have hstore := s.store_turn (.completion completion)
  change (s.complete completion).session.store = _ at hstore
  rw [hstore] at h
  cases completion with
  | fetched seq' forced snapshot =>
    rcases Store.applied_call h with hbefore | ⟨hresource, hseq⟩
    · exact Or.inl hbefore
    · refine Or.inr ?_
      rw [← hseq]
      exact if_pos hresource
  | fetchFailed | probed | sent | fileOffered | responded => exact Or.inl h

end Session

end PeerChat
