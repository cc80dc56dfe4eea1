import Mathlib.Data.List.Nodup
import Mathlib.Logic.Relation
import PeerChat.Proofs.Peer.Deed
import PeerChat.Proofs.Session.PromptActs

/-!
A client and its peer, with answers to file offers and transfer queues on their way between them. Answers may be late,
lost, or taken without the client getting to know; queues may be old; and the offers change at the peer meanwhile.

* `sound_step`: what the client holds of an offer agrees with what has become of the answer that it sent;
* `exists_takes`: an answer that was taken was taken in one step of the run;
* `agreement_of_reaches`: what client and peer agree on, in every state that they reach.
-/

namespace PeerChat

open Transfer (Act Offer Prompts PromptState Response)

/-- What has become of an answer at the peer. -/
inductive Fate
  /-- It has not arrived, and may never do so. -/
  | underway
  | taken
  | refused
deriving DecidableEq, Repr

/-- An answer that the client has sent. -/
structure Errand where
  response : Response
  fate : Fate
deriving DecidableEq, Repr

/-- An answer as it is sent. -/
def Errand.sent (response : Response) : Errand := ⟨response, .underway⟩

/-- An answer on its way comes to its fate. -/
def Errand.Arrives (response : Response) (fate : Fate) (before after : List Errand) : Prop :=
  ∃ front back, before = front ++ ⟨response, .underway⟩ :: back ∧ after = front ++ ⟨response, fate⟩ :: back

/-- The end of a request that has to do neither with the transfer queue nor with an answer. -/
def Completion.isApart : Completion → Bool
  | fetched _ _ snapshot => snapshot.resource ≠ .transfers
  | responded _ _ => false
  | fetchFailed _ _ | probed _ | sent _ _ | fileOffered _ _ _ => true

/-- A client and its peer. -/
structure Joint where
  client : Session
  peer : Peer
  /-- All answers that the client has sent. -/
  errands : List Errand
  /-- All queues that polls were answered with. -/
  shown : List (List Offer)
deriving DecidableEq, Repr

/-- The user has answered, whatever has become of the answer. -/
def Transfer.PromptState.wasAnswered : PromptState → Bool
  | answered _ | accepted | rejected | failed => true
  | prompted | withdrawn => false

namespace Joint

/-- A new client, and a peer in any state. -/
def start (peer : Peer) : Joint := ⟨.empty, peer, [], []⟩

/-- The client is told something; the answers that it then sends are on their way. -/
def tells (j : Joint) (input : Session.Input) : Joint :=
  let turn := j.client.turn input
  { j with
    client := turn.session
    errands := j.errands ++ (turn.requests.filterMap Request.response?).map Errand.sent }

/-- The peer takes an answer that is on its way. -/
structure Takes (response : Response) (before after : Joint) : Prop where
  arrives : Errand.Arrives response .taken before.errands after.errands
  respond : before.peer.respond response = .ok after.peer
  client : after.client = before.client
  shown : after.shown = before.shown

/-- One thing happens to the client, to the peer or between them. -/
inductive Step (j : Joint) : Joint → Prop
  /-- The user of the client wants something. -/
  | command (command : Command) : Step j (j.tells (.command command))
  /-- Something else happens at the peer, be it by another request of the client. -/
  | deed (deed : Peer.Deed) : Step j { j with peer := j.peer.does deed }
  /-- A poll reaches the peer, and is answered by the queue as it is. -/
  | poll : Step j { j with shown := j.peer.transfers :: j.shown }
  /-- A queue that a poll was answered with comes to the client, in any order with the others. -/
  | look {queue : List Offer} (mem : queue ∈ j.shown) (seq : Nat) (forced : Bool) :
      Step j (j.tells (.completion (.fetched seq forced (.transfers queue))))
  /-- An answer reaches the peer and is taken. -/
  | take {response : Response} {k : Joint} (takes : Takes response j k) : Step j k
  /-- An answer reaches the peer and is refused. -/
  | refuse {response : Response} {errands : List Errand} {refusal : Refusal}
      (arrives : Errand.Arrives response .refused j.errands errands)
      (respond : j.peer.respond response = .error refusal) : Step j { j with errands := errands }
  /-- The client gets to know how an answer ended: well only if the peer has taken it, badly at any time. -/
  | finish {errand : Errand} (mem : errand ∈ j.errands) {failure : Option Failure}
      (taken : failure = none → errand.fate = .taken) :
      Step j (j.tells (.completion (.responded errand.response failure)))
  /-- Any other request ends. -/
  | other {completion : Completion} (apart : completion.isApart = true) : Step j (j.tells (.completion completion))

/-- There is a run from one to the other. -/
def Reaches : Joint → Joint → Prop := Relation.ReflTransGen Step

/-! ### Where the offers of errands stand -/

/-- Where the offer of an errand can stand with the client: it was answered as the errand says, and it stands as
accepted or rejected only if the peer has taken the answer. -/
def Agrees (e : Errand) : Option PromptState → Prop
  | some (.answered accepted) => e.response.accepted = accepted
  | some .accepted => e.response.accepted = true ∧ e.fate = .taken
  | some .rejected => e.response.accepted = false ∧ e.fate = .taken
  | some .failed => True
  | some .prompted | some .withdrawn | none => False

/-- The errands account for all offers that the user has answered, each for one. -/
structure Accounts (p : Prompts) (errands : List Errand) : Prop where
  nodup : (errands.map (·.response.fileId)).Nodup
  agrees : ∀ e ∈ errands, Agrees e (p.state? e.response.fileId)
  sent : ∀ fileId, (p.state? fileId).any PromptState.wasAnswered = true → ∃ e ∈ errands, e.response.fileId = fileId

/-- The peer has taken an answer to this offer. -/
def IsTaken (errands : List Errand) (fileId : FileId) : Prop :=
  ∃ e ∈ errands, e.response.fileId = fileId ∧ e.fate = .taken

section Accounts

variable {p : Prompts} {errands : List Errand}

lemma Agrees.wasAnswered {e : Errand} {state : Option PromptState} (h : Agrees e state) :
    state.any PromptState.wasAnswered = true := by
  cases state with
  | none => exact h.elim
  | some state =>
    cases state with
    | answered | accepted | rejected | failed => rfl
    | prompted | withdrawn => exact h.elim

lemma agrees_settled {e : Errand} {succeeded : Bool} (h : succeeded = true → e.fate = .taken) :
    Agrees e (some (Prompts.settled e.response.accepted succeeded)) := by
  unfold Prompts.settled
  cases succeeded with
  | false => trivial
  | true =>
    cases haccepted : e.response.accepted with
    | true => exact ⟨haccepted, h rfl⟩
    | false => exact ⟨haccepted, h rfl⟩

lemma Accounts.ne_of_not_wasAnswered (h : Accounts p errands) {fileId : FileId}
    (hstate : (p.state? fileId).any PromptState.wasAnswered = false) : ∀ e ∈ errands, e.response.fileId ≠ fileId := by
  rintro e he rfl
  rw [(h.agrees e he).wasAnswered] at hstate
  exact nomatch hstate

lemma Accounts.eq_of_fileId_eq (h : Accounts p errands) {e f : Errand} (he : e ∈ errands) (hf : f ∈ errands)
    (hid : e.response.fileId = f.response.fileId) : e = f :=
  List.inj_on_of_nodup_map h.nodup he hf hid

lemma accounts_empty : Accounts .empty [] where
  nodup := List.nodup_nil
  agrees _ he := nomatch he
  sent _ h := nomatch h

lemma Accounts.act_of_not_answered (h : Accounts p errands) {a : Act}
    (hbefore : (p.state? a.fileId).any PromptState.wasAnswered = false) (hafter : a.target.wasAnswered = false) :
    Accounts (p.act a) errands where
  nodup := h.nodup
  agrees e he := by
    rw [p.state?_act_of_ne _ (h.ne_of_not_wasAnswered hbefore e he)]
    exact h.agrees e he
  sent fileId := by
    rw [p.state?_act]
    split
    · rw [Option.any_some, hafter]
      exact nofun
    · exact h.sent fileId

lemma Accounts.answer (h : Accounts p errands) {response : Response} (ha : p.Allows (.answer response)) :
    Accounts (p.act (.answer response)) (errands ++ [.sent response]) := by
  have hne : ∀ e ∈ errands, e.response.fileId ≠ response.fileId := by
    refine h.ne_of_not_wasAnswered ?_
    rw [show p.state? response.fileId = some .prompted from ha]
    rfl
  constructor
  · rw [List.map_append, List.nodup_append]
    refine ⟨h.nodup, List.nodup_singleton _, ?_⟩
    simpa [Errand.sent] using hne
  · intro e he
    rcases List.mem_append.1 he with he | he
    · rw [p.state?_act_of_ne (.answer response) (hne e he)]
      exact h.agrees e he
    · obtain rfl := List.mem_singleton.1 he
      show Agrees _ ((p.act (.answer response)).state? (Act.answer response).fileId)
      rw [p.state?_act_self]
      exact Eq.refl response.accepted
  · intro fileId hstate
    by_cases hid : fileId = response.fileId
    · exact ⟨.sent response, by simp, hid.symm⟩
    · rw [p.state?_act_of_ne (.answer response) hid] at hstate
      obtain ⟨e, he, heq⟩ := h.sent fileId hstate
      exact ⟨e, List.mem_append_left _ he, heq⟩

/-- An answer is settled as arrived only if the peer has taken it. -/
lemma Accounts.settle (h : Accounts p errands) {response : Response} {succeeded : Bool}
    (ha : p.Allows (.settle response succeeded))
    (htaken : succeeded = true → IsTaken errands response.fileId) :
    Accounts (p.act (.settle response succeeded)) errands := by
  have hstate : p.state? response.fileId = some (.answered response.accepted) := ha
  refine ⟨h.nodup, fun e he => ?_, fun fileId hafter => ?_⟩
  · by_cases hid : e.response.fileId = response.fileId
    · have hagrees : e.response.accepted = response.accepted := by
        have := h.agrees e he
        rwa [hid, hstate] at this
      rw [hid]
      show Agrees e ((p.act (.settle response succeeded)).state? (Act.settle response succeeded).fileId)
      rw [p.state?_act_self]
      show Agrees e (some (Prompts.settled response.accepted succeeded))
      rw [← hagrees]
      refine agrees_settled fun hsucceeded => ?_
      obtain ⟨f, hf, hfid, hfate⟩ := htaken hsucceeded
      rwa [h.eq_of_fileId_eq he hf (hid.trans hfid.symm)]
    · rw [p.state?_act_of_ne (.settle response succeeded) hid]
      exact h.agrees e he
  · by_cases hid : fileId = response.fileId
    · exact h.sent fileId (by rw [hid, hstate]; rfl)
    · rw [p.state?_act_of_ne (.settle response succeeded) hid] at hafter
      exact h.sent fileId hafter

/-- The errands back an act: it settles an answer as arrived only if the peer has taken it. -/
def Backs (errands : List Errand) (a : Act) : Prop :=
  ∀ response, a = .settle response true → IsTaken errands response.fileId

lemma Accounts.act (h : Accounts p errands) (hp : p.Sound) {a : Act} (ha : p.Allows a) (hbacks : Backs errands a) :
    Accounts (p.act a) (errands ++ ([a].filterMap Act.response?).map .sent) := by
  cases a with
  | raise prompt =>
    show Accounts _ (errands ++ [])
    rw [List.append_nil]
    refine h.act_of_not_answered ?_ rfl
    rw [show p.state? (Act.raise prompt).fileId = none from hp.state?_eq_none ha.2]
    rfl
  | withdraw fileId =>
    show Accounts _ (errands ++ [])
    rw [List.append_nil]
    refine h.act_of_not_answered ?_ rfl
    rw [show p.state? (Act.withdraw fileId).fileId = some .prompted from (hp.prompted_iff fileId).2 ha]
    rfl
  | answer response => exact h.answer ha
  | settle response succeeded =>
    show Accounts _ (errands ++ [])
    rw [List.append_nil]
    refine h.settle ha fun hsucceeded => hbacks response ?_
    rw [hsucceeded]

lemma Accounts.path (h : Accounts p errands) (hp : p.Sound) {acts : List Act} {q : Prompts} (hpath : p.Path acts q)
    (hbacks : ∀ a ∈ acts, Backs errands a) : Accounts q (errands ++ (acts.filterMap Act.response?).map .sent) := by
  induction hpath with
  | nil => simpa using h
  | @concat acts q a hpath ha ih =>
    rw [List.filterMap_append, List.map_append, ← List.append_assoc]
    refine (ih fun b hb => hbacks b (List.mem_append_left _ hb)).act (Prompts.sound_path hpath hp) ha ?_
    intro response heq
    obtain ⟨e, he, htaken⟩ := hbacks a (by simp) response heq
    exact ⟨e, List.mem_append_left _ he, htaken⟩

end Accounts

/-! ### Answers that arrive -/

section Arrives

variable {response : Response} {fate : Fate} {before after : List Errand}

lemma map_response_of_arrives (h : Errand.Arrives response fate before after) :
    after.map (·.response) = before.map (·.response) := by
  obtain ⟨front, back, rfl, rfl⟩ := h
  simp

lemma mem_of_arrives (h : Errand.Arrives response fate before after) {e : Errand} (he : e ∈ after) :
    e ∈ before ∨ e = ⟨response, fate⟩ := by
  obtain ⟨front, back, rfl, rfl⟩ := h
  rw [List.mem_append, List.mem_cons] at he ⊢
  tauto

lemma underway_mem_of_arrives (h : Errand.Arrives response fate before after) : ⟨response, .underway⟩ ∈ before := by
  obtain ⟨front, back, rfl, rfl⟩ := h
  exact List.mem_append_right _ List.mem_cons_self

/-- The client does not see what becomes of an answer. -/
lemma Agrees.of_underway {state : Option PromptState} (h : Agrees ⟨response, .underway⟩ state) (fate : Fate) :
    Agrees ⟨response, fate⟩ state := by
  cases state with
  | none => exact h
  | some state =>
    cases state with
    | answered | failed | prompted | withdrawn => exact h
    | accepted | rejected => exact nomatch h.2

lemma Accounts.arrive {p : Prompts} (h : Accounts p before) (ha : Errand.Arrives response fate before after) :
    Accounts p after where
  nodup := by
    have hids : after.map (·.response.fileId) = before.map (·.response.fileId) := by
      simpa [Function.comp_def] using congrArg (List.map (·.fileId)) (map_response_of_arrives ha)
    rw [hids]
    exact h.nodup
  agrees e he := by
    rcases mem_of_arrives ha he with he | rfl
    · exact h.agrees e he
    · exact (h.agrees _ (underway_mem_of_arrives ha)).of_underway fate
  sent fileId hstate := by
    obtain ⟨e, he, hid⟩ := h.sent fileId hstate
    have hmem : e.response ∈ after.map (·.response) := by
      rw [map_response_of_arrives ha]
      exact List.mem_map_of_mem he
    obtain ⟨f, hf, heq⟩ := List.mem_map.1 hmem
    exact ⟨f, hf, by rw [heq, hid]⟩

end Arrives

/-! ### Steps and runs -/

/-- What holds in every state that is reached: the errands account for what the client holds of the offers. -/
structure Sound (j : Joint) : Prop where
  prompts : j.client.prompts.Sound
  accounts : Accounts j.client.prompts j.errands

variable {j k : Joint}

lemma Sound.tells (h : j.Sound) {input : Session.Input}
    (htaken : ∀ response, input = .completion (.responded response none) → IsTaken j.errands response.fileId) :
    (j.tells input).Sound := by
  obtain ⟨acts, hrow, hbrings⟩ := Session.exists_row_turn h.prompts input
  have hbacks : ∀ a ∈ acts, Backs j.errands a := by
    rintro a ha response rfl
    generalize hact : Act.settle response true = a at ha
    cases hbrings a ha with
    | raise | withdraw | answer => exact nomatch hact
    | settle given failure accepted =>
      obtain ⟨rfl, hnone⟩ := Act.settle.inj hact
      obtain rfl := Option.isNone_iff_eq_none.1 hnone.symm
      exact htaken given rfl
  have haccounts := h.accounts.path h.prompts hrow.path hbacks
  rw [← hrow.asked] at haccounts
  exact ⟨Prompts.sound_path hrow.path h.prompts, haccounts⟩

theorem sound_step (h : j.Sound) (hstep : j.Step k) : k.Sound := by
  cases hstep with
  | command command => exact h.tells nofun
  | deed | poll => exact ⟨h.prompts, h.accounts⟩
  | look => exact h.tells nofun
  | take takes =>
    constructor
    · rw [takes.client]
      exact h.prompts
    · rw [takes.client]
      exact h.accounts.arrive takes.arrives
  | refuse arrives => exact ⟨h.prompts, h.accounts.arrive arrives⟩
  | @finish errand mem failure taken =>
    refine h.tells fun response heq => ?_
    obtain ⟨rfl, rfl⟩ : errand.response = response ∧ failure = none := by simpa using heq
    exact ⟨errand, mem, rfl, taken rfl⟩
  | @other completion apart =>
    refine h.tells ?_
    rintro response ⟨rfl⟩
    exact nomatch apart

theorem sound_of_reaches {peer : Peer} (h : (start peer).Reaches j) : j.Sound := by
  induction h with
  | refl => exact ⟨Prompts.sound_empty, accounts_empty⟩
  | tail _ hstep ih => exact sound_step ih hstep

/-! ### Answers that were taken -/

lemma taken_mem_of_tells {input : Session.Input} {response : Response}
    (h : ⟨response, .taken⟩ ∈ (j.tells input).errands) : ⟨response, .taken⟩ ∈ j.errands := by
  rcases List.mem_append.1 h with h | h
  · exact h
  · obtain ⟨sent, -, heq⟩ := List.mem_map.1 h
    exact nomatch heq

lemma Step.taken_mem (hstep : j.Step k) {response : Response} (h : ⟨response, .taken⟩ ∈ k.errands) :
    ⟨response, .taken⟩ ∈ j.errands ∨ Takes response j k := by
  cases hstep with
  | command | look | finish | other => exact Or.inl (taken_mem_of_tells h)
  | deed | poll => exact Or.inl h
  | take takes =>
    rcases mem_of_arrives takes.arrives h with h | h
    · exact Or.inl h
    · cases h
      exact Or.inr takes
  | refuse arrives =>
    rcases mem_of_arrives arrives h with h | h
    · exact Or.inl h
    · exact nomatch h

lemma exists_takes {peer : Peer} (h : (start peer).Reaches j) {response : Response}
    (hmem : ⟨response, .taken⟩ ∈ j.errands) :
    ∃ before after, (start peer).Reaches before ∧ Takes response before after ∧ after.Reaches j := by
  induction h with
  | refl => exact nomatch hmem
  | tail hreaches hstep ih =>
    rcases hstep.taken_mem hmem with hmem | htakes
    · obtain ⟨before, after, hbefore, htakes, hafter⟩ := ih hmem
      exact ⟨before, after, hbefore, htakes, hafter.tail hstep⟩
    · exact ⟨_, _, hreaches, htakes, .refl⟩

/-! ### What client and peer agree on -/

/-- In a run from `i` to `j` the peer took this answer of the client, and by it moved just the offer that the answer
names, from pending to this status. -/
def MovedBy (response : Response) (status : Transfer.Status) (i j : Joint) : Prop :=
  ∃ before after, i.Reaches before ∧ Takes response before after ∧ after.Reaches j ∧
    Peer.Moved response.fileId status before.peer after.peer

/-- What client and peer agree on about an offer, after a run from `i` to `j`. -/
structure Agreement (i j : Joint) (fileId : FileId) : Prop where
  /-- The peer has taken at most one answer of the client. -/
  once : j.errands.countP (fun e => e.response.fileId = fileId ∧ e.fate = .taken) ≤ 1
  /-- What stands as accepted with the client has been set going at the peer by the answer of the client. -/
  accepted : j.client.prompts.state? fileId = some .accepted → MovedBy ⟨fileId, true⟩ .transferring i j
  /-- What stands as rejected with the client has been rejected at the peer by the answer of the client. -/
  rejected : j.client.prompts.state? fileId = some .rejected → MovedBy ⟨fileId, false⟩ .rejected i j
  /-- No answer to an offer that the client does not know, or holds as prompted or withdrawn, has been sent, let alone
  arrived. -/
  unsent : j.client.prompts.state? fileId = none ∨ j.client.prompts.state? fileId = some .prompted ∨
    j.client.prompts.state? fileId = some .withdrawn → ∀ e ∈ j.errands, e.response.fileId ≠ fileId

/-- The peer has taken the one answer that stands behind an offer that has come out well. -/
lemma movedBy_of_settled {peer : Peer} (h : (start peer).Reaches j) {fileId : FileId} {accepted : Bool}
    (hstate : j.client.prompts.state? fileId = some (if accepted then .accepted else .rejected)) :
    MovedBy ⟨fileId, accepted⟩ (if accepted then .transferring else .rejected) (start peer) j := by
  have haccounts := (sound_of_reaches h).accounts
  obtain ⟨e, he, rfl⟩ := haccounts.sent fileId (by rw [hstate]; cases accepted <;> rfl)
  have hagrees := haccounts.agrees e he
  rw [hstate] at hagrees
  obtain ⟨⟨fileId, answered⟩, fate⟩ := e
  obtain ⟨rfl, rfl⟩ : answered = accepted ∧ fate = .taken := by cases accepted <;> exact hagrees
  obtain ⟨before, after, hbefore, htakes, hafter⟩ := exists_takes h he
  exact ⟨before, after, hbefore, htakes, hafter, Peer.moved_of_respond _ htakes.respond⟩

/-- **Client and peer agree on every offer in every state that they reach**, whatever is late or lost between them. -/
theorem agreement_of_reaches {peer : Peer} (h : (start peer).Reaches j) (fileId : FileId) :
    Agreement (start peer) j fileId := by
  have hsound := (sound_of_reaches h).accounts
  constructor
  · calc j.errands.countP (fun e => e.response.fileId = fileId ∧ e.fate = .taken)
        ≤ j.errands.countP (fun e => e.response.fileId == fileId) := by
          refine List.countP_mono_left fun e _ he => ?_
          simpa using (of_decide_eq_true he).1
      _ = (j.errands.map (·.response.fileId)).count fileId := by
          rw [List.count, List.countP_map]
          rfl
      _ ≤ 1 := List.nodup_iff_count_le_one.1 hsound.nodup fileId
  · exact fun hstate => movedBy_of_settled h hstate
  · exact fun hstate => movedBy_of_settled h hstate
  · intro hstate
    refine hsound.ne_of_not_wasAnswered ?_
    rcases hstate with h | h | h
    · rw [h]
      rfl
    · rw [h]
      rfl
    · rw [h]
      rfl

/-- An offer is accepted, and the client gets to know only after the file has come through. -/
theorem agreement_on_completed_transfer :
    ∃ j, (start (.start "alice")).Reaches j ∧ j.client.prompts.state? "file-1" = some .accepted ∧
      Agreement (start (.start "alice")) j "file-1" := by
  let offered : Joint := { start (.start "alice") with peer := (Peer.start "alice").does (.offer "bob" "a.txt" 3) }
  let polled : Joint := { offered with shown := [offered.peer.transfers] }
  let prompted := polled.tells (.completion (.fetched 1 false (.transfers offered.peer.transfers)))
  let answered := prompted.tells (.command (.respondToPrompt true))
  let taken : Joint :=
    { answered with
      peer := answered.peer.does (.setStatus "file-1" .transferring)
      errands := [⟨⟨"file-1", true⟩, .taken⟩] }
  let completed : Joint := { taken with peer := taken.peer.does (.setStatus "file-1" .completed) }
  let settled := completed.tells (.completion (.responded ⟨"file-1", true⟩ none))
  have hprompted : (start (.start "alice")).Reaches prompted :=
    ((Relation.ReflTransGen.single (.deed _)).tail .poll).tail (.look List.mem_cons_self 1 false)
  have htakes : Takes ⟨"file-1", true⟩ answered taken :=
    ⟨⟨[], [], by decide +kernel, rfl⟩, by decide +kernel, rfl, rfl⟩
  have hcompleted : (start (.start "alice")).Reaches completed :=
    ((hprompted.tail (.command _)).tail (.take htakes)).tail (.deed _)
  have hmem : ⟨⟨"file-1", true⟩, .taken⟩ ∈ completed.errands := List.mem_cons_self
  have hsettled : (start (.start "alice")).Reaches settled := hcompleted.tail (.finish hmem fun _ => rfl)
  exact ⟨settled, hsettled, by decide +kernel, agreement_of_reaches hsettled "file-1"⟩

end Joint

end PeerChat
