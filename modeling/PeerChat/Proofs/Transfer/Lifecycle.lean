import Mathlib.Data.List.Basic
import Mathlib.Data.List.Induction
import Mathlib.Tactic.ByContra
import PeerChat.Proofs.Transfer.Act
import PeerChat.Proofs.Transfer.Look

/-!
The life of offers under any calls: looks at any queues, answers to the open prompt or to any offer, and ends of any
answers, in any order.

* `carries_call`: every call is a row of acts on different offers, and its reply tells just these acts;
* `path_run`: so is every run;
* `lifecycle_run`: what holds of the prompts and of all that was told, after any calls.
-/

namespace PeerChat.Transfer

/-- A call on the prompts. -/
inductive PromptCall
  | scan (queue : List Offer)
  | respond (accepted : Bool)
  | respondTo (fileId : FileId) (accepted : Bool)
  | complete (fileId : FileId) (succeeded : Bool)
deriving DecidableEq, Repr

/-- What a call answers. -/
inductive PromptReply
  | updates (updates : List PromptUpdate)
  | response (response : Response)
  | refusal (refusal : PromptRefusal)
  | done
deriving DecidableEq, Repr

namespace PromptReply

/-- The updates in a reply. -/
def updatesIn : PromptReply → List PromptUpdate
  | .updates told => told
  | .response _ | .refusal _ | .done => []

/-- The responses in a reply. -/
def responsesIn : PromptReply → List Response
  | .response given => [given]
  | .updates _ | .refusal _ | .done => []

/-- The reply to an answer. -/
def ofAnswer (p : Prompts) : Except PromptRefusal (Prompts × Response) → Prompts × PromptReply
  | .ok (after, given) => (after, .response given)
  | .error cause => (p, .refusal cause)

end PromptReply

namespace Prompts

/-- Makes a call; a refused answer leaves the prompts as they are. -/
def call (p : Prompts) : PromptCall → Prompts × PromptReply
  | .scan queue => ((p.scan queue).1, .updates (p.scan queue).2)
  | .respond accepted => PromptReply.ofAnswer p (p.respond accepted)
  | .respondTo fileId accepted => PromptReply.ofAnswer p (p.respondTo fileId accepted)
  | .complete fileId succeeded => (p.complete fileId succeeded, .done)

/-- The prompts after the calls of a run, with all replies in their order. -/
def run (calls : List PromptCall) : Prompts × List PromptReply :=
  calls.foldl (fun (p, replies) c => ((p.call c).1, replies ++ [(p.call c).2])) (empty, [])

lemma run_concat (calls : List PromptCall) (c : PromptCall) :
    run (calls ++ [c]) = (((run calls).1.call c).1, (run calls).2 ++ [((run calls).1.call c).2]) := by
  unfold run
  rw [List.foldl_append]
  rfl

/-! ### Calls as rows of acts -/

/-- The row of acts leads from `p` to where the call leads, on different offers, and the reply tells it. -/
structure Carries (p : Prompts) (acts : List Act) (q : Prompts) (reply : PromptReply) : Prop where
  path : Path p acts q
  nodup : (acts.map Act.fileId).Nodup
  updates : reply.updatesIn = acts.filterMap Act.update?
  responses : reply.responsesIn = acts.filterMap Act.response?

variable {p : Prompts}

lemma Path.single {a : Act} (ha : p.Allows a) : Path p [a] (p.act a) := by
  show Path p ([] ++ [a]) _
  exact .concat .nil ha

lemma Carries.nil {reply : PromptReply} (hupdates : reply.updatesIn = []) (hresponses : reply.responsesIn = []) :
    Carries p [] p reply where
  path := .nil
  nodup := List.nodup_nil
  updates := hupdates
  responses := hresponses

lemma Carries.single {a : Act} (ha : p.Allows a) {reply : PromptReply}
    (hupdates : reply.updatesIn = [a].filterMap Act.update?)
    (hresponses : reply.responsesIn = [a].filterMap Act.response?) : Carries p [a] (p.act a) reply where
  path := .single ha
  nodup := by simp
  updates := hupdates
  responses := hresponses

/-- What a look at a queue can bring: an offer is raised, or one that does not wait in the queue is withdrawn. -/
inductive OfLook (queue : List Offer) : Act → Prop
  | raise (prompt : Prompt) : OfLook queue (.raise prompt)
  | withdraw {fileId : FileId} (gone : ∀ offer ∈ queue, offer.fileId = fileId → offer.isPendingInbound = false) :
      OfLook queue (.withdraw fileId)

lemma carries_scan (hp : p.Sound) (queue : List Offer) :
    ∃ acts, Carries p acts (p.scan queue).1 (.updates (p.scan queue).2) ∧ ∀ a ∈ acts, OfLook queue a := by
  unfold scan
  split
  · next hcurrent =>
    rcases p.raiseNext_split queue with ⟨_, o, _, -, -, hnew, -, hnext⟩ | ⟨-, hnext⟩
    · rw [hnext]
      have hraise : p.Allows (.raise o.prompt) := ⟨hcurrent, hnew⟩
      exact ⟨[.raise o.prompt], .single hraise rfl rfl, by simp [OfLook.raise]⟩
    · rw [hnext]
      exact ⟨[], .nil rfl rfl, by simp⟩
  · next prompt hcurrent =>
    split
    · exact ⟨[], .nil rfl rfl, by simp⟩
    · next hwaits =>
      have hwithdraw : p.Allows (.withdraw prompt.fileId) := by
        show p.current.map _ = _
        rw [hcurrent]
        rfl
      have hgone : OfLook queue (.withdraw prompt.fileId) := .withdraw fun offer hoffer hid => by
        rw [List.any_eq_true] at hwaits
        by_contra hpending
        exact hwaits ⟨offer, hoffer, by simpa [hid] using hpending⟩
      rcases (p.withdraw prompt.fileId).raiseNext_split queue with ⟨_, o, _, -, -, hnew, -, hnext⟩ | ⟨-, hnext⟩
      · rw [hnext]
        -- the withdrawn offer was raised, and withdrawing forgets nothing
        have hne : o.fileId ≠ prompt.fileId := by
          intro heq
          have hold : p.wasPrompted o.fileId = false := hnew
          have hstate := (hp.prompted_iff prompt.fileId).2 hwithdraw
          rw [← heq, hp.state?_eq_none hold] at hstate
          exact nomatch hstate
        refine ⟨[.withdraw prompt.fileId, .raise o.prompt],
          ⟨.concat (.single hwithdraw) ⟨rfl, hnew⟩, ?_, rfl, rfl⟩, ?_⟩
        · simpa [Act.fileId, Offer.prompt] using Ne.symm hne
        · simp [hgone, OfLook.raise]
      · rw [hnext]
        exact ⟨[.withdraw prompt.fileId], .single hwithdraw rfl rfl, by simp [hgone]⟩

lemma carries_respondTo (p : Prompts) (fileId : FileId) (accepted : Bool) :
    ∃ acts, Carries p acts (PromptReply.ofAnswer p (p.respondTo fileId accepted)).1
      (PromptReply.ofAnswer p (p.respondTo fileId accepted)).2 := by
  unfold respondTo
  split
  · next h =>
    have hanswer : p.Allows (.answer ⟨fileId, accepted⟩) := h
    exact ⟨[.answer ⟨fileId, accepted⟩], .single hanswer rfl rfl⟩
  · exact ⟨[], .nil rfl rfl⟩

lemma carries_complete (p : Prompts) (fileId : FileId) (succeeded : Bool) :
    ∃ acts, Carries p acts (p.complete fileId succeeded) .done ∧
      ∀ a ∈ acts, ∃ accepted, a = .settle ⟨fileId, accepted⟩ succeeded := by
  unfold complete
  split
  · next accepted h =>
    have hsettle : p.Allows (.settle ⟨fileId, accepted⟩ succeeded) := h
    exact ⟨[.settle ⟨fileId, accepted⟩ succeeded], .single hsettle rfl rfl, by simp⟩
  · exact ⟨[], .nil rfl rfl, by simp⟩

/-- **Every call is a row of acts.** -/
theorem carries_call (hp : p.Sound) (c : PromptCall) : ∃ acts, Carries p acts (p.call c).1 (p.call c).2 := by
  cases c with
  | scan queue => exact (carries_scan hp queue).imp fun _ h => h.1
  | respond accepted =>
    unfold call respond
    cases p.current with
    | some prompt => exact carries_respondTo p prompt.fileId accepted
    | none => exact ⟨[], .nil rfl rfl⟩
  | respondTo fileId accepted => exact carries_respondTo p fileId accepted
  | complete fileId succeeded => exact (carries_complete p fileId succeeded).imp fun _ h => h.1

/-! ### Runs as rows of acts -/

lemma Path.append {acts more : List Act} {q r : Prompts} (h : Path p acts q) (hmore : Path q more r) :
    Path p (acts ++ more) r := by
  induction hmore with
  | nil => rwa [List.append_nil]
  | concat _ ha ih =>
    rw [← List.append_assoc]
    exact .concat ih ha

/-- The updates told in a run, in their order. -/
def updates (calls : List PromptCall) : List PromptUpdate := (run calls).2.flatMap PromptReply.updatesIn

/-- The responses given in a run, in their order. -/
def responses (calls : List PromptCall) : List Response := (run calls).2.flatMap PromptReply.responsesIn

lemma updates_concat (calls : List PromptCall) (c : PromptCall) :
    updates (calls ++ [c]) = updates calls ++ ((run calls).1.call c).2.updatesIn := by
  unfold updates
  rw [run_concat, List.flatMap_append]
  simp

lemma responses_concat (calls : List PromptCall) (c : PromptCall) :
    responses (calls ++ [c]) = responses calls ++ ((run calls).1.call c).2.responsesIn := by
  unfold responses
  rw [run_concat, List.flatMap_append]
  simp

/-- Every run is a row of acts, which is told in full. -/
theorem path_run (calls : List PromptCall) :
    ∃ acts, Path empty acts (run calls).1 ∧ updates calls = acts.filterMap Act.update? ∧
      responses calls = acts.filterMap Act.response? := by
  induction calls using List.reverseRecOn with
  | nil => exact ⟨[], .nil, rfl, rfl⟩
  | append_singleton calls c ih =>
    obtain ⟨acts, hpath, hupdates, hresponses⟩ := ih
    obtain ⟨more, hmore⟩ := carries_call (sound_path hpath sound_empty) c
    refine ⟨acts ++ more, ?_, ?_, ?_⟩
    · rw [run_concat]
      exact hpath.append hmore.path
    · rw [updates_concat, hupdates, hmore.updates, List.filterMap_append]
    · rw [responses_concat, hresponses, hmore.responses, List.filterMap_append]

theorem sound_run (calls : List PromptCall) : (run calls).1.Sound := by
  obtain ⟨acts, hpath, -, -⟩ := path_run calls
  exact sound_path hpath sound_empty

/-! ### At most once -/

/-- The id that an update raises. -/
def raisedId? : PromptUpdate → Option FileId
  | .raised prompt => some prompt.fileId
  | .withdrawn _ => none

lemma raisedIds_of_acts (acts : List Act) :
    (acts.filterMap Act.update?).filterMap raisedId? = (acts.filterMap Act.raised?).map (·.fileId) := by
  rw [List.filterMap_filterMap, List.map_filterMap]
  refine List.filterMap_congr fun a _ => ?_
  cases a <;> rfl

/-- Acts that lead to one rank happen at most once to each offer. -/
lemma nodup_of_rank {acts : List Act} {q : Prompts} (h : Path empty acts q) (pick : Act → Option FileId) (rank : Nat)
    (hpick : ∀ a x, pick a = some x → a.fileId = x ∧ a.target.rank = rank) : (acts.filterMap pick).Nodup := by
  refine List.pairwise_filterMap.2 ((path_ranks h).1.imp ?_)
  rintro a b hlt x ha y hb rfl
  obtain ⟨hax, har⟩ := hpick a x ha
  obtain ⟨hbx, hbr⟩ := hpick b x hb
  have := hlt (hax.trans hbx.symm)
  omega

lemma eq_of_rank_eq {acts : List Act} {q : Prompts} (h : Path empty acts q) {a b : Act} (ha : a ∈ acts) (hb : b ∈ acts)
    (hid : a.fileId = b.fileId) (hrank : a.target.rank = b.target.rank) : a = b := by
  have hpairs := (path_ranks h).1
  clear h
  induction acts with
  | nil => exact absurd ha List.not_mem_nil
  | cons c acts ih =>
    obtain ⟨hhead, htail⟩ := List.pairwise_cons.1 hpairs
    rcases List.mem_cons.1 ha with rfl | ha'
    · rcases List.mem_cons.1 hb with rfl | hb'
      · rfl
      · have := hhead b hb' hid
        omega
    · rcases List.mem_cons.1 hb with rfl | hb'
      · have := hhead a ha' hid.symm
        omega
      · exact ih ha' hb' htail

lemma nodup_path_raised {acts : List Act} {q : Prompts} (h : Path empty acts q) :
    ((acts.filterMap Act.raised?).map (·.fileId)).Nodup := by
  rw [List.map_filterMap]
  refine nodup_of_rank h _ 1 fun a x ha => ?_
  cases a with
  | raise prompt => exact ⟨Option.some_inj.1 ha, rfl⟩
  | withdraw | answer | settle => exact nomatch ha

lemma nodup_path_answered {acts : List Act} {q : Prompts} (h : Path empty acts q) :
    ((acts.filterMap Act.response?).map (·.fileId)).Nodup := by
  rw [List.map_filterMap]
  refine nodup_of_rank h _ 2 fun a x ha => ?_
  cases a with
  | answer response => exact ⟨Option.some_inj.1 ha, rfl⟩
  | raise | withdraw | settle => exact nomatch ha

variable (calls : List PromptCall)

lemma nodup_raised : ((updates calls).filterMap raisedId?).Nodup := by
  obtain ⟨acts, hpath, hupdates, -⟩ := path_run calls
  rw [hupdates, raisedIds_of_acts]
  exact nodup_path_raised hpath

lemma nodup_answered : ((responses calls).map (·.fileId)).Nodup := by
  obtain ⟨acts, hpath, -, hresponses⟩ := path_run calls
  rw [hresponses]
  exact nodup_path_answered hpath

lemma ne_of_withdrawn {fileId : FileId} (hw : .withdrawn fileId ∈ updates calls) {response : Response}
    (hr : response ∈ responses calls) : response.fileId ≠ fileId := by
  obtain ⟨acts, hpath, hupdates, hresponses⟩ := path_run calls
  rw [hupdates] at hw
  rw [hresponses] at hr
  obtain ⟨a, ha, hau⟩ := List.mem_filterMap.1 hw
  obtain ⟨b, hb, hbr⟩ := List.mem_filterMap.1 hr
  -- the two acts would be one: withdrawing and answering lead to the same rank
  cases a with
  | raise | answer | settle => exact nomatch hau
  | withdraw withdrawn =>
    cases b with
    | raise | withdraw | settle => exact nomatch hbr
    | answer answered =>
      obtain rfl : withdrawn = fileId := by simpa [Act.update?] using hau
      obtain rfl : answered = response := Option.some_inj.1 hbr
      exact fun hid => nomatch eq_of_rank_eq hpath ha hb hid.symm rfl

/-! ### The life of an offer -/

lemma moves_call (c : PromptCall) (fileId : FileId) :
    ((run calls).1.call c).1.state? fileId = (run calls).1.state? fileId ∨
      Moves ((run calls).1.state? fileId) (((run calls).1.call c).1.state? fileId) := by
  obtain ⟨acts, hacts⟩ := carries_call (sound_run calls) c
  exact moves_path hacts.path (sound_run calls) hacts.nodup fileId

lemma final_run (more : List PromptCall) {fileId : FileId} {state : PromptState} (hfinal : state.isFinal = true)
    (h : (run calls).1.state? fileId = some state) : (run (calls ++ more)).1.state? fileId = some state := by
  induction more using List.reverseRecOn with
  | nil => rwa [List.append_nil]
  | append_singleton more c ih =>
    rw [← List.append_assoc, run_concat]
    have hmoves := moves_call (calls ++ more) c fileId
    rw [ih] at hmoves
    rcases hmoves with heq | hmoves
    · exact heq
    · rw [hmoves.isFinal_eq_false] at hfinal
      exact nomatch hfinal

lemma call_of_refusal {c : PromptCall} {cause : PromptRefusal} (h : (p.call c).2 = .refusal cause) :
    (p.call c).1 = p := by
  have hanswer : ∀ given : Except PromptRefusal (Prompts × Response),
      (PromptReply.ofAnswer p given).2 = .refusal cause → (PromptReply.ofAnswer p given).1 = p := by
    intro given hgiven
    cases given with
    | ok => exact nomatch hgiven
    | error => rfl
  cases c with
  | scan | complete => exact nomatch h
  | respond | respondTo => exact hanswer _ h

/-- What holds of the prompts and of all that was told, after the calls of a run. -/
structure Lifecycle (calls : List PromptCall) : Prop where
  /-- The ids that stand somewhere are those that were raised. -/
  raised_iff (fileId : FileId) :
    (run calls).1.wasPrompted fileId = true ↔ ((run calls).1.state? fileId).isSome = true
  /-- The id of the open prompt is the one that stands at prompted. -/
  prompted_iff (fileId : FileId) :
    (run calls).1.state? fileId = some .prompted ↔ (run calls).1.current.map (·.fileId) = some fileId
  /-- The next call leaves an offer where it stands or moves it along one edge. -/
  moves (c : PromptCall) (fileId : FileId) :
    ((run calls).1.call c).1.state? fileId = (run calls).1.state? fileId ∨
      Moves ((run calls).1.state? fileId) (((run calls).1.call c).1.state? fileId)
  /-- The final states are never left. -/
  final (more : List PromptCall) (fileId : FileId) (state : PromptState) :
    state.isFinal = true → (run calls).1.state? fileId = some state →
      (run (calls ++ more)).1.state? fileId = some state
  /-- No offer is raised twice. -/
  nodup_raised : ((updates calls).filterMap raisedId?).Nodup
  /-- No offer is answered twice. -/
  nodup_answered : ((responses calls).map (·.fileId)).Nodup
  /-- No offer is both withdrawn and answered. -/
  disjoint (fileId : FileId) (response : Response) :
    .withdrawn fileId ∈ updates calls → response ∈ responses calls → response.fileId ≠ fileId
  /-- A refused call changes nothing. -/
  refused (c : PromptCall) (cause : PromptRefusal) :
    ((run calls).1.call c).2 = .refusal cause → ((run calls).1.call c).1 = (run calls).1

/-- **Every run keeps to the life of an offer**: each offer is raised, answered and closed at most once, in this order,
whatever is called with whatever ids. -/
theorem lifecycle_run : Lifecycle calls where
  raised_iff := (sound_run calls).raised_iff
  prompted_iff := (sound_run calls).prompted_iff
  moves := moves_call calls
  final more _ _ hfinal h := final_run calls more hfinal h
  nodup_raised := nodup_raised calls
  nodup_answered := nodup_answered calls
  disjoint _ _ hw hr := ne_of_withdrawn calls hw hr
  refused _ _ h := call_of_refusal h

end Prompts

end PeerChat.Transfer
