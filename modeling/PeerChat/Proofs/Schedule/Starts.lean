import Mathlib.Data.List.Perm.Subperm
import PeerChat.Proofs.Session.Requests
import PeerChat.Schedule.Basic

/-!
What a schedule starts. Whatever happens at a moment, requests are started behind those that were started before, and the
fetches of each resource are numbered on. Of all this only the timers bring polls.

* `performed`: a job makes one call at most, and an answer to it bears its number;
* `begins_startAll`, `begins_perform`, `begins_answer`, `begins_obey`: what is started, and that the numbers go on;
* `change_of_move`: what has to do with polls.
-/

namespace PeerChat

namespace Schedule

/-! ### What the log tells of requests -/

/-- The number of a job, if it fetches the resource. -/
def Job.seq? (resource : Resource) : Job → Option UInt64
  | fetch fetched seq _ => if fetched = resource then some seq else none
  | _ => none

def Entry.job? : Entry → Option Job
  | started job => some job
  | called _ | shown _ => none

namespace Run

/-- What was started, each job with its time. -/
def jobs (r : Run) : List (Nat × Job) := r.trace.filterMap fun (time, entry) => entry.job?.map (time, ·)

/-- The requests that were started, each with its time. -/
def starts (r : Run) : List (Nat × Request) := r.jobs.map fun (time, job) => (time, job.request)

def polls (r : Run) : List (Nat × Request) := r.starts.filter (·.2.isPoll)

/-- The numbers of the fetches of a resource, in the order in which they were started. -/
def numbers (r : Run) (resource : Resource) : List UInt64 := r.jobs.filterMap (·.2.seq? resource)

/-- The numbers of the fetches of a resource that can still be answered. -/
def awaited (r : Run) (resource : Resource) : List Nat :=
  r.queue.filterMap (fun job => (job.seq? resource).map UInt64.toNat) ++ r.waiting.filterMap (·.2.number? resource)

/-- The fetches of each resource are numbered from one on, and every answer bears the number of its fetch: those that are
still to come, no two of them the same one, and the newest one that the session took. -/
structure Numbered (r : Run) : Prop where
  last (resource : Resource) : r.sequences.get resource = UInt64.ofNat (r.numbers resource).length
  numbers (resource : Resource) :
    r.numbers resource = (List.range' 1 (r.numbers resource).length).map UInt64.ofNat
  awaited (resource : Resource) : (r.awaited resource).Subperm ((r.numbers resource).map UInt64.toNat)
  taken (resource : Resource) (seq : Nat) :
    r.session.store.applied.get resource = some seq → seq ∈ (r.numbers resource).map UInt64.toNat

variable (r : Run)

lemma jobs_note (entry : Entry) : (r.note entry).jobs = r.jobs ++ (entry.job?.map (r.now, ·)).toList := by
  unfold jobs trace note
  rw [List.reverse_cons, List.filterMap_append]
  cases h : entry.job? <;> simp [h]

/-! ### Starting requests at a moment -/

/-- The one schedule came of the other by starting these requests, without leaving the moment. -/
structure Begins (r : Run) (new : List Request) (r' : Run) : Prop where
  now : r'.now = r.now
  timers : r'.timers = r.timers
  ended : r'.ended = r.ended
  commands : r'.commands ⊆ r.commands
  starts : r'.starts = r.starts ++ new.map (r.now, ·)
  numbered : r.Numbered → r'.Numbered

variable {r}

lemma Begins.trans {r' r'' : Run} {new new' : List Request} (h : Begins r new r') (h' : Begins r' new' r'') :
    Begins r (new ++ new') r'' where
  now := h'.now.trans h.now
  timers := h'.timers.trans h.timers
  ended := h'.ended.trans h.ended
  commands := List.Subset.trans h'.commands h.commands
  starts := by rw [h'.starts, h.starts, h.now, List.map_append, List.append_assoc]
  numbered hn := h'.numbered (h.numbered hn)

/-- Without new jobs, the numbers stay right as long as no answer comes from nowhere. -/
lemma begins_of_jobs_eq {r' : Run} (hnow : r'.now = r.now) (htimers : r'.timers = r.timers) (hended : r'.ended = r.ended)
    (hcommands : r'.commands ⊆ r.commands) (hjobs : r'.jobs = r.jobs) (hsequences : r'.sequences = r.sequences)
    (hawaited : ∀ resource, (r'.awaited resource).Subperm (r.awaited resource))
    (htaken : ∀ resource seq, r'.session.store.applied.get resource = some seq →
      r.session.store.applied.get resource = some seq ∨ seq ∈ r.awaited resource) : Begins r [] r' := by
  have hnumbers (resource : Resource) : r'.numbers resource = r.numbers resource := by
    unfold numbers
    rw [hjobs]
  refine ⟨hnow, htimers, hended, hcommands, ?_, fun hn => ⟨?_, ?_, ?_, ?_⟩⟩
  · unfold starts
    rw [hjobs, List.map_nil, List.append_nil]
  · intro resource
    rw [hnumbers, hsequences]
    exact hn.last resource
  · intro resource
    rw [hnumbers]
    exact hn.numbers resource
  · intro resource
    rw [hnumbers]
    exact (hawaited resource).trans (hn.awaited resource)
  · intro resource seq hseq
    rw [hnumbers]
    exact (htaken resource seq hseq).elim (hn.taken resource seq) fun h => (hn.awaited resource).subset h

variable (r)

lemma begins_refl : Begins r [] r :=
  begins_of_jobs_eq rfl rfl rfl (List.Subset.refl _) rfl rfl (fun _ => .refl _) fun _ _ => Or.inl

lemma begins_enqueue (job : Job) (sequences : PerResource UInt64)
    (h : ∀ resource, job.seq? resource = none ∧ sequences.get resource = r.sequences.get resource ∨
      job.seq? resource = some (r.sequences.get resource + 1) ∧
        sequences.get resource = r.sequences.get resource + 1) :
    Begins r [job.request] ({ r with sequences := sequences }.enqueue job) := by
  have hjobs : ({ r with sequences := sequences }.enqueue job).jobs = r.jobs ++ [(r.now, job)] := r.jobs_note _
  have hnumbers (resource : Resource) : ({ r with sequences := sequences }.enqueue job).numbers resource =
      r.numbers resource ++ (job.seq? resource).toList := by
    unfold numbers
    rw [hjobs, List.filterMap_append]
    cases hseq : job.seq? resource <;> simp [hseq]
  have hawaited (resource : Resource) : ({ r with sequences := sequences }.enqueue job).awaited resource =
      r.queue.filterMap (fun job => (job.seq? resource).map UInt64.toNat) ++
        ((job.seq? resource).toList.map UInt64.toNat ++ r.waiting.filterMap (·.2.number? resource)) := by
    unfold awaited enqueue note
    rw [List.filterMap_append, List.append_assoc]
    cases hseq : job.seq? resource <;> simp [hseq]
  refine ⟨rfl, rfl, rfl, List.Subset.refl _, ?_, fun hn => ⟨?_, ?_, ?_, ?_⟩⟩
  · unfold starts
    rw [hjobs, List.map_append]
    rfl
  · intro resource
    show sequences.get resource = _
    rw [hnumbers]
    rcases h resource with ⟨hseq, hget⟩ | ⟨hseq, hget⟩
    · rw [hseq, hget, Option.toList_none, List.append_nil]
      exact hn.last resource
    · rw [hseq, hget, hn.last resource, Option.toList_some, List.length_append, UInt64.ofNat_add]
      rfl
  · intro resource
    rw [hnumbers]
    rcases h resource with ⟨hseq, -⟩ | ⟨hseq, -⟩
    · rw [hseq, Option.toList_none, List.append_nil]
      exact hn.numbers resource
    · rw [hseq, Option.toList_some, List.length_append, List.length_singleton, List.range'_1_concat, List.map_append,
        ← hn.numbers resource, hn.last resource, List.map_singleton, Nat.add_comm 1, UInt64.ofNat_add]
      rfl
  · intro resource
    rw [hnumbers, hawaited, List.map_append]
    have hperm := List.perm_append_comm_assoc (r.queue.filterMap fun job => (job.seq? resource).map UInt64.toNat)
      ((job.seq? resource).toList.map UInt64.toNat) (r.waiting.filterMap (·.2.number? resource))
    refine hperm.subperm.trans ?_
    exact ((List.subperm_append_left _).2 (hn.awaited resource)).trans List.perm_append_comm.subperm
  · intro resource seq hseq
    rw [hnumbers, List.map_append]
    exact List.mem_append_left _ (hn.taken resource seq hseq)

lemma begins_start (request : Request) : Begins r [request] (r.start request) := by
  cases request with
  | fetch resource forced =>
    refine r.begins_enqueue (.fetch resource (r.sequences.get resource + 1) forced) _ fun other => ?_
    by_cases hother : resource = other
    · subst hother
      exact Or.inr ⟨if_pos rfl, PerResource.get_set_self _ _ _⟩
    · exact Or.inl ⟨if_neg hother, PerResource.get_set_of_ne _ _ (Ne.symm hother)⟩
  | probe => exact r.begins_enqueue .probe r.sequences fun _ => Or.inl ⟨rfl, rfl⟩
  | sendText text purpose => exact r.begins_enqueue (.sendText text purpose) r.sequences fun _ => Or.inl ⟨rfl, rfl⟩
  | sendFile path target => exact r.begins_enqueue (.sendFile path target) r.sequences fun _ => Or.inl ⟨rfl, rfl⟩
  | respond response => exact r.begins_enqueue (.respond response) r.sequences fun _ => Or.inl ⟨rfl, rfl⟩

/-- The requests of a list are started in their order, all at the same moment. -/
theorem begins_startAll (requests : List Request) : Begins r requests (r.startAll requests) := by
  induction requests generalizing r with
  | nil => exact r.begins_refl
  | cons request requests ih => exact (r.begins_start request).trans (ih _)

lemma begins_take (turn : Turn) : Begins { r with session := turn.session } turn.requests (r.take turn) := by
  have hnotes : ∀ (events : List Event) (r : Run),
      Begins r [] (events.foldl (fun r event => r.note (.shown event)) r) := by
    intro events
    induction events with
    | nil => exact begins_refl
    | cons event events ih =>
      intro r
      have hjobs : (r.note (.shown event)).jobs = r.jobs := (r.jobs_note _).trans (List.append_nil _)
      have hnote : Begins r [] (r.note (.shown event)) :=
        begins_of_jobs_eq rfl rfl rfl (List.Subset.refl _) hjobs rfl (fun _ => .refl _) fun _ _ => Or.inl
      exact hnote.trans (ih _)
  exact (hnotes turn.events _).trans (begins_startAll _ turn.requests)

/-! ### Calls -/

/-- What a job can be answered with. -/
inductive Answers : Job → Completion → Prop
  | fetched {seq : UInt64} {forced : Bool} {snapshot : Snapshot} :
    Answers (.fetch snapshot.resource seq forced) (.fetched seq.toNat forced snapshot)
  | fetchFailed {resource : Resource} {seq : UInt64} {forced : Bool} {failure : Failure} :
    Answers (.fetch resource seq forced) (.fetchFailed resource failure)
  | probed {failure : Option Failure} : Answers .probe (.probed failure)
  | sent {text : String} {purpose : SendPurpose} {failure : Option Failure} :
    Answers (.sendText text purpose) (.sent purpose failure)
  | fileOffered {path : String} {target : Username} {failure : Option Failure} :
    Answers (.sendFile path target) (.fileOffered path target failure)
  | responded {response : Transfer.Response} {failure : Option Failure} :
    Answers (.respond response) (.responded response failure)

lemma Answers.number? {job : Job} {completion : Completion} (h : Answers job completion) (resource : Resource) :
    (completion.number? resource).toList.Sublist ((job.seq? resource).map UInt64.toNat).toList := by
  cases h with
  | fetched =>
    unfold Completion.number? Job.seq?
    dsimp only
    split <;> exact List.Sublist.refl _
  | fetchFailed | probed | sent | fileOffered | responded => exact List.nil_sublist _

/-- A job starts no other, and is answered once at most. -/
structure Performs (r : Run) (job : Job) (r' : Run) : Prop where
  unchanged : ∃ log tally waiting, r' = { r with log := log, tally := tally, waiting := waiting }
  jobs : r'.jobs = r.jobs
  waiting : ∃ answer : Option (Nat × Completion), r'.waiting = r.waiting ++ answer.toList ∧ ∀ a ∈ answer, Answers job a.2

lemma performs_ask (call : Call) {reaction : Reaction α} {finish : Except Failure α → Completion} {job : Job}
    (h : ∀ delay result, reaction = some (delay, result) → Answers job (finish result)) :
    Performs r job (r.ask call reaction finish) := by
  have hjobs : (r.note (.called call)).jobs = r.jobs := (r.jobs_note _).trans (List.append_nil _)
  unfold ask
  split
  · exact ⟨⟨_, _, _, rfl⟩, hjobs, none, (List.append_nil _).symm, fun _ h => nomatch h⟩
  · next delay result =>
    refine ⟨⟨_, _, _, rfl⟩, hjobs, some _, rfl, fun a ha => ?_⟩
    cases ha
    exact h delay result rfl

theorem performed (setting : Setting) (job : Job) : Performs r job (r.perform setting job) := by
  cases job with
  | fetch resource seq forced =>
    refine r.performs_ask (.fetch resource) fun delay result hresult => ?_
    cases result with
    | ok snapshot =>
      obtain rfl := Service.resource_of_fetch hresult
      exact .fetched
    | error failure => exact .fetchFailed
  | probe => exact r.performs_ask .probe fun _ _ _ => .probed
  | sendText text purpose => exact r.performs_ask (.sendText text) fun _ _ _ => .sent
  | respond response => exact r.performs_ask (.respond response) fun _ _ _ => .responded
  | sendFile path target =>
    unfold perform
    dsimp only
    split
    · next upload _ => exact r.performs_ask (.sendFile upload) fun _ _ _ => .fileOffered
    · refine ⟨⟨_, _, _, rfl⟩, rfl, some _, rfl, fun a ha => ?_⟩
      cases ha
      exact .fileOffered

variable {r}

/-- A call starts nothing, and its answer takes the place of the job. -/
lemma begins_perform (setting : Setting) {before after : List Job} {job : Job}
    (hqueue : r.queue = before ++ job :: after) :
    Begins r [] ({ r with queue := before ++ after }.perform setting job) := by
  obtain ⟨⟨log, tally, waiting, hrun⟩, hjobs, answer, hwaiting, hanswer⟩ :=
    performed { r with queue := before ++ after } setting job
  rw [hrun] at hjobs hwaiting ⊢
  refine begins_of_jobs_eq rfl rfl rfl (List.Subset.refl _) hjobs rfl (fun resource => ?_) fun _ _ => Or.inl
  have hnumber : (answer.toList.filterMap (·.2.number? resource)).Sublist
      ([job].filterMap fun job => (job.seq? resource).map UInt64.toNat) := by
    cases answer with
    | none => exact List.nil_sublist _
    | some a =>
      have hsub := (hanswer a rfl).number? resource
      cases hjob : (job.seq? resource).map UInt64.toNat <;> cases ha : a.2.number? resource <;> simp_all
  -- of the numbers that are awaited, that of the job moves from the queue to its answer, or is lost
  have hsplit : before ++ job :: after = before ++ ([job] ++ after) := rfl
  unfold awaited
  rw [show waiting = r.waiting ++ answer.toList from hwaiting, hqueue, hsplit]
  simp only [List.filterMap_append]
  refine ((List.Sublist.refl _).append ((List.Sublist.refl _).append hnumber)).subperm.trans (List.Perm.subperm ?_)
  refine List.perm_iff_count.2 fun seq => ?_
  simp only [List.count_append]
  omega

/-! ### Moves -/

/-- The session takes over what an answer tells it, and knows no number but of an answer. -/
lemma begins_answer {before after : List (Nat × Completion)} {time : Nat} {completion : Completion}
    (hwaiting : r.waiting = before ++ (time, completion) :: after) :
    Begins r (r.session.complete completion).requests
      ({ r with waiting := before ++ after }.take (r.session.complete completion)) := by
  have hsub : (before ++ after).Sublist r.waiting := by
    rw [hwaiting]
    exact (List.Sublist.refl _).append (List.sublist_cons_self _ _)
  have htold : Begins r [] { r with waiting := before ++ after, session := (r.session.complete completion).session } := by
    refine begins_of_jobs_eq rfl rfl rfl (List.Subset.refl _) rfl rfl
      (fun resource => ((List.Sublist.refl _).append (hsub.filterMap _)).subperm) fun resource seq hseq => ?_
    refine (r.session.applied_complete hseq).imp_right fun hnumber => List.mem_append_right _ ?_
    refine List.mem_filterMap.2 ⟨(time, completion), ?_, hnumber⟩
    rw [hwaiting]
    exact List.mem_append_cons_self
  exact htold.trans (begins_take { r with waiting := before ++ after } (r.session.complete completion))

lemma begins_obey {before after : List (Nat × Command)} {time : Nat} {command : Command}
    (hcommands : r.commands = before ++ (time, command) :: after) (hended : r.ended = false)
    (hstays : command ≠ .shutdown) :
    Begins r (r.session.command command).requests ({ r with commands := before ++ after }.obey command) := by
  have hsub : before ++ after ⊆ r.commands := by
    rw [hcommands]
    exact ((List.Sublist.refl _).append (List.sublist_cons_self _ _)).subset
  have htold : Begins r [] { r with commands := before ++ after, session := (r.session.command command).session } := by
    refine begins_of_jobs_eq rfl rfl rfl hsub rfl rfl (fun _ => .refl _) fun resource seq hseq => Or.inl ?_
    rw [← r.session.store_command command]
    exact hseq
  have hobey : ({ r with commands := before ++ after } : Run).obey command =
      { r with commands := before ++ after }.take (r.session.command command) := by
    simp only [obey, hended, if_neg hstays, Bool.false_eq_true, if_false]
  rw [hobey]
  exact htold.trans (begins_take { r with commands := before ++ after } (r.session.command command))

/-- What a move has to do with polls: a timer fires, or what is started is no poll. -/
inductive Change (setting : Setting) (r r' : Run) : Prop
  | fired (timer : Timer) (due : r.timers.get timer ≤ r.now)
    (begins : Begins { r with timers := r.timers.set timer (r.now + setting.periods.get timer) } timer.requests r')
  | other {new : List Request} (begins : Begins r new r') (polls : new.filter Request.isPoll = [])

/-- Of all that can happen, the timers alone bring polls. -/
theorem change_of_move {setting : Setting} {r' : Run} (h : Move setting r r') (hended : r.ended = false)
    (hstays : ∀ command ∈ r.commands, command.2 ≠ .shutdown) : Change setting r r' := by
  cases h with
  | tick timer due => exact .fired timer due (begins_startAll _ timer.requests)
  | call queue => exact .other (begins_perform setting queue) rfl
  | @answer before after time completion waiting due =>
    exact .other (begins_answer waiting) (r.session.polls_requests_turn (.completion completion))
  | @command before after time command commands first due =>
    have hcommand : command ≠ .shutdown := hstays (time, command) (by rw [commands]; exact List.mem_append_cons_self)
    exact .other (begins_obey commands hended hcommand) (r.session.polls_requests_turn (.command command))

end Run

end Schedule

end PeerChat
