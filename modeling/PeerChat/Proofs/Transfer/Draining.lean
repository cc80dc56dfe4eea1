import PeerChat.Proofs.Transfer.Lifecycle

/-!
How a queue is put to the user offer by offer. A look at a queue raises the first offer in it that waits and was never
raised, unless the prompt of a waiting offer is open; so looks and answers in turn bring all of them before the user.

* `wasPrompted_run`: the ids on record as raised are those that the updates of the run have raised;
* `unseen`: what a queue still holds for the user, and `agenda_unseen`: what that is;
* `round_of_cons`, `round_of_nil`: one look and one answer;
* `reached_rounds`: any number of them;
* `Still`: a queue of which nothing is left to be seen, and `still_run`: it stays so;
* `surfaces_run`: what a look at any queue brings after any run, and how the queue is drained.
-/

namespace PeerChat.Transfer

/-- The offer waits for the user under an id. -/
def Offer.waitsAs (fileId : FileId) (o : Offer) : Bool := o.isPendingInbound && o.fileId == fileId

lemma Offer.waitsAs_iff {fileId : FileId} {o : Offer} :
    o.waitsAs fileId = true ↔ o.isPendingInbound = true ∧ o.fileId = fileId := by
  simp [waitsAs]

namespace Prompts

/-! ### What was raised -/

/-- The ids that were raised in a run, in their order. -/
def raisedIds (calls : List PromptCall) : List FileId := (updates calls).filterMap raisedId?

lemma wasPrompted_path {acts : List Act} {q : Prompts} (h : Path empty acts q) (x : FileId) :
    q.wasPrompted x = true ↔ x ∈ (acts.filterMap Act.raised?).map (·.fileId) := by
  induction h with
  | nil => simp [wasPrompted, empty]
  | @concat acts q a hpath ha ih =>
    rw [List.filterMap_append, List.map_append, List.mem_append, ← ih]
    cases a with
    | raise prompt =>
      show (q.raised.insert prompt.fileId).contains x = true ↔ q.raised.contains x = true ∨ x ∈ [prompt.fileId]
      rw [NameSet.contains_iff, NameSet.contains_iff, NameSet.mem_insert, List.mem_singleton, or_comm]
    | withdraw | answer | settle =>
      show q.wasPrompted x = true ↔ q.wasPrompted x = true ∨ x ∈ []
      simp

/-- The ids on record as raised are those that were raised in the run. -/
theorem wasPrompted_run (calls : List PromptCall) (x : FileId) :
    (run calls).1.wasPrompted x = true ↔ x ∈ raisedIds calls := by
  obtain ⟨acts, hpath, hupdates, -⟩ := path_run calls
  unfold raisedIds
  rw [hupdates, raisedIds_of_acts]
  exact wasPrompted_path hpath x

/-! ### What a queue still holds for the user -/

/-- The offers of a queue that wait for the user and were never raised: of each id the first. -/
def unseen (p : Prompts) : List Offer → List Offer
  | [] => []
  | o :: os => if p.isNew o then o :: (unseen p os).filter (·.fileId ≠ o.fileId) else unseen p os

/-- The place of the first offer in a queue that waits under an id. -/
def place (queue : List Offer) (fileId : FileId) : Nat := queue.findIdx (·.waitsAs fileId)

section Unseen

variable {p : Prompts} {o : Offer} {queue : List Offer}

lemma unseen_cons_of_isNew (h : p.isNew o = true) :
    p.unseen (o :: queue) = o :: (p.unseen queue).filter (·.fileId ≠ o.fileId) := if_pos h

lemma unseen_cons_of_not_isNew (h : p.isNew o = false) : p.unseen (o :: queue) = p.unseen queue :=
  if_neg (Bool.eq_false_iff.1 h)

lemma isNew_of_mem_unseen (h : o ∈ p.unseen queue) : p.isNew o = true := by
  induction queue with
  | nil => exact nomatch h
  | cons first queue ih =>
    cases hfirst : p.isNew first with
    | true =>
      rw [unseen_cons_of_isNew hfirst] at h
      rcases List.mem_cons.1 h with rfl | h
      · exact hfirst
      · exact ih (List.mem_filter.1 h).1
    | false =>
      rw [unseen_cons_of_not_isNew hfirst] at h
      exact ih h

lemma find?_isNew (p : Prompts) (queue : List Offer) : queue.find? p.isNew = (p.unseen queue).head? := by
  induction queue with
  | nil => rfl
  | cons o queue ih =>
    rw [List.find?_cons]
    cases hnew : p.isNew o with
    | true => rw [unseen_cons_of_isNew hnew]; rfl
    | false => rw [unseen_cons_of_not_isNew hnew]; exact ih

/-- Once one more id was raised, its offer is not unseen any more, and all others are. -/
lemma unseen_of_raised {q : Prompts} {fileId : FileId}
    (hq : ∀ x, q.wasPrompted x = (x == fileId || p.wasPrompted x)) (queue : List Offer) :
    q.unseen queue = (p.unseen queue).filter (·.fileId ≠ fileId) := by
  induction queue with
  | nil => rfl
  | cons o queue ih =>
    by_cases hid : o.fileId = fileId
    · have hold : q.isNew o = false := by simp [isNew, hq, hid]
      rw [unseen_cons_of_not_isNew hold, ih]
      cases hnew : p.isNew o with
      | true =>
        -- the offers of this id behind the first were left out already
        rw [unseen_cons_of_isNew hnew, List.filter_cons_of_neg (by simpa using hid), hid, List.filter_filter]
        simp only [Bool.and_self]
      | false => rw [unseen_cons_of_not_isNew hnew]
    · have hsame : q.isNew o = p.isNew o := by simp [isNew, hq, beq_eq_false_iff_ne.2 hid]
      cases hnew : p.isNew o with
      | true =>
        rw [unseen_cons_of_isNew (hsame.trans hnew), unseen_cons_of_isNew hnew, ih,
          List.filter_cons_of_pos (by simpa using hid), List.filter_comm]
      | false => rw [unseen_cons_of_not_isNew (hsame.trans hnew), unseen_cons_of_not_isNew hnew, ih]

lemma mem_ids_unseen {fileId : FileId} : fileId ∈ (p.unseen queue).map (·.fileId) ↔
    p.wasPrompted fileId = false ∧ ∃ o ∈ queue, o.waitsAs fileId = true := by
  induction queue with
  | nil => simp [unseen]
  | cons o queue ih =>
    simp only [List.exists_mem_cons_iff, Offer.waitsAs_iff] at ih ⊢
    cases hnew : p.isNew o with
    | true =>
      obtain ⟨hpending, hnever⟩ := isNew_iff.1 hnew
      have hcons : fileId ∈ (p.unseen (o :: queue)).map (·.fileId) ↔
          fileId = o.fileId ∨ fileId ∈ (p.unseen queue).map (·.fileId) := by
        have hrest : ((p.unseen queue).filter (·.fileId ≠ o.fileId)).map (·.fileId) =
            ((p.unseen queue).map (·.fileId)).filter (· ≠ o.fileId) := by
          rw [List.filter_map]
          rfl
        rw [unseen_cons_of_isNew hnew, List.map_cons, List.mem_cons, hrest, List.mem_filter]
        by_cases hid : fileId = o.fileId <;> simp [hid]
      rw [hcons, ih]
      constructor
      · rintro (rfl | ⟨hx, hwaits⟩)
        · exact ⟨hnever, Or.inl ⟨hpending, rfl⟩⟩
        · exact ⟨hx, Or.inr hwaits⟩
      · rintro ⟨hx, ⟨-, rfl⟩ | hwaits⟩
        · exact Or.inl rfl
        · exact Or.inr ⟨hx, hwaits⟩
    | false =>
      rw [unseen_cons_of_not_isNew hnew, ih]
      refine and_congr_right fun hx => ⟨Or.inr, ?_⟩
      rintro (⟨hpending, rfl⟩ | hwaits)
      · rw [isNew_iff.2 ⟨hpending, hx⟩] at hnew
        exact nomatch hnew
      · exact hwaits

/-- An offer before an unseen one does not wait under the same id. -/
lemma waitsAs_eq_false {other : Offer} (hother : other ∈ p.unseen queue)
    (hne : p.isNew o = true → other.fileId ≠ o.fileId) : o.waitsAs other.fileId = false := by
  by_contra hwaits
  obtain ⟨hpending, hid⟩ := Offer.waitsAs_iff.1 (Bool.not_eq_false _ ▸ hwaits)
  have hnever := (isNew_iff.1 (isNew_of_mem_unseen hother)).2
  exact hne (isNew_iff.2 ⟨hpending, hid ▸ hnever⟩) hid.symm

lemma place_cons {fileId : FileId} (h : o.waitsAs fileId = false) :
    place (o :: queue) fileId = place queue fileId + 1 := by
  unfold place
  rw [List.findIdx_cons, h]
  rfl

lemma pairwise_unseen (p : Prompts) (queue : List Offer) :
    (p.unseen queue).Pairwise fun a b => place queue a.fileId < place queue b.fileId := by
  induction queue with
  | nil => exact List.Pairwise.nil
  | cons o queue ih =>
    cases hnew : p.isNew o with
    | true =>
      have hbehind : ∀ other ∈ (p.unseen queue).filter (·.fileId ≠ o.fileId),
          place (o :: queue) other.fileId = place queue other.fileId + 1 := by
        intro other hother
        obtain ⟨hmem, hne⟩ := List.mem_filter.1 hother
        exact place_cons (waitsAs_eq_false hmem fun _ => by simpa using hne)
      have hfirst : place (o :: queue) o.fileId = 0 := by
        unfold place
        rw [List.findIdx_cons, Offer.waitsAs_iff.2 ⟨(isNew_iff.1 hnew).1, rfl⟩]
        rfl
      rw [unseen_cons_of_isNew hnew]
      refine List.pairwise_cons.2 ⟨fun other hother => ?_, ?_⟩
      · rw [hfirst, hbehind other hother]
        exact Nat.succ_pos _
      · refine (ih.filter _).imp_of_mem fun {a b} ha hb hlt => ?_
        rw [hbehind a ha, hbehind b hb]
        exact Nat.succ_lt_succ hlt
    | false =>
      have hbehind : ∀ other ∈ p.unseen queue, place (o :: queue) other.fileId = place queue other.fileId + 1 :=
        fun other hother => place_cons (waitsAs_eq_false hother fun h => nomatch hnew.symm.trans h)
      rw [unseen_cons_of_not_isNew hnew]
      refine ih.imp_of_mem fun {a b} ha hb hlt => ?_
      rw [hbehind a ha, hbehind b hb]
      exact Nat.succ_lt_succ hlt

lemma find?_of_mem_unseen (h : o ∈ p.unseen queue) : queue.find? (·.waitsAs o.fileId) = some o := by
  induction queue with
  | nil => exact nomatch h
  | cons first queue ih =>
    rw [List.find?_cons]
    cases hnew : p.isNew first with
    | true =>
      rw [unseen_cons_of_isNew hnew] at h
      rcases List.mem_cons.1 h with rfl | h
      · rw [Offer.waitsAs_iff.2 ⟨(isNew_iff.1 hnew).1, rfl⟩]
      · obtain ⟨hmem, hne⟩ := List.mem_filter.1 h
        rw [waitsAs_eq_false hmem fun _ => by simpa using hne]
        exact ih hmem
    | false =>
      rw [unseen_cons_of_not_isNew hnew] at h
      rw [waitsAs_eq_false h fun h => nomatch hnew.symm.trans h]
      exact ih h

end Unseen

/-- The offers are those that a queue still holds for the user after a run: of each id that waits in the queue and was
never raised the first, in the order in which the ids first wait in the queue. -/
structure Agenda (calls : List PromptCall) (queue offers : List Offer) : Prop where
  mem_iff (fileId : FileId) : fileId ∈ offers.map (·.fileId) ↔
    fileId ∉ raisedIds calls ∧ ∃ o ∈ queue, o.waitsAs fileId = true
  first (o : Offer) : o ∈ offers → queue.find? (·.waitsAs o.fileId) = some o
  inOrder : offers.Pairwise fun a b => place queue a.fileId < place queue b.fileId

lemma agenda_unseen (calls : List PromptCall) (queue : List Offer) :
    Agenda calls queue ((run calls).1.unseen queue) where
  mem_iff fileId := by rw [mem_ids_unseen, ← wasPrompted_run, Bool.not_eq_true]
  first _ := find?_of_mem_unseen
  inOrder := pairwise_unseen _ queue

/-! ### One look and one answer -/

section Round

variable {p : Prompts} {o : Offer} {queue : List Offer}

lemma scan_of_none (h : p.current = none) :
    p.scan queue = ((p.unseen queue).head?.map fun o => (p.raise o.prompt, [.raised o.prompt])).getD (p, []) := by
  have hfind : queue.find? (fun offer => offer.isPendingInbound && !p.wasPrompted offer.fileId) =
      (p.unseen queue).head? := find?_isNew p queue
  unfold scan
  rw [h]
  show p.raiseNext queue = _
  unfold raiseNext
  rw [hfind]
  cases (p.unseen queue).head? <;> rfl

/-- What is left of the prompts once a prompt was raised and answered. -/
def asked (p : Prompts) (prompt : Prompt) (accepted : Bool) : Prompts :=
  (p.raise prompt).act (.answer ⟨prompt.fileId, accepted⟩)

lemma respond_raise (p : Prompts) (prompt : Prompt) (accepted : Bool) :
    (p.raise prompt).respond accepted = .ok (p.asked prompt accepted, ⟨prompt.fileId, accepted⟩) := by
  have hprompted : (p.raise prompt).state? prompt.fileId = some .prompted := p.state?_act_self (.raise prompt)
  show (p.raise prompt).respondTo prompt.fileId accepted = _
  unfold respondTo
  rw [if_pos hprompted]
  rfl

lemma current_asked (p : Prompts) (prompt : Prompt) (accepted : Bool) : (p.asked prompt accepted).current = none := by
  show (some prompt).filter (fun open' => decide (open'.fileId ≠ prompt.fileId)) = none
  simp

lemma unseen_asked {rest : List Offer} (h : p.unseen queue = o :: rest) (accepted : Bool) :
    (p.asked o.prompt accepted).unseen queue = rest := by
  have hraised : ∀ x, (p.asked o.prompt accepted).wasPrompted x = (x == o.fileId || p.wasPrompted x) := by
    intro x
    show (p.raised.insert o.fileId).contains x = (x == o.fileId || p.raised.contains x)
    rw [Bool.eq_iff_iff]
    simp
  have hothers : ∀ other ∈ rest, decide (other.fileId ≠ o.fileId) = true := by
    intro other hother
    have hpairs := pairwise_unseen p queue
    rw [h] at hpairs
    have hlt := (List.pairwise_cons.1 hpairs).1 other hother
    exact decide_eq_true fun hid => Nat.lt_irrefl _ (hid ▸ hlt)
  rw [unseen_of_raised hraised, h, List.filter_cons_of_neg (by simp), List.filter_eq_self.2 hothers]

variable {calls : List PromptCall}

/-- One look and one answer, while there is something to be seen. -/
theorem round_of_cons {rest : List Offer} (h : (run calls).1.current = none)
    (hunseen : (run calls).1.unseen queue = o :: rest) (accepted : Bool) :
    run (calls ++ [.scan queue, .respond accepted]) = ((run calls).1.asked o.prompt accepted,
      (run calls).2 ++ [.updates [.raised o.prompt], .response ⟨o.fileId, accepted⟩]) := by
  have hscan : (run calls).1.scan queue = ((run calls).1.raise o.prompt, [.raised o.prompt]) := by
    rw [scan_of_none h, hunseen]
    rfl
  have hlook : run (calls ++ [.scan queue]) =
      ((run calls).1.raise o.prompt, (run calls).2 ++ [.updates [.raised o.prompt]]) := by
    rw [run_concat, call, hscan]
  rw [List.append_cons, run_concat, hlook, call, respond_raise]
  simp [PromptReply.ofAnswer, Offer.prompt]

/-- One look and one answer, when there is nothing more to be seen. -/
theorem round_of_nil (h : (run calls).1.current = none) (hunseen : (run calls).1.unseen queue = []) (accepted : Bool) :
    run (calls ++ [.scan queue, .respond accepted]) =
      ((run calls).1, (run calls).2 ++ [.updates [], .refusal .noOpenPrompt]) := by
  have hscan : (run calls).1.scan queue = ((run calls).1, []) := by
    rw [scan_of_none h, hunseen]
    rfl
  have hrespond : (run calls).1.respond accepted = .error .noOpenPrompt := by
    unfold respond
    rw [h]
  have hlook : run (calls ++ [.scan queue]) = ((run calls).1, (run calls).2 ++ [.updates []]) := by
    rw [run_concat, call, hscan]
  rw [List.append_cons, run_concat, hlook, call, hrespond]
  simp [PromptReply.ofAnswer]

end Round

/-! ### Looks and answers in turn -/

/-- A look at the queue before each of these answers to the open prompt. -/
def rounds (queue : List Offer) (answers : List Bool) : List PromptCall :=
  answers.flatMap fun accepted => [.scan queue, .respond accepted]

/-- Where as many looks as answers lead: one after the other, the unseen offers were raised and answered. -/
structure Reached (calls : List PromptCall) (queue : List Offer) (answers : List Bool) : Prop where
  current : (run (calls ++ rounds queue answers)).1.current = none
  unseen : (run (calls ++ rounds queue answers)).1.unseen queue = ((run calls).1.unseen queue).drop answers.length
  updates : updates (calls ++ rounds queue answers) =
    updates calls ++ (((run calls).1.unseen queue).take answers.length).map (.raised ·.prompt)
  responses : responses (calls ++ rounds queue answers) =
    responses calls ++ (((run calls).1.unseen queue).zip answers).map fun (o, accepted) => ⟨o.fileId, accepted⟩

lemma reached_rounds (queue : List Offer) (answers : List Bool) {calls : List PromptCall}
    (h : (run calls).1.current = none) : Reached calls queue answers := by
  induction answers generalizing calls with
  | nil => exact ⟨by simpa [rounds] using h, by simp [rounds], by simp [rounds], by simp [rounds]⟩
  | cons accepted answers ih =>
    have hcalls : calls ++ rounds queue (accepted :: answers) =
        calls ++ [.scan queue, .respond accepted] ++ rounds queue answers := by
      rw [List.append_assoc]
      rfl
    cases hunseen : (run calls).1.unseen queue with
    | nil =>
      have hround := round_of_nil h hunseen accepted
      have hrest : Reached (calls ++ [.scan queue, .respond accepted]) queue answers := ih (by rw [hround]; exact h)
      refine ⟨?_, ?_, ?_, ?_⟩
      · rw [hcalls]
        exact hrest.current
      · rw [hcalls, hrest.unseen, hround, hunseen]
        simp
      · rw [hcalls, hrest.updates, hround, hunseen, updates, hround, updates]
        simp [PromptReply.updatesIn]
      · rw [hcalls, hrest.responses, hround, hunseen, responses, hround, responses]
        simp [PromptReply.responsesIn]
    | cons o rest =>
      have hround := round_of_cons h hunseen accepted
      have hleft := unseen_asked hunseen accepted
      have hrest : Reached (calls ++ [.scan queue, .respond accepted]) queue answers :=
        ih (by rw [hround]; exact current_asked _ _ _)
      refine ⟨?_, ?_, ?_, ?_⟩
      · rw [hcalls]
        exact hrest.current
      · rw [hcalls, hrest.unseen, hround, hleft, hunseen]
        rfl
      · rw [hcalls, hrest.updates, hround, hleft, hunseen, updates, hround, updates]
        simp [PromptReply.updatesIn]
      · rw [hcalls, hrest.responses, hround, hleft, hunseen, responses, hround, responses]
        simp [PromptReply.responsesIn]

/-! ### Nothing more to be seen -/

section Still

variable {p : Prompts} {queue : List Offer}

/-- The queue holds nothing more for the user, and he is not asked anything. -/
def Still (p : Prompts) (queue : List Offer) : Prop := p.current = none ∧ p.unseen queue = []

lemma Still.scan_eq (h : p.Still queue) : p.scan queue = (p, []) := by
  rw [scan_of_none h.1, h.2]
  rfl

lemma unseen_of_raised_eq {q : Prompts} (h : q.raised = p.raised) (queue : List Offer) :
    q.unseen queue = p.unseen queue := by
  induction queue with
  | nil => rfl
  | cons o queue ih =>
    have hsame : q.isNew o = p.isNew o := by
      unfold isNew wasPrompted
      rw [h]
    unfold unseen
    rw [hsame, ih]

lemma still_call (hp : p.Sound) (h : p.Still queue) {c : PromptCall} (hc : ∀ seen, c = .scan seen → seen = queue) :
    (p.call c).1.Still queue := by
  cases c with
  | scan seen =>
    rw [hc seen rfl]
    show (p.scan queue).1.Still queue
    rw [h.scan_eq]
    exact h
  | respond accepted =>
    have hrespond : p.respond accepted = .error .noOpenPrompt := by
      unfold respond
      rw [h.1]
    rw [call, hrespond]
    exact h
  | respondTo fileId accepted =>
    have hstate : p.state? fileId ≠ some .prompted := by
      rw [Ne, hp.prompted_iff, h.1]
      exact nofun
    rw [call, respondTo, if_neg hstate]
    exact h
  | complete fileId succeeded =>
    show (p.complete fileId succeeded).Still queue
    unfold complete
    split
    · next accepted _ =>
      have hraised : (p.setState fileId (settled accepted succeeded)).raised = p.raised := rfl
      have hsame := unseen_of_raised_eq hraised queue
      exact ⟨h.1, hsame.trans h.2⟩
    · exact h

lemma still_run {calls : List PromptCall} (h : (run calls).1.Still queue) (more : List PromptCall)
    (hmore : ∀ seen, .scan seen ∈ more → seen = queue) : (run (calls ++ more)).1.Still queue := by
  induction more using List.reverseRecOn with
  | nil => rwa [List.append_nil]
  | append_singleton more c ih =>
    rw [← List.append_assoc, run_concat]
    refine still_call (sound_run _) (ih fun seen hseen => hmore seen (List.mem_append_left _ hseen)) ?_
    rintro seen rfl
    exact hmore seen (List.mem_append_right _ List.mem_cons_self)

end Still

/-! ### What a look brings -/

/-- The prompts once the open one, if there is one, is withdrawn. -/
def closed (p : Prompts) : Prompts := (p.current.map fun prompt => p.withdraw prompt.fileId).getD p

/-- What is told when the open prompt, if there is one, is withdrawn. -/
def closing (p : Prompts) : List PromptUpdate := (p.current.map fun prompt => .withdrawn prompt.fileId).toList

/-- What rounds of a look and an answer bring after a run, if these are the offers that the queue still holds. -/
structure Drains (calls : List PromptCall) (queue offers : List Offer) (answers : List Bool) : Prop where
  /-- The offers are raised one by one, in their order. -/
  updates : updates (calls ++ rounds queue answers) =
    updates calls ++ (offers.take answers.length).map (.raised ·.prompt)
  /-- Each of them is answered. -/
  responses : responses (calls ++ rounds queue answers) =
    responses calls ++ (offers.zip answers).map fun (o, accepted) => ⟨o.fileId, accepted⟩
  /-- After as many rounds as there are offers no look at the queue brings anything, whatever is called meanwhile. -/
  ended : offers.length ≤ answers.length → ∀ more : List PromptCall, (∀ seen, .scan seen ∈ more → seen = queue) →
    (run (calls ++ rounds queue answers ++ more)).1.scan queue = ((run (calls ++ rounds queue answers ++ more)).1, [])

/-- What a look at a queue brings after a run of calls, and what looks and answers in turn bring. -/
structure Surfaces (calls : List PromptCall) (queue : List Offer) : Prop where
  /-- While the offer of the open prompt waits in the queue, a look brings nothing and changes nothing. -/
  waiting (prompt : Prompt) : (run calls).1.current = some prompt → (∃ o ∈ queue, o.waitsAs prompt.fileId = true) →
    (run calls).1.scan queue = ((run calls).1, [])
  /-- Otherwise it withdraws the open prompt, if there is one, and raises the first offer of the queue that waits and
  was never raised; it raises nothing only if all that wait were raised before. -/
  looks : (∀ prompt, (run calls).1.current = some prompt → ∀ o ∈ queue, o.waitsAs prompt.fileId = false) →
    (∃ front o back, queue = front ++ o :: back ∧ o.isPendingInbound = true ∧ o.fileId ∉ raisedIds calls ∧
      (∀ other ∈ front, other.isPendingInbound = true → other.fileId ∈ raisedIds calls) ∧
        (run calls).1.scan queue =
          ((run calls).1.closed.raise o.prompt, (run calls).1.closing ++ [.raised o.prompt])) ∨
    ((∀ o ∈ queue, o.isPendingInbound = true → o.fileId ∈ raisedIds calls) ∧
      (run calls).1.scan queue = ((run calls).1.closed, (run calls).1.closing))
  /-- Without an open prompt, looks and answers in turn bring every offer before the user that the queue still holds,
  once each and in its order, and then nothing more for ever. -/
  drains : (run calls).1.current = none →
    ∃ offers, Agenda calls queue offers ∧ ∀ answers, Drains calls queue offers answers

section Look

variable {p : Prompts} {queue : List Offer}

/-- A look that does not find the offer of the open prompt raises the next offer once that prompt is withdrawn. -/
lemma scan_of_not_waiting (h : ∀ prompt, p.current = some prompt → ∀ o ∈ queue, o.waitsAs prompt.fileId = false) :
    p.scan queue = ((p.closed.raiseNext queue).1, p.closing ++ (p.closed.raiseNext queue).2) := by
  unfold scan closed closing
  cases hcurrent : p.current with
  | none => rfl
  | some prompt =>
    have hgone : (queue.any fun offer => offer.fileId == prompt.fileId && offer.isPendingInbound) = false := by
      refine List.any_eq_false.2 fun o ho hwaits => ?_
      simp only [Bool.and_eq_true, beq_iff_eq] at hwaits
      have hyes := Offer.waitsAs_iff.2 hwaits.symm
      rw [h prompt hcurrent o ho] at hyes
      exact nomatch hyes
    simp only [hgone]
    rfl

lemma wasPrompted_closed (p : Prompts) (x : FileId) : p.closed.wasPrompted x = p.wasPrompted x := by
  unfold closed
  cases p.current <;> rfl

end Look

/-- **A look raises the right offer, and looks drain the queue.** After any run of calls, a look at any queue brings
nothing while the offer of the open prompt waits there, and raises the first offer of the queue that waits and was never
raised otherwise; and looks and answers in turn bring before the user all that the queue still holds for him. -/
theorem surfaces_run (calls : List PromptCall) (queue : List Offer) : Surfaces calls queue where
  waiting prompt hcurrent hwaits := by
    obtain ⟨o, ho, howaits⟩ := hwaits
    obtain ⟨hpending, hid⟩ := Offer.waitsAs_iff.1 howaits
    refine scan_of_quiet ?_
    unfold Quiet
    rw [hcurrent]
    exact ⟨o, ho, hid, hpending⟩
  looks hgone := by
    have hraised : ∀ x, (run calls).1.closed.wasPrompted x = true ↔ x ∈ raisedIds calls := by
      intro x
      rw [wasPrompted_closed]
      exact wasPrompted_run calls x
    rw [scan_of_not_waiting hgone]
    rcases (run calls).1.closed.raiseNext_split queue with ⟨front, o, back, hqueue, hpending, hnever, hfront, hnext⟩ |
      ⟨hall, hnext⟩
    · rw [hnext]
      refine Or.inl ⟨front, o, back, hqueue, hpending, ?_, fun other hother h => (hraised _).1 (hfront other hother h),
        rfl⟩
      rw [← hraised, hnever]
      exact nofun
    · rw [hnext]
      exact Or.inr ⟨fun o ho h => (hraised _).1 (hall o ho h), by rw [List.append_nil]⟩
  drains hcurrent := by
    refine ⟨(run calls).1.unseen queue, agenda_unseen calls queue, fun answers => ?_⟩
    have hreached := reached_rounds queue answers hcurrent
    refine ⟨hreached.updates, hreached.responses, fun hlength more hmore => ?_⟩
    -- nothing is left to be seen once there were as many answers as offers
    have hstill : (run (calls ++ rounds queue answers)).1.Still queue :=
      ⟨hreached.current, by rw [hreached.unseen, List.drop_eq_nil_of_le hlength]⟩
    exact (still_run hstill more hmore).scan_eq

end Prompts

end PeerChat.Transfer
