import Mathlib.Data.List.Nodup
import PeerChat.Proofs.Peer.Run

/-!
The queue of file offers of a peer over a whole run. The ids of offers are made of one running number, which both kinds
of offers take, and which a refused file may use up; answers and changes of status look for the first offer under an id.

* `shift_meets`: what an incident can do to the queue and to the running number;
* `numbers_run`, `ids_sublist`: the numbers that a run gives away, and the ids that come of them;
* `preserves_meets`: the offers of a queue stay at their places, with nothing but their status changed;
* `answers_of_nodup`: what becomes of an answer;
* `settled_foldl`: an offer that does not wait any more does not wait again by itself;
* `queue_run`: all of it together.
-/

namespace PeerChat.Peer

open Calendar (Timestamp)
open Transfer (Offer Response Status)

/-! ### One incident -/

/-- What an incident can do to the queue and to the number of the next offer. -/
inductive Shift (p : Peer) (i : Incident) (q : Peer) : Prop
  | idle : q.transfers = p.transfers → q.nextOffer = p.nextOffer → Shift p i q
  /-- A number is used up, and nothing is queued. -/
  | burnt : q.transfers = p.transfers → q.nextOffer = p.nextOffer + 1 → Shift p i q
  | queued (o : Offer) : o.fileId = offerId p.nextOffer → q.transfers = p.transfers ++ [o] →
      q.nextOffer = p.nextOffer + 1 → Shift p i q
  /-- The first offer under an id gets a status, and waits again only if it is told to. -/
  | moved (fileId : FileId) (status : Status) : i = .deed (.setStatus fileId status) ∨ status ≠ .pending →
      q.transfers = replaceStatus fileId status p.transfers → q.nextOffer = p.nextOffer → Shift p i q

lemma shift_upload (p : Peer) (i : Incident) (parcel : Parcel) : Shift p i (p.upload parcel).2 := by
  unfold upload
  split
  · exact .idle rfl rfl
  · exact .idle rfl rfl
  · split
    · exact .idle rfl rfl
    · dsimp only [allocate]
      split
      · exact .queued _ rfl rfl rfl
      · exact .burnt rfl rfl

lemma shift_answer (p : Peer) (i : Incident) (response : Response) : Shift p i (p.meets (.answer response)) := by
  show Shift p i (p.answered response).2
  unfold answered
  cases h : p.respond response with
  | error refusal => exact .idle rfl rfl
  | ok q =>
    obtain ⟨front, o, back, hqueue, hfront, ho, -, -, rfl⟩ := p.moved_of_respond h
    refine .moved response.fileId (if response.accepted then .transferring else .rejected) (Or.inr ?_) ?_ rfl
    · cases response.accepted <;> exact nofun
    · rw [hqueue, replaceStatus_append _ hfront ho]
      rfl

/-- Every incident does one of these things. -/
theorem shift_meets (p : Peer) (i : Incident) : Shift p i (p.meets i) := by
  cases i with
  | answer response => exact p.shift_answer _ response
  | deed deed =>
    cases deed with
    | submit now text =>
      show Shift p _ ((p.submit now text).toOption.getD p)
      cases hsubmit : p.submit now text with
      | error refusal => exact .idle rfl rfl
      | ok q =>
        obtain ⟨order, rfl⟩ := p.submit_eq_ok hsubmit
        cases order <;> exact .idle rfl rfl
    | receive now sender text isPrivate =>
      show Shift p _ (p.receive now sender text isPrivate).1
      unfold receive
      split <;> exact .idle rfl rfl
    | join | leave => exact .idle rfl rfl
    | offer => exact .queued _ rfl rfl rfl
    | setStatus fileId status => exact .moved fileId status (Or.inl rfl) rfl rfl
    | upload parcel => exact p.shift_upload _ parcel

/-! ### Ids -/

lemma offerId_injective {a b : UInt64} (h : offerId a = offerId b) : a = b := by
  have hdigits : a.toNat.repr = b.toNat.repr := (String.append_right_inj "file-").1 h
  have hread := congrArg (fun s : String => Nat.ofDigitChars 10 s.toList 0) hdigits
  simp only [Nat.toList_repr, Nat.ofDigitChars_ten_toDigits] at hread
  exact UInt64.toNat_inj.1 hread

/-- The number that an incident gives away, if it gives one. -/
def number? (p : Peer) (i : Incident) : Option UInt64 :=
  if (p.meets i).nextOffer = p.nextOffer then none else some p.nextOffer

/-- The numbers that the incidents of a run give away. -/
def numbers (name : Username) (incidents : List Incident) : List UInt64 := gathered name number? incidents

/-- The first numbers that are given away. -/
def firstNumbers (count : Nat) : List UInt64 := (List.range count).map fun n => UInt64.ofNat (n + 1)

lemma nodup_firstNumbers {count : Nat} (h : count < UInt64.size) : (firstNumbers count).Nodup := by
  -- the first number is 1, so the last one still fits
  have htoNat : ∀ n < count, (UInt64.ofNat (n + 1)).toNat = n + 1 := fun n hn =>
    UInt64.toNat_ofNat_of_lt (Nat.lt_of_le_of_lt hn h)
  refine List.Nodup.map_on ?_ List.nodup_range
  intro a ha b hb hab
  have hnat := congrArg UInt64.toNat hab
  rw [htoNat a (List.mem_range.1 ha), htoNat b (List.mem_range.1 hb)] at hnat
  exact Nat.succ.inj hnat

lemma number?_of_eq {p : Peer} {i : Incident} (h : (p.meets i).nextOffer = p.nextOffer) : p.number? i = none := if_pos h

lemma number?_of_succ {p : Peer} {i : Incident} (h : (p.meets i).nextOffer = p.nextOffer + 1) :
    p.number? i = some p.nextOffer := by
  refine if_neg fun hsame => ?_
  rw [h] at hsame
  exact absurd (UInt64.add_eq_left.1 hsame) (by decide)

section Run

variable (name : Username) (incidents : List Incident)

lemma numbers_concat (i : Incident) :
    numbers name (incidents ++ [i]) = numbers name incidents ++ ((run name incidents).number? i).toList :=
  gathered_concat name number? incidents i

/-- The numbers that are given away are the first ones, and the next one comes next. -/
theorem numbers_run : ∃ count, numbers name incidents = firstNumbers count ∧
    (run name incidents).nextOffer = UInt64.ofNat (count + 1) := by
  induction incidents using List.reverseRecOn with
  | nil => exact ⟨0, rfl, rfl⟩
  | append_singleton incidents i ih =>
    obtain ⟨count, hnumbers, hnext⟩ := ih
    have hstays : ((run name incidents).meets i).nextOffer = (run name incidents).nextOffer →
        ∃ count, numbers name (incidents ++ [i]) = firstNumbers count ∧
          (run name (incidents ++ [i])).nextOffer = UInt64.ofNat (count + 1) := by
      intro hsame
      refine ⟨count, ?_, by rw [run_concat, hsame, hnext]⟩
      rw [numbers_concat, number?_of_eq hsame, hnumbers]
      exact List.append_nil _
    have hgoes : ((run name incidents).meets i).nextOffer = (run name incidents).nextOffer + 1 →
        ∃ count, numbers name (incidents ++ [i]) = firstNumbers count ∧
          (run name (incidents ++ [i])).nextOffer = UInt64.ofNat (count + 1) := by
      intro hsucc
      refine ⟨count + 1, ?_, by rw [run_concat, hsucc, hnext]; exact (UInt64.ofNat_add _ _).symm⟩
      rw [numbers_concat, number?_of_succ hsucc, hnumbers, hnext]
      unfold firstNumbers
      rw [List.range_succ, List.map_append]
      rfl
    cases (run name incidents).shift_meets i with
    | idle _ hnext => exact hstays hnext
    | burnt _ hnext => exact hgoes hnext
    | queued _ _ _ hnext => exact hgoes hnext
    | moved _ _ _ _ hnext => exact hstays hnext

/-- Below the size of the running number no number is given away twice. -/
lemma nodup_numbers (h : (numbers name incidents).length < UInt64.size) : (numbers name incidents).Nodup := by
  obtain ⟨count, hnumbers, -⟩ := numbers_run name incidents
  have hlength : (numbers name incidents).length = count := by
    rw [hnumbers, firstNumbers, List.length_map, List.length_range]
  rw [hlength] at h
  rw [hnumbers]
  exact nodup_firstNumbers h

lemma map_fileId_replaceStatus (fileId : FileId) (status : Status) (queue : List Offer) :
    (replaceStatus fileId status queue).map (·.fileId) = queue.map (·.fileId) := by
  induction queue with
  | nil => rfl
  | cons o queue ih =>
    unfold replaceStatus
    split
    · rfl
    · rw [List.map_cons, List.map_cons, ih]

/-- The ids in the queue come of the numbers that were given away, in their order. -/
theorem ids_sublist :
    ((run name incidents).transfers.map (·.fileId)).Sublist ((numbers name incidents).map offerId) := by
  induction incidents using List.reverseRecOn with
  | nil => exact List.Sublist.slnil
  | append_singleton incidents i ih =>
    rw [run_concat, numbers_concat, List.map_append]
    have hstays : (run name incidents).transfers.map (·.fileId) |>.Sublist
        ((numbers name incidents).map offerId ++ ((run name incidents).number? i).toList.map offerId) :=
      ih.trans (List.sublist_append_left _ _)
    cases (run name incidents).shift_meets i with
    | idle hqueue | burnt hqueue => rwa [hqueue]
    | moved fileId status _ hqueue => rwa [hqueue, map_fileId_replaceStatus]
    | queued o hid hqueue hnext =>
      rw [hqueue, number?_of_succ hnext, List.map_append]
      refine ih.append ?_
      rw [List.map_singleton, hid]
      exact List.Sublist.refl _

lemma nodup_ids (h : (numbers name incidents).length < UInt64.size) :
    ((run name incidents).transfers.map (·.fileId)).Nodup :=
  (ids_sublist name incidents).nodup ((nodup_numbers name incidents h).map fun _ _ => offerId_injective)

end Run

/-! ### Places in the queue -/

/-- The offers of a queue stay at their places, and nothing but their status changes. -/
def Preserves (before after : List Offer) : Prop :=
  ∀ (k : Nat) (o : Offer), before[k]? = some o → ∃ status, after[k]? = some { o with status := status }

lemma Preserves.refl (queue : List Offer) : Preserves queue queue := fun _ o h => ⟨o.status, h⟩

lemma Preserves.trans {a b c : List Offer} (hab : Preserves a b) (hbc : Preserves b c) : Preserves a c := by
  intro k o h
  obtain ⟨status, hstatus⟩ := hab k o h
  obtain ⟨status', hstatus'⟩ := hbc k _ hstatus
  exact ⟨status', hstatus'⟩

lemma preserves_append (queue more : List Offer) : Preserves queue (queue ++ more) := fun k o h =>
  ⟨o.status, by rw [List.getElem?_append_left (List.getElem?_eq_some_iff.1 h).1]; exact h⟩

lemma preserves_replaceStatus (fileId : FileId) (status : Status) (queue : List Offer) :
    Preserves queue (replaceStatus fileId status queue) := by
  induction queue with
  | nil => exact Preserves.refl []
  | cons first queue ih =>
    intro k o h
    unfold replaceStatus
    split
    · cases k with
      | zero =>
        obtain rfl := Option.some.inj h
        exact ⟨status, rfl⟩
      | succ k => exact ⟨o.status, h⟩
    · cases k with
      | zero => exact ⟨o.status, h⟩
      | succ k => exact ih k o h

lemma preserves_meets (p : Peer) (i : Incident) : Preserves p.transfers (p.meets i).transfers := by
  cases p.shift_meets i with
  | idle hqueue | burnt hqueue =>
    rw [hqueue]
    exact Preserves.refl _
  | queued o _ hqueue =>
    rw [hqueue]
    exact preserves_append _ _
  | moved fileId status _ hqueue =>
    rw [hqueue]
    exact preserves_replaceStatus _ _ _

lemma preserves_foldl (p : Peer) (incidents : List Incident) :
    Preserves p.transfers (incidents.foldl meets p).transfers := by
  induction incidents generalizing p with
  | nil => exact Preserves.refl _
  | cons i incidents ih => exact (p.preserves_meets i).trans (ih _)

/-! ### Answers -/

/-- What becomes of an answer: the reply to it, and the peer after it. -/
structure Answers (p : Peer) (response : Response) : Prop where
  unknown_iff : (p.answered response).1.status = 404 ↔
    ∀ o ∈ p.transfers, o.fileId ≠ response.fileId
  settled_iff : (p.answered response).1.status = 409 ↔
    ∃ o ∈ p.transfers, o.fileId = response.fileId ∧ o.isPendingInbound = false
  taken_iff : (p.answered response).1.status = 200 ↔
    ∃ o ∈ p.transfers, o.fileId = response.fileId ∧ o.isPendingInbound = true
  /-- An answer that is not taken leaves the peer as it is, -/
  unchanged : (p.answered response).1.status ≠ 200 → (p.answered response).2 = p
  /-- and one that is taken moves the offer that it names, and nothing else. -/
  moved : (p.answered response).1.status = 200 →
    Moved response.fileId (if response.accepted then .transferring else .rejected) p
      (p.answered response).2

section Answers

variable {p : Peer} {response : Response} {o : Offer}

lemma answered_of_none (h : p.offer? response.fileId = none) :
    p.answered response = (refused (.unknownOffer response.fileId), p) := by
  unfold answered respond
  rw [h]
  rfl

lemma answered_of_settled (h : p.offer? response.fileId = some o) (hpending : o.isPendingInbound = false) :
    p.answered response = (refused (.notAwaitingResponse response.fileId), p) := by
  unfold answered respond
  simp only [h, hpending]
  rfl

lemma answered_of_pending (h : p.offer? response.fileId = some o) (hpending : o.isPendingInbound = true) :
    ∃ q, p.answered response = (.bare 200, q) ∧
      Moved response.fileId (if response.accepted then .transferring else .rejected) p q := by
  have htaken : ∃ q, p.respond response = .ok q := by
    unfold respond
    simp only [h, hpending]
    exact ⟨_, rfl⟩
  obtain ⟨q, hq⟩ := htaken
  refine ⟨q, ?_, p.moved_of_respond hq⟩
  unfold answered
  rw [hq]
  rfl

lemma eq_of_offer? (hnodup : (p.transfers.map (·.fileId)).Nodup) {fileId : FileId} (h : p.offer? fileId = some o)
    {other : Offer} (hother : other ∈ p.transfers) (hid : other.fileId = fileId) : other = o := by
  have hfound : o.fileId = fileId := by simpa using List.find?_some h
  exact List.inj_on_of_nodup_map hnodup hother (List.mem_of_find?_eq_some h) (hid.trans hfound.symm)

theorem answers_of_nodup (hnodup : (p.transfers.map (·.fileId)).Nodup) (response : Response) : Answers p response := by
  cases ho : p.offer? response.fileId with
  | none =>
    have hnone : ∀ o ∈ p.transfers, o.fileId ≠ response.fileId := by
      intro o hmem hid
      exact List.find?_eq_none.1 ho o hmem (by simpa using hid)
    have habsent : ∀ pending, ¬∃ o ∈ p.transfers, o.fileId = response.fileId ∧ o.isPendingInbound = pending :=
      fun _ ⟨o, hmem, hid, _⟩ => hnone o hmem hid
    have hrefused := answered_of_none ho
    have hstatus : (p.answered response).1.status = 404 := congrArg (·.1.status) hrefused
    refine ⟨?_, ?_, ?_, fun _ => congrArg Prod.snd hrefused, ?_⟩ <;> rw [hstatus]
    · exact iff_of_true rfl hnone
    · exact iff_of_false (by decide) (habsent _)
    · exact iff_of_false (by decide) (habsent _)
    · exact fun h => absurd h (by decide)
  | some o =>
    have hid : o.fileId = response.fileId := by simpa using List.find?_some ho
    have hmem : o ∈ p.transfers := List.mem_of_find?_eq_some ho
    have hknown : ¬∀ o ∈ p.transfers, o.fileId ≠ response.fileId := fun hnone => hnone o hmem hid
    have hone : ∀ pending, (∃ o ∈ p.transfers, o.fileId = response.fileId ∧ o.isPendingInbound = pending) ↔
        o.isPendingInbound = pending := by
      refine fun pending => ⟨?_, fun h => ⟨o, hmem, hid, h⟩⟩
      rintro ⟨other, hother, hotherId, h⟩
      rwa [← eq_of_offer? hnodup ho hother hotherId]
    cases hpending : o.isPendingInbound with
    | false =>
      have hrefused := answered_of_settled ho hpending
      have hstatus : (p.answered response).1.status = 409 := congrArg (·.1.status) hrefused
      refine ⟨?_, ?_, ?_, fun _ => congrArg Prod.snd hrefused, ?_⟩ <;> rw [hstatus]
      · exact iff_of_false (by decide) hknown
      · exact iff_of_true rfl ((hone _).2 hpending)
      · exact iff_of_false (by decide) (by rw [hone, hpending]; decide)
      · exact fun h => absurd h (by decide)
    | true =>
      obtain ⟨q, htaken, hmoved⟩ := answered_of_pending ho hpending
      have hstatus : (p.answered response).1.status = 200 := congrArg (·.1.status) htaken
      refine ⟨?_, ?_, ?_, fun h => absurd hstatus h, fun _ => by rw [htaken]; exact hmoved⟩ <;> rw [hstatus]
      · exact iff_of_false (by decide) hknown
      · exact iff_of_false (by decide) (by rw [hone, hpending]; decide)
      · exact iff_of_true rfl ((hone _).2 hpending)

end Answers

/-! ### Once answered -/

/-- There is an offer under the id, and it does not wait. -/
def Settled (p : Peer) (fileId : FileId) : Prop := ∃ o, p.offer? fileId = some o ∧ o.isPendingInbound = false

section Settled

variable {p : Peer} {fileId : FileId}

lemma find?_replaceStatus (fileId x : FileId) (status : Status) (queue : List Offer) :
    (replaceStatus fileId status queue).find? (·.fileId == x) =
      (queue.find? (·.fileId == x)).map fun o => if x = fileId then { o with status := status } else o := by
  induction queue with
  | nil => rfl
  | cons o queue ih =>
    unfold replaceStatus
    by_cases ho : o.fileId = fileId
    · rw [if_pos ho]
      by_cases hx : x = fileId
      · simp [hx, ho]
      · have hother : (o.fileId == x) = false := by rw [ho]; exact beq_eq_false_iff_ne.2 (Ne.symm hx)
        simp [hother, hx]
    · rw [if_neg ho, List.find?_cons, List.find?_cons]
      cases hfound : o.fileId == x with
      | true =>
        have hx : x ≠ fileId := fun hx => ho ((eq_of_beq hfound).trans hx)
        simp [hx]
      | false => exact ih

/-- An offer that does not wait does not wait again until it is told to. -/
lemma settled_meets (h : Settled p fileId) {i : Incident} (hi : ∀ status, i ≠ .deed (.setStatus fileId status)) :
    Settled (p.meets i) fileId := by
  obtain ⟨o, ho, hpending⟩ := h
  unfold Settled offer? at *
  cases p.shift_meets i with
  | idle hqueue | burnt hqueue =>
    rw [hqueue]
    exact ⟨o, ho, hpending⟩
  | queued last _ hqueue =>
    rw [hqueue, List.find?_append, ho]
    exact ⟨o, rfl, hpending⟩
  | moved moved status hcause hqueue =>
    rw [hqueue, find?_replaceStatus, ho]
    refine ⟨_, rfl, ?_⟩
    -- the status of another offer says nothing of this one, and an answer makes no offer wait
    by_cases hid : fileId = moved
    · have hstatus : status ≠ .pending := hcause.resolve_left fun hset => hi status (hid ▸ hset)
      simp [hid, Offer.isPendingInbound, hstatus]
    · simpa only [if_neg hid] using hpending

lemma settled_foldl (h : Settled p fileId) {incidents : List Incident}
    (hincidents : ∀ status, .deed (.setStatus fileId status) ∉ incidents) :
    Settled (incidents.foldl meets p) fileId := by
  induction incidents generalizing p with
  | nil => exact h
  | cons i incidents ih =>
    refine ih (settled_meets h ?_) fun status hmem => hincidents status (List.mem_cons_of_mem _ hmem)
    rintro status rfl
    exact hincidents status List.mem_cons_self

lemma settled_of_moved {status : Status} {q : Peer} (h : Moved fileId status p q) (hstatus : status ≠ .pending) :
    Settled q fileId := by
  obtain ⟨front, o, back, -, hfront, ho, -, -, rfl⟩ := h
  refine ⟨{ o with status := status }, ?_, by simp [Offer.isPendingInbound, hstatus]⟩
  exact List.find?_eq_some_iff_append.2 ⟨by simpa using ho, front, back, rfl, by simpa using hfront⟩

end Settled

/-! ### Everything together -/

/-- What holds of the queue of offers of a peer after a run. -/
structure Queued (name : Username) (incidents : List Incident) : Prop where
  /-- The ids in the queue are distinct. -/
  distinct : ((run name incidents).transfers.map (·.fileId)).Nodup
  /-- Whatever happens next, the offers in it stay at their places, and nothing but their status changes. -/
  preserved (more : List Incident) : Preserves (run name incidents).transfers (run name (incidents ++ more)).transfers
  /-- An answer is taken exactly if the offer that it names waits for it. -/
  answers (response : Response) : Answers (run name incidents) response
  /-- Once an answer is taken, all others to the same offer are refused until the offer is given a status. -/
  once (response again : Response) (between : List Incident) :
    ((run name incidents).answered response).1.status = 200 → again.fileId = response.fileId →
      (∀ status, .deed (.setStatus response.fileId status) ∉ between) →
        ((run name (incidents ++ .answer response :: between)).answered again).1.status = 409
  /-- Offers of the user are never answered. -/
  outbound (o : Offer) : o ∈ (run name incidents).transfers → o.direction = .send → ∀ accepted,
    ((run name incidents).answered ⟨o.fileId, accepted⟩).1.status = 409 ∧
      ((run name incidents).answered ⟨o.fileId, accepted⟩).2 = run name incidents

/-- **No offer is mistaken for another, and each is answered once.** Up to the size of the running number, the ids in
the queue are distinct, the offers stay where they are, and an answer moves just the offer that it names, if that offer
is from someone else and waits; it does not wait again until it is told to. -/
theorem queue_run (name : Username) (incidents : List Incident) (h : (numbers name incidents).length < UInt64.size) :
    Queued name incidents where
  distinct := nodup_ids name incidents h
  preserved more := by
    rw [run_append]
    exact preserves_foldl _ more
  answers response := answers_of_nodup (nodup_ids name incidents h) response
  once response again between htaken hid hbetween := by
    have hmoved := (answers_of_nodup (nodup_ids name incidents h) response).moved htaken
    have hsettled : Settled ((run name incidents).meets (.answer response)) response.fileId :=
      settled_of_moved hmoved (by cases response.accepted <;> exact nofun)
    rw [run_append, List.foldl_cons]
    obtain ⟨o, ho, hpending⟩ := settled_foldl hsettled hbetween
    rw [← hid] at ho
    exact congrArg (·.1.status) (answered_of_settled ho hpending)
  outbound o ho hsend accepted := by
    have hanswers := answers_of_nodup (nodup_ids name incidents h) ⟨o.fileId, accepted⟩
    have hstatus := hanswers.settled_iff.2 ⟨o, ho, rfl, by simp [Offer.isPendingInbound, hsend]⟩
    exact ⟨hstatus, hanswers.unchanged (by rw [hstatus]; decide)⟩

/-- A run in which a number is used up by a file that nobody takes, and an offer is answered twice. -/
theorem queue_of_mixed_run : ∃ incidents : List Incident,
    (run "alice" incidents).transfers.map (fun o => (o.fileId, o.direction, o.status)) =
        [("file-1", .receive, .rejected), ("file-3", .send, .pending)] ∧
      (numbers "alice" incidents).length < UInt64.size ∧ Queued "alice" incidents := by
  let incidents : List Incident :=
    [.deed (.offer "bob" "notes.txt" 3), .deed (.upload ⟨some ("plan.txt", 5), some "carol"⟩), .deed (.join "carol"),
      .deed (.upload ⟨some ("plan.txt", 5), some "carol"⟩), .answer ⟨"file-1", true⟩, .answer ⟨"file-1", false⟩,
      .answer ⟨"file-2", true⟩, .answer ⟨"file-3", true⟩, .deed (.setStatus "file-1" .pending),
      .answer ⟨"file-1", false⟩]
  have hnumbers : (numbers "alice" incidents).length < UInt64.size := by decide +kernel
  exact ⟨incidents, by decide +kernel, hnumbers, queue_run "alice" incidents hnumbers⟩

end PeerChat.Peer
