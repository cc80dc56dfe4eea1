import PeerChat.Proofs.Peer.OfferQueue

/-!
The forms in which the user of a peer hands in a file for someone else. A form is a list of parts in any order; of the
parts of one name the last one counts. The form is taken as a whole, or it leaves everything but the running number of
offers as it is.

* `ofParts_eq`: the file and the user that a form stands for, read off its last parts;
* `answerForm_of_addressed`: what becomes of a form that holds a file and names a user;
* `offerId_ne_of_mem_run`: the id that is given away next is that of no offer in the queue;
* `uploads_run`: all of it together.
-/

namespace PeerChat.Peer

open Http (Body Part Reply)
open Calendar (Timestamp)
open Transfer (Offer)

/-! ### The parts that count -/

/-- The last part of a name. -/
def lastPart? (name : String) (parts : List Part) : Option Part := (parts.filter (·.name = some name)).getLast?

lemma lastPart?_concat (name : String) (parts : List Part) (part : Part) :
    lastPart? name (parts ++ [part]) = if part.name = some name then some part else lastPart? name parts := by
  unfold lastPart?
  rw [List.filter_append]
  by_cases h : part.name = some name
  · rw [List.filter_cons_of_pos (by simpa using h), if_pos h]
    exact List.getLast?_concat
  · rw [List.filter_cons_of_neg (by simpa using h), if_neg h]
    exact congrArg List.getLast? (List.append_nil _)

def fileIn (part : Part) : String × Nat := (part.fileName.getD unnamedFile, part.content.size)

def userIn (part : Part) : Username := Text.trim (partText part)

/-- Of the files of a form, and of the users that it names, the last one counts. -/
theorem ofParts_eq (parts : List Part) :
    Parcel.ofParts parts =
      ⟨(lastPart? Client.fileField parts).map fileIn, (lastPart? Client.targetField parts).map userIn⟩ := by
  -- the fold takes the last part last, so the induction is on the front of the form
  induction parts using List.reverseRecOn with
  | nil => rfl
  | append_singleton parts part ih =>
    have htake : Parcel.ofParts (parts ++ [part]) = (Parcel.ofParts parts).take part := List.foldl_concat ..
    rw [htake, ih, lastPart?_concat, lastPart?_concat]
    unfold Parcel.take
    by_cases hfile : part.name = some Client.fileField
    · have htarget : part.name ≠ some Client.targetField := by
        rw [hfile]
        decide
      rw [if_pos hfile, if_pos hfile, if_neg htarget]
      rfl
    · rw [if_neg hfile, if_neg hfile]
      by_cases htarget : part.name = some Client.targetField
      · rw [if_pos htarget, if_pos htarget]
        rfl
      · rw [if_neg htarget, if_neg htarget]

/-! ### What becomes of a form -/

/-- The form holds a file and names a user. -/
structure Addressed (parts : List Part) (file : Part) (target : Username) : Prop where
  holds : lastPart? Client.fileField parts = some file
  names : (lastPart? Client.targetField parts).map userIn = some target
  ne_empty : target ≠ ""

section Form

variable {p : Peer} {parts : List Part} {file : Part} {target : Username}

lemma Addressed.unique (h : Addressed parts file target) {file' : Part} {target' : Username}
    (h' : Addressed parts file' target') : file = file' ∧ target = target' :=
  ⟨Option.some.inj (h.holds.symm.trans h'.holds), Option.some.inj (h.names.symm.trans h'.names)⟩

/-- What holds of a file and a user that a form stands for holds of the one file and the one user. -/
lemma Addressed.exists_iff (h : Addressed parts file target) (P : Part → Username → Prop) :
    (∃ file target, Addressed parts file target ∧ P file target) ↔ P file target := by
  refine ⟨?_, fun hP => ⟨file, target, h, hP⟩⟩
  rintro ⟨file', target', h', hP⟩
  obtain ⟨rfl, rfl⟩ := h.unique h'
  exact hP

/-- The offer of a file of the user to someone else, under the next id. -/
def outbound (p : Peer) (file : Part) (target : Username) : Offer :=
  ⟨offerId p.nextOffer, file.fileName.getD unnamedFile, UInt64.ofNat file.content.size, 0, .pending, .send, target⟩

/-- A file that is not too large is queued for a user who is online; the running number is used up for any user. -/
theorem answerForm_of_addressed (p : Peer) (h : Addressed parts file target) :
    p.answerForm parts =
      if maxUploadBytes < file.content.size then (refused (.uploadTooLarge file.content.size), p)
      else if target ∈ p.online then
        (.bare 200, { p with transfers := p.transfers ++ [p.outbound file target], nextOffer := p.nextOffer + 1 })
      else (refused (.notOnline target), { p with nextOffer := p.nextOffer + 1 }) := by
  have hparcel : Parcel.ofParts parts = ⟨some (fileIn file), some target⟩ := by
    rw [ofParts_eq, h.holds, h.names]
    rfl
  have htarget : (some target).filter (· ≠ "") = some target :=
    Option.filter_eq_some_iff.2 ⟨rfl, by simpa using h.ne_empty⟩
  unfold answerForm upload
  rw [hparcel]
  simp only [htarget, fileIn]
  by_cases hlarge : maxUploadBytes < file.content.size
  · rw [if_pos hlarge, if_pos hlarge]
  · rw [if_neg hlarge, if_neg hlarge]
    by_cases honline : target ∈ p.online
    · have hcontains : p.online.contains target = true := NameSet.contains_iff.2 honline
      simp only [allocate, hcontains, if_pos honline]
      rfl
    · have hcontains : p.online.contains target = false := Bool.eq_false_iff.2 (mt NameSet.contains_iff.1 honline)
      simp only [allocate, hcontains, if_neg honline]
      rfl

lemma answerForm_of_not_addressed (p : Peer) (h : ¬∃ file target, Addressed parts file target) :
    ∃ refusal, refusal.status = 400 ∧ p.answerForm parts = (refused refusal, p) := by
  unfold answerForm upload
  rw [ofParts_eq]
  cases hfile : lastPart? Client.fileField parts with
  | none => exact ⟨.missingFile, rfl, rfl⟩
  | some file =>
    have hnobody : ((lastPart? Client.targetField parts).map userIn).filter (· ≠ "") = none := by
      rw [Option.filter_eq_none_iff]
      intro target htarget hne
      exact h ⟨file, target, hfile, htarget, by simpa using hne⟩
    refine ⟨.missingTarget, rfl, ?_⟩
    simp only [Option.map_some, hnobody]

end Form

/-! ### The next id -/

/-- Up to the size of the running number, the id that is given away next is that of no offer in the queue. -/
theorem offerId_ne_of_mem_run {name : Username} {incidents : List Incident}
    (h : (numbers name incidents).length < UInt64.size) {o : Offer} (ho : o ∈ (run name incidents).transfers) :
    o.fileId ≠ offerId (run name incidents).nextOffer := by
  obtain ⟨count, hnumbers, hnext⟩ := numbers_run name incidents
  intro hid
  have hgiven : o.fileId ∈ (numbers name incidents).map offerId :=
    (ids_sublist name incidents).subset (List.mem_map_of_mem ho)
  obtain ⟨number, hnumber, hsame⟩ := List.mem_map.1 hgiven
  have hnumber_eq : number = UInt64.ofNat (count + 1) := by
    rw [← hnext]
    exact offerId_injective (hsame.trans hid)
  rw [hnumbers] at h hnumber
  obtain ⟨n, hn, rfl⟩ := List.mem_map.1 hnumber
  -- the numbers given away are at most `count`, so even the last number wraps around to none of them
  have hn_lt : n < count := List.mem_range.1 hn
  have hcount : count < UInt64.size := by
    rwa [firstNumbers, List.length_map, List.length_range] at h
  have hnat := congrArg UInt64.toNat hnumber_eq
  rw [UInt64.toNat_ofNat', UInt64.toNat_ofNat'] at hnat
  have hsize : UInt64.size = 2 ^ 64 := rfl
  omega

/-! ### Everything together -/

/-- The offer of a file to a user joins the queue. -/
structure Queues (p : Peer) (file : Part) (target : Username) (o : Offer) (q : Peer) : Prop where
  /-- It is the one offer that is new, and nothing else changes but the running number. -/
  joins : q = { p with transfers := p.transfers ++ [o], nextOffer := q.nextOffer }
  fresh : ∀ other ∈ p.transfers, other.fileId ≠ o.fileId
  fileName : o.fileName = file.fileName.getD unnamedFile
  fileSize : o.fileSize.toNat = file.content.size
  peerName : o.peerName = target
  /-- It waits for someone else. -/
  outbound : o.direction = .send ∧ o.status = .pending ∧ o.progress = 0

/-- What becomes of a form: the reply to it, and the peer after it. -/
structure Uploads (p : Peer) (parts : List Part) (reply : Reply) (q : Peer) : Prop where
  /-- So is every request answered whose body holds these parts. -/
  served (now : Timestamp) (body : Body) : readForm body = .ok parts → p.changed now body .sendFile = (reply, q)
  /-- The form is taken exactly if it holds a file that is not too large, and names a user who is online. -/
  taken_iff : reply.status = 200 ↔ ∃ file target, Addressed parts file target ∧
    file.content.size ≤ maxUploadBytes ∧ target ∈ p.online
  /-- Without a file or a user it is a bad request, -/
  incomplete_iff : reply.status = 400 ↔ ¬∃ file target, Addressed parts file target
  /-- a file of any user can be too large, -/
  tooLarge_iff : reply.status = 413 ↔ ∃ file target, Addressed parts file target ∧ maxUploadBytes < file.content.size
  /-- and otherwise it is the user who is not found. -/
  absent_iff : reply.status = 404 ↔ ∃ file target, Addressed parts file target ∧
    file.content.size ≤ maxUploadBytes ∧ target ∉ p.online
  /-- The offer of a form that is taken joins the queue. -/
  queued (file : Part) (target : Username) : reply.status = 200 → Addressed parts file target →
    ∃ o, Queues p file target o q
  /-- A form that is refused leaves everything but the running number as it is. -/
  unchanged : reply.status ≠ 200 → q = { p with nextOffer := q.nextOffer }

section Form

variable {p : Peer} {parts : List Part} {file : Part} {target : Username}

lemma served_of_readForm (now : Timestamp) {body : Body} (hbody : readForm body = .ok parts) :
    p.changed now body .sendFile = ((p.answerForm parts).1, (p.answerForm parts).2) := by
  unfold changed
  simp only [hbody]

/-- The size of the file is looked at before the user. -/
lemma status_of_addressed (p : Peer) (h : Addressed parts file target) :
    (p.answerForm parts).1.status =
      if maxUploadBytes < file.content.size then 413 else if target ∈ p.online then 200 else 404 := by
  rw [p.answerForm_of_addressed h]
  split
  · rfl
  · split <;> rfl

lemma queues_outbound (hfresh : ∀ o ∈ p.transfers, o.fileId ≠ offerId p.nextOffer)
    (hsize : file.content.size ≤ maxUploadBytes) :
    Queues p file target (p.outbound file target)
      { p with transfers := p.transfers ++ [p.outbound file target], nextOffer := p.nextOffer + 1 } where
  joins := rfl
  fresh := hfresh
  fileName := rfl
  fileSize := UInt64.toNat_ofNat_of_lt (Nat.lt_of_le_of_lt hsize (by decide))
  peerName := rfl
  outbound := ⟨rfl, rfl, rfl⟩

lemma uploads_of_addressed (hfresh : ∀ o ∈ p.transfers, o.fileId ≠ offerId p.nextOffer)
    (h : Addressed parts file target) : Uploads p parts (p.answerForm parts).1 (p.answerForm parts).2 where
  served now _ hbody := served_of_readForm now hbody
  taken_iff := by
    rw [h.exists_iff, p.status_of_addressed h]
    grind
  incomplete_iff := by
    have hform : ∃ file target, Addressed parts file target := ⟨file, target, h⟩
    rw [p.status_of_addressed h]
    grind
  tooLarge_iff := by
    rw [h.exists_iff, p.status_of_addressed h]
    grind
  absent_iff := by
    rw [h.exists_iff, p.status_of_addressed h]
    grind
  queued file' target' htaken h' := by
    -- a form stands for one file and one user
    obtain ⟨rfl, rfl⟩ := h.unique h'
    rw [p.status_of_addressed h] at htaken
    rw [p.answerForm_of_addressed h]
    by_cases hlarge : maxUploadBytes < file.content.size
    · simp [hlarge] at htaken
    · by_cases honline : target ∈ p.online
      · rw [if_neg hlarge, if_pos honline]
        exact ⟨_, queues_outbound hfresh (Nat.not_lt.1 hlarge)⟩
      · simp [hlarge, honline] at htaken
  unchanged hrefused := by
    rw [p.status_of_addressed h] at hrefused
    rw [p.answerForm_of_addressed h]
    by_cases hlarge : maxUploadBytes < file.content.size
    · rw [if_pos hlarge]
    · by_cases honline : target ∈ p.online
      · simp [hlarge, honline] at hrefused
      · rw [if_neg hlarge, if_neg honline]

lemma uploads_of_not_addressed (h : ¬∃ file target, Addressed parts file target) :
    Uploads p parts (p.answerForm parts).1 (p.answerForm parts).2 := by
  obtain ⟨refusal, hrefusal, hanswer⟩ := p.answerForm_of_not_addressed h
  have hstatus : (p.answerForm parts).1.status = 400 := by
    rw [hanswer]
    exact hrefusal
  have hpeer : (p.answerForm parts).2 = p := by rw [hanswer]
  have hnone : ∀ P : Part → Username → Prop, ¬∃ file target, Addressed parts file target ∧ P file target := by
    rintro P ⟨file, target, hform, -⟩
    exact h ⟨file, target, hform⟩
  have hrefused : (p.answerForm parts).1.status ≠ 200 := by
    rw [hstatus]
    decide
  constructor
  case served =>
    intro now _ hbody
    exact served_of_readForm now hbody
  case taken_iff => exact iff_of_false hrefused (hnone _)
  case incomplete_iff => exact iff_of_true hstatus h
  case tooLarge_iff => exact iff_of_false (by rw [hstatus]; decide) (hnone _)
  case absent_iff => exact iff_of_false (by rw [hstatus]; decide) (hnone _)
  case queued =>
    intro file target htaken
    exact absurd htaken hrefused
  case unchanged =>
    intro _
    rw [hpeer]

end Form

/-- **A form is taken as a whole or not at all.** Whatever happened before, and whatever parts a form is made of, the
last file and the last user decide: the file is queued for the user, once and under an id that no other offer has, or
the reply tells the first thing that is wrong and nothing is queued. -/
theorem uploads_run (name : Username) (incidents : List Incident) (parts : List Part)
    (h : (numbers name incidents).length < UInt64.size) :
    Uploads (run name incidents) parts ((run name incidents).answerForm parts).1
      ((run name incidents).answerForm parts).2 := by
  by_cases hform : ∃ file target, Addressed parts file target
  · obtain ⟨file, target, hform⟩ := hform
    refine uploads_of_addressed ?_ hform
    intro o ho
    exact offerId_ne_of_mem_run h ho
  · exact uploads_of_not_addressed hform

/-- A form with a part of no use, two files and two users, at a peer that has given away two ids before. -/
theorem uploads_of_repeated_parts : ∃ (incidents : List Incident) (parts : List Part),
    parts.map (·.name) = [some "targetName", some "note", some "file", some "file", some "targetName"] ∧
      ((run "alice" incidents).answerForm parts).1.status = 200 ∧
      ((run "alice" incidents).answerForm parts).2.transfers.map (fun o => (o.fileId, o.fileName, o.peerName)) =
        [("file-1", "notes.txt", "bob"), ("file-3", "upload", "carol")] ∧
      (numbers "alice" incidents).length < UInt64.size ∧
      Uploads (run "alice" incidents) parts ((run "alice" incidents).answerForm parts).1
        ((run "alice" incidents).answerForm parts).2 := by
  let incidents : List Incident :=
    [.deed (.offer "bob" "notes.txt" 3), .deed (.upload ⟨some ("plan.txt", 5), some "bob"⟩), .deed (.join "carol")]
  let parts : List Part :=
    [⟨some "targetName", none, none, "bob".toUTF8⟩, ⟨some "note", none, none, "now".toUTF8⟩,
      ⟨some "file", some "old.txt", none, "old".toUTF8⟩, ⟨some "file", none, none, "new text".toUTF8⟩,
      ⟨some "targetName", none, none, " carol ".toUTF8⟩]
  have hnumbers : (numbers "alice" incidents).length < UInt64.size := by decide +kernel
  exact ⟨incidents, parts, by decide +kernel, by decide +kernel, by decide +kernel, hnumbers,
    uploads_run "alice" incidents parts hnumbers⟩

end PeerChat.Peer
