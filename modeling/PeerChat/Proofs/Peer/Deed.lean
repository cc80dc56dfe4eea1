import Mathlib.Tactic.Lemma
import PeerChat.Peer.Basic

/-!
What can happen at a peer, and what becomes of its log and of its offers.

* `log_does`: whatever happens, the log stays or takes one message;
* `length_log_does`: the log never gets shorter, and never longer than the cap;
* `moved_of_respond`: an answer that is taken moves just the offer that it names.
-/

namespace PeerChat.Peer

open Calendar (Timestamp)
open Transfer (Offer Response Status)

/-- Something that happens at a peer, apart from the answers that it is sent. -/
inductive Deed
  | join (username : Username)
  | leave (username : Username)
  /-- Its user submits a text. -/
  | submit (now : Timestamp) (text : String)
  | receive (now : Timestamp) (sender : Username) (text : String) (isPrivate : Bool)
  | offer (sender : Username) (fileName : String) (fileSize : UInt64)
  | setStatus (fileId : FileId) (status : Status)
  | upload (parcel : Parcel)
deriving DecidableEq, Repr

/-- The peer afterwards; what is refused changes nothing. -/
def does (p : Peer) : Deed → Peer
  | .join username => p.join username
  | .leave username => p.leave username
  | .submit now text => (p.submit now text).toOption.getD p
  | .receive now sender text isPrivate => (p.receive now sender text isPrivate).1
  | .offer sender fileName fileSize => (p.offer sender fileName fileSize).2
  | .setStatus fileId status => (p.setStatus fileId status).1
  | .upload parcel => (p.upload parcel).2

variable (p : Peer)

/-! ### The log -/

lemma log_carryOut (now : Timestamp) (order : Order) :
    (p.carryOut now order).log = p.log ∨ ∃ m, p.carryOut now order = p.record m := by
  cases order with
  | say text => exact Or.inr ⟨_, rfl⟩
  | whisper target text => exact Or.inr ⟨_, rfl⟩
  | setBlocked intent => exact Or.inl rfl

lemma submit_eq_ok {now : Timestamp} {text : String} {q : Peer} (h : p.submit now text = .ok q) :
    ∃ order, q = p.carryOut now order := by
  unfold submit at h
  cases horder : Order.ofText text with
  | error refusal => rw [horder] at h; exact nomatch h
  | ok order =>
    rw [horder] at h
    refine ⟨order, ?_⟩
    cases habsent : order.target?.filter (!p.online.contains ·) with
    | some absent => simp [bind, Except.bind, habsent] at h
    | none => simpa [bind, Except.bind, habsent, pure, Except.pure, eq_comm] using h

lemma log_receive (now : Timestamp) (sender : Username) (text : String) (isPrivate : Bool) :
    (p.receive now sender text isPrivate).1 = p ∨ ∃ m, (p.receive now sender text isPrivate).1 = p.record m := by
  unfold receive
  split
  · exact Or.inl rfl
  · exact Or.inr ⟨_, rfl⟩

lemma log_upload (parcel : Parcel) : (p.upload parcel).2.log = p.log := by
  unfold upload
  split
  · rfl
  · rfl
  · split
    · rfl
    · dsimp only [allocate]
      split <;> rfl

/-- Whatever happens, the log stays as it is or takes one message. -/
theorem log_does (deed : Deed) : (p.does deed).log = p.log ∨ ∃ m, (p.does deed).log = (p.record m).log := by
  cases deed with
  | submit now text =>
    show ((p.submit now text).toOption.getD p).log = p.log ∨ ∃ m, ((p.submit now text).toOption.getD p).log = _
    cases h : p.submit now text with
    | error refusal => exact Or.inl rfl
    | ok q =>
      obtain ⟨order, rfl⟩ := p.submit_eq_ok h
      exact (p.log_carryOut now order).imp_right fun ⟨m, hm⟩ => ⟨m, congrArg Peer.log hm⟩
  | receive now sender text isPrivate =>
    refine (p.log_receive now sender text isPrivate).imp (congrArg Peer.log) ?_
    exact fun ⟨m, hm⟩ => ⟨m, congrArg Peer.log hm⟩
  | upload parcel => exact Or.inl (p.log_upload parcel)
  | join | leave | offer | setStatus => exact Or.inl rfl

lemma length_log_record (m : WireMessage) : (p.record m).log.length = min (p.log.length + 1) logCap := by
  unfold record
  rw [List.length_drop, List.length_append, List.length_singleton]
  omega

lemma log_does_of_length_eq (deed : Deed) (hcap : p.log.length < logCap)
    (h : (p.does deed).log.length = p.log.length) : (p.does deed).log = p.log := by
  rcases p.log_does deed with hlog | ⟨m, hm⟩
  · exact hlog
  · rw [hm, length_log_record] at h
    omega

lemma length_log_does (deed : Deed) (hcap : p.log.length ≤ logCap) :
    p.log.length ≤ (p.does deed).log.length ∧ (p.does deed).log.length ≤ logCap := by
  rcases p.log_does deed with hlog | ⟨m, hm⟩
  · rw [hlog]
    exact ⟨Nat.le_refl _, hcap⟩
  · rw [hm, length_log_record]
    omega

/-! ### Answers -/

/-- Just the first offer under an id moves, from pending to another status: everything else stays as it is. -/
def Moved (fileId : FileId) (status : Status) (before after : Peer) : Prop :=
  ∃ front o back, before.transfers = front ++ o :: back ∧ (∀ other ∈ front, other.fileId ≠ fileId) ∧
    o.fileId = fileId ∧ o.direction = .receive ∧ o.status = .pending ∧
      after = { before with transfers := front ++ { o with status := status } :: back }

lemma replaceStatus_append {fileId : FileId} (status : Status) {front back : List Offer} {o : Offer}
    (hfront : ∀ other ∈ front, other.fileId ≠ fileId) (ho : o.fileId = fileId) :
    replaceStatus fileId status (front ++ o :: back) = front ++ { o with status := status } :: back := by
  induction front with
  | nil => exact if_pos ho
  | cons other front ih =>
    obtain ⟨hother, hrest⟩ := List.forall_mem_cons.1 hfront
    show (if other.fileId = fileId then _ else other :: replaceStatus fileId status (front ++ o :: back)) = _
    rw [if_neg hother, ih hrest]
    rfl

/-- An answer that is taken moves the offer that it names. -/
theorem moved_of_respond {response : Response} {q : Peer} (h : p.respond response = .ok q) :
    Moved response.fileId (if response.accepted then .transferring else .rejected) p q := by
  unfold respond at h
  cases ho : p.offer? response.fileId with
  | none => rw [ho] at h; exact nomatch h
  | some o =>
    rw [ho] at h
    dsimp only at h
    split at h
    · next hpending =>
      obtain ⟨hid, front, back, hqueue, hfront⟩ := List.find?_eq_some_iff_append.1 ho
      have hid' : o.fileId = response.fileId := by simpa using hid
      have hfront' : ∀ other ∈ front, other.fileId ≠ response.fileId := by simpa using hfront
      have hwaits : o.direction = .receive ∧ o.status = .pending := by simpa [Offer.isPendingInbound] using hpending
      refine ⟨front, o, back, hqueue, hfront', hid', hwaits.1, hwaits.2, ?_⟩
      rw [← replaceStatus_append _ hfront' hid', ← hqueue]
      exact (Except.ok.inj h).symm
    · exact nomatch h

end PeerChat.Peer
