import Mathlib.Tactic.ByContra
import Mathlib.Tactic.Lemma
import PeerChat.Transfer.Prompts

/-!
What a look at a queue does without an open prompt, and queues that hold nothing for the user: either the prompt of a
waiting offer is open, or none is and every waiting offer was put to the user before. A look at such a queue changes
nothing, and after one look at a queue it is such a queue, whatever ids it repeats and whatever was answered.
-/

namespace PeerChat.Transfer.Prompts

/-- The offer waits for the user and was never raised. -/
def isNew (p : Prompts) (o : Offer) : Bool := o.isPendingInbound && !p.wasPrompted o.fileId

/-- The queue holds nothing for the user. -/
def Quiet (p : Prompts) (queue : List Offer) : Prop :=
  match p.current with
  | some prompt => ∃ offer ∈ queue, offer.fileId = prompt.fileId ∧ offer.isPendingInbound = true
  | none => ∀ offer ∈ queue, offer.isPendingInbound = true → p.wasPrompted offer.fileId = true

variable {p : Prompts} {queue : List Offer}

lemma isNew_iff {o : Offer} : p.isNew o = true ↔ o.isPendingInbound = true ∧ p.wasPrompted o.fileId = false := by
  simp [isNew]

/-- The next offer that is raised is the first that is new, and none is raised only if none is new. -/
lemma raiseNext_split (p : Prompts) (queue : List Offer) :
    (∃ front o back, queue = front ++ o :: back ∧ o.isPendingInbound = true ∧ p.wasPrompted o.fileId = false ∧
      (∀ other ∈ front, other.isPendingInbound = true → p.wasPrompted other.fileId = true) ∧
        p.raiseNext queue = (p.raise o.prompt, [.raised o.prompt])) ∨
    ((∀ o ∈ queue, o.isPendingInbound = true → p.wasPrompted o.fileId = true) ∧ p.raiseNext queue = (p, [])) := by
  have hold : ∀ {o : Offer}, ¬p.isNew o = true → o.isPendingInbound = true → p.wasPrompted o.fileId = true := by
    intro o ho hpending
    by_contra hnever
    exact ho (isNew_iff.2 ⟨hpending, Bool.eq_false_iff.2 hnever⟩)
  unfold raiseNext
  split
  · next o hfind =>
    have hfirst : queue.find? p.isNew = some o := hfind
    obtain ⟨hnew, front, back, hqueue, hfront⟩ := List.find?_eq_some_iff_append.1 hfirst
    obtain ⟨hpending, hnever⟩ := isNew_iff.1 hnew
    exact Or.inl ⟨front, o, back, hqueue, hpending, hnever,
      fun other hother => hold (by simpa using hfront other hother), rfl⟩
  · next hfind => exact Or.inr ⟨fun o ho => hold (List.find?_eq_none.1 hfind o ho), rfl⟩

/-- A look at a queue that holds nothing for the user brings nothing. -/
theorem scan_of_quiet (h : p.Quiet queue) : p.scan queue = (p, []) := by
  unfold Quiet at h
  unfold scan
  cases hcurrent : p.current with
  | some prompt =>
    rw [hcurrent] at h
    obtain ⟨offer, hoffer, hid, hwaits⟩ := h
    have hany : queue.any (fun offer => offer.fileId == prompt.fileId && offer.isPendingInbound) = true :=
      List.any_eq_true.2 ⟨offer, hoffer, by simp [hid, hwaits]⟩
    simp only [hany, if_true]
  | none =>
    rw [hcurrent] at h
    show p.raiseNext queue = _
    rcases p.raiseNext_split queue with ⟨front, o, back, rfl, hwaits, hnew, -, -⟩ | ⟨-, hnext⟩
    · have hold := h o (List.mem_append_right _ List.mem_cons_self) hwaits
      exact nomatch hnew.symm.trans hold
    · exact hnext

lemma quiet_raiseNext (h : p.current = none) : (p.raiseNext queue).1.Quiet queue := by
  rcases p.raiseNext_split queue with ⟨front, o, back, rfl, hwaits, -, -, hnext⟩ | ⟨hold, hnext⟩
  · rw [hnext]
    exact ⟨o, List.mem_append_right _ List.mem_cons_self, rfl, hwaits⟩
  · rw [hnext]
    unfold Quiet
    rw [h]
    exact hold

/-- After a look at a queue, it holds nothing for the user. -/
theorem quiet_scan (p : Prompts) (queue : List Offer) : (p.scan queue).1.Quiet queue := by
  unfold scan
  cases hcurrent : p.current with
  | none => exact quiet_raiseNext hcurrent
  | some prompt =>
    by_cases hany : queue.any (fun offer => offer.fileId == prompt.fileId && offer.isPendingInbound) = true
    · simp only [hany, if_true]
      obtain ⟨offer, hoffer, hwaits⟩ := List.any_eq_true.1 hany
      simp only [Bool.and_eq_true, beq_iff_eq] at hwaits
      unfold Quiet
      rw [hcurrent]
      exact ⟨offer, hoffer, hwaits⟩
    · simp only [hany]
      exact quiet_raiseNext (p := p.withdraw prompt.fileId) rfl

end PeerChat.Transfer.Prompts
