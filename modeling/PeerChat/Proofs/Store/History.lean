import PeerChat.Proofs.Store.Call

/-!
Histories of a store: the calls that were made, in any order and under any numbers, and the store that they leave. A
call is overtaken if a call for the same resource with a higher number came before it; all others are taken. What the
store holds is said here of the calls that were taken, and not of the store that they found.

Histories are lists of calls with the newest call first.
-/

namespace PeerChat

namespace Store

/-- An answer that the store is given: the number of its request, what it shows, and whether it was asked for by
force. -/
structure Call where
  seq : Nat
  snapshot : Snapshot
  forced : Bool
deriving DecidableEq, Repr

def call (s : Store) (c : Call) : Store × ChangeSignal := s.applyInOrder c.seq c.snapshot c.forced

/-- The store after a history. -/
def after : List Call → Store
  | [] => empty
  | c :: past => ((after past).call c).1

/-! ### Overtaken calls -/

/-- A call for the same resource with a higher number came before. -/
def Overtaken (past : List Call) (c : Call) : Prop :=
  ∃ d ∈ past, d.snapshot.resource = c.snapshot.resource ∧ c.seq < d.seq

instance (past : List Call) (c : Call) : Decidable (Overtaken past c) := by
  unfold Overtaken; infer_instance

/-- The calls of a history that were not overtaken when they came. -/
def taken : List Call → List Call
  | [] => []
  | c :: past => if Overtaken past c then taken past else c :: taken past

@[simp] lemma applied_reconcile (s : Store) (keep : Bool) (snapshot : Snapshot) :
    (s.reconcile keep snapshot).1.applied = s.applied := by
  cases snapshot with
  | messages log => rw [reconcile_messages]
  | roster entries => rw [reconcile_roster]
  | transfers queue => rfl
  | blockList names => rfl

lemma isStale_iff {s : Store} {resource : Resource} {seq : Nat} :
    s.isStale resource seq = true ↔ ∃ last, s.applied.get resource = some last ∧ seq < last := by
  unfold isStale
  cases s.applied.get resource <;> simp

/-- The number of the newest answer is all that a store knows of numbers: after a call, an answer is stale if it comes
after that call or was stale before. -/
lemma isStale_call (s : Store) (c : Call) (resource : Resource) (seq : Nat) :
    (s.call c).1.isStale resource seq = true ↔
      (c.snapshot.resource = resource ∧ seq < c.seq) ∨ s.isStale resource seq = true := by
  unfold call
  cases h : s.isStale c.snapshot.resource c.seq with
  | true =>
    rw [applyInOrder_of_stale h]
    refine ⟨Or.inr, ?_⟩
    rintro (⟨rfl, hlt⟩ | hs)
    · obtain ⟨last, hlast, hc⟩ := isStale_iff.1 h
      exact isStale_iff.2 ⟨last, hlast, by omega⟩
    · exact hs
  | false =>
    have hfresh : ∀ last, s.applied.get c.snapshot.resource = some last → last ≤ c.seq := fun last hlast =>
      Nat.not_lt.1 fun hlt => Bool.eq_false_iff.1 h (isStale_iff.2 ⟨last, hlast, hlt⟩)
    rw [applyInOrder_of_fresh h, isStale_iff, isStale_iff, applied_reconcile]
    by_cases hr : c.snapshot.resource = resource
    · subst hr
      rw [PerResource.get_set_self]
      constructor
      · rintro ⟨last, hlast, hlt⟩
        cases hlast
        exact Or.inl ⟨rfl, hlt⟩
      · rintro (⟨-, hlt⟩ | ⟨last, hlast, hlt⟩)
        · exact ⟨c.seq, rfl, hlt⟩
        · exact ⟨c.seq, rfl, Nat.lt_of_lt_of_le hlt (hfresh last hlast)⟩
    · rw [PerResource.get_set_of_ne _ _ (Ne.symm hr)]
      simp [hr]

lemma applied_call {s : Store} {c : Call} {resource : Resource} {seq : Nat}
    (h : (s.call c).1.applied.get resource = some seq) :
    s.applied.get resource = some seq ∨ c.snapshot.resource = resource ∧ c.seq = seq := by
  unfold call at h
  cases hstale : s.isStale c.snapshot.resource c.seq with
  | true =>
    rw [applyInOrder_of_stale hstale] at h
    exact Or.inl h
  | false =>
    rw [applyInOrder_of_fresh hstale, applied_reconcile] at h
    by_cases hr : c.snapshot.resource = resource
    · subst hr
      rw [PerResource.get_set_self] at h
      exact Or.inr ⟨rfl, Option.some_inj.1 h⟩
    · rw [PerResource.get_set_of_ne _ _ (Ne.symm hr)] at h
      exact Or.inl h

/-- The store calls an answer stale exactly if the history overtook it. -/
lemma isStale_after (past : List Call) (resource : Resource) (seq : Nat) :
    (after past).isStale resource seq = true ↔ ∃ d ∈ past, d.snapshot.resource = resource ∧ seq < d.seq := by
  induction past with
  | nil => cases resource <;> simp [after, isStale, empty, PerResource.const, PerResource.get]
  | cons c past ih =>
    unfold after
    rw [isStale_call, ih]
    simp only [List.mem_cons, exists_eq_or_imp]

section Step

variable {past : List Call} {c : Call}

lemma isStale_iff_overtaken : (after past).isStale c.snapshot.resource c.seq = true ↔ Overtaken past c :=
  isStale_after past _ _

lemma call_of_overtaken (h : Overtaken past c) : (after past).call c = (after past, .stale) :=
  applyInOrder_of_stale (isStale_iff_overtaken.2 h)

lemma call_of_not_overtaken (h : ¬Overtaken past c) :
    (after past).call c =
      { after past with applied := (after past).applied.set c.snapshot.resource (some c.seq) }.reconcile c.forced
        c.snapshot :=
  applyInOrder_of_fresh (Bool.eq_false_iff.2 fun hs => h (isStale_iff_overtaken.1 hs))

lemma after_cons_of_overtaken (h : Overtaken past c) : after (c :: past) = after past := by
  show ((after past).call c).1 = after past
  rw [call_of_overtaken h]

lemma after_cons_of_not_overtaken (h : ¬Overtaken past c) :
    after (c :: past) =
      ({ after past with applied := (after past).applied.set c.snapshot.resource (some c.seq) }.reconcile c.forced
        c.snapshot).1 := by
  show ((after past).call c).1 = _
  rw [call_of_not_overtaken h]

lemma taken_cons_of_overtaken (h : Overtaken past c) : taken (c :: past) = taken past := if_pos h

lemma taken_cons_of_not_overtaken (h : ¬Overtaken past c) : taken (c :: past) = c :: taken past := if_neg h

end Step

/-! ### The last snapshot taken -/

/-- What the last taken call shows, of those that show anything of the kind. -/
def latest (read : Snapshot → Option α) (past : List Call) : Option α := (taken past).findSome? (read ·.snapshot)

section Latest

variable {read : Snapshot → Option α} {past : List Call} {c : Call}

lemma latest_cons_of_overtaken (h : Overtaken past c) : latest read (c :: past) = latest read past := by
  unfold latest
  rw [taken_cons_of_overtaken h]

lemma latest_cons_of_not_overtaken (h : ¬Overtaken past c) :
    latest read (c :: past) = (read c.snapshot).or (latest read past) := by
  unfold latest
  rw [taken_cons_of_not_overtaken h, List.findSome?_cons]
  cases read c.snapshot <;> rfl

lemma latest_cons_of_eq_none (h : read c.snapshot = none) : latest read (c :: past) = latest read past := by
  by_cases ho : Overtaken past c
  · exact latest_cons_of_overtaken ho
  · rw [latest_cons_of_not_overtaken ho, h, Option.none_or]

lemma latest_map {f : α → β} : latest (fun snapshot => (read snapshot).map f) past = (latest read past).map f := by
  unfold latest
  rw [List.map_findSome?]
  rfl

end Latest

/-- What every taken snapshot of a kind replaces is at all times what the last one showed. -/
theorem eq_latest (field : Store → α) (read : Snapshot → Option α)
    (happlied : ∀ s applied, field { s with applied := applied } = field s)
    (hread : ∀ s keep snapshot, field (reconcile s keep snapshot).1 = (read snapshot).getD (field s))
    (past : List Call) : field (after past) = (latest read past).getD (field empty) := by
  induction past with
  | nil => rfl
  | cons c past ih =>
    by_cases h : Overtaken past c
    · rw [after_cons_of_overtaken h, latest_cons_of_overtaken h, ih]
    · rw [latest_cons_of_not_overtaken h, after_cons_of_not_overtaken h, hread, happlied, ih]
      cases read c.snapshot <;> rfl

end Store

end PeerChat
