import Mathlib.Tactic.Lemma
import PeerChat.Store

/-!
One call of the store in closed form: what is left of the store, and what is told, after each kind of snapshot. A log or
roster of the same length is kept out unless it was asked for by force; everything else is stored as it comes.
-/

namespace PeerChat

open Transfer (Offer)

/-! ### Signals -/

namespace ChangeSignal

@[simp] lemma ofChanged_ne_stale (b : Bool) : ofChanged b ≠ stale := by cases b <;> decide

@[simp] lemma ofChanged_eq_changed {b : Bool} : ofChanged b = changed ↔ b = true := by cases b <;> decide

end ChangeSignal

namespace Store

/-! ### What is kept of a counted list -/

/-- What is stored after `new` has come while `old` was stored. -/
def pick (keep : Bool) (old new : List α) : List α := if new.length ≠ old.length ∨ keep then new else old

@[simp] lemma length_pick (keep : Bool) (old new : List α) : (pick keep old new).length = new.length := by
  unfold pick
  split
  · rfl
  · next h => exact (Decidable.not_not.1 (not_or.1 h).1).symm

lemma pick_of_keeps {keep : Bool} {old new : List α} (h : new.length ≠ old.length ∨ keep) : pick keep old new = new :=
  if_pos h

lemma pick_of_not_keeps {keep : Bool} {old new : List α} (h : ¬(new.length ≠ old.length ∨ keep)) :
    pick keep old new = old :=
  if_neg h

/-! ### Each kind of snapshot -/

variable (s : Store) (keep : Bool)

lemma reconcile_messages (log : List Message) :
    s.reconcile keep (.messages log) =
      ({ s with messages := pick keep s.messages log }, .ofChanged (log.length != s.messages.length)) := by
  unfold reconcile pick
  by_cases h : log.length = s.messages.length <;> cases keep <;> simp [h]

lemma reconcile_roster (entries : List String) :
    s.reconcile keep (.roster entries) =
      ({ s with
          identity := (Roster.identity? (Roster.users entries)).or s.identity
          roster := pick keep s.roster (Roster.users entries) },
        .ofChanged ((Roster.users entries).length != s.roster.length)) := by
  unfold reconcile pick
  by_cases h : (Roster.users entries).length = s.roster.length <;> cases keep <;> simp [h]

/-! ### Order -/

variable {s} {seq : Nat} {snapshot : Snapshot} {forced : Bool}

lemma applyInOrder_of_stale (h : s.isStale snapshot.resource seq = true) :
    s.applyInOrder seq snapshot forced = (s, .stale) := by
  unfold applyInOrder
  rw [if_pos h]

lemma applyInOrder_of_fresh (h : s.isStale snapshot.resource seq = false) :
    s.applyInOrder seq snapshot forced =
      { s with applied := s.applied.set snapshot.resource (some seq) }.reconcile forced snapshot := by
  unfold applyInOrder
  rw [if_neg (by rw [h]; decide)]

lemma applyInOrder_signal_eq_stale :
    (s.applyInOrder seq snapshot forced).2 = .stale ↔ s.isStale snapshot.resource seq = true := by
  cases h : s.isStale snapshot.resource seq with
  | true => rw [applyInOrder_of_stale h]; simp
  | false =>
    rw [applyInOrder_of_fresh h]
    cases snapshot <;> simp [reconcile]

end Store

end PeerChat
