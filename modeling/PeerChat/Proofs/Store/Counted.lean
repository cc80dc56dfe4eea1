import PeerChat.Proofs.Store.History

/-!
Counted resources: the message log and the roster, which are compared by their lengths alone. A taken snapshot of the
length that is stored is kept out unless it was asked for by force, so what is stored stems from the last taken call
that kept its snapshot, and only its length from the last taken call.
-/

namespace PeerChat

namespace Snapshot

/-- The message log, if the snapshot shows it. -/
def log? : Snapshot → Option (List Message)
  | messages log => some log
  | _ => none

def users? : Snapshot → Option (List User)
  | roster entries => some (Roster.users entries)
  | _ => none

end Snapshot

namespace Store

/-- A resource that is compared by its length alone. -/
structure Counted (α : Type) where
  resource : Resource
  /-- The elements, if the snapshot shows this resource. -/
  shown? : Snapshot → Option (List α)
  /-- What a store holds of it. -/
  stored : Store → List α
  isSome_shown? : ∀ snapshot, (shown? snapshot).isSome = true ↔ snapshot.resource = resource
  stored_empty : stored empty = []
  stored_applied : ∀ (s : Store) applied, stored { s with applied := applied } = stored s
  stored_reconcile : ∀ (s : Store) keep snapshot,
    stored (s.reconcile keep snapshot).1 = ((shown? snapshot).map (pick keep (stored s))).getD (stored s)
  signal_reconcile : ∀ (s : Store) keep snapshot elements, shown? snapshot = some elements →
    (s.reconcile keep snapshot).2 = .ofChanged (elements.length != (stored s).length)

namespace Counted

def messages : Counted Message where
  resource := .messages
  shown? := Snapshot.log?
  stored := Store.messages
  isSome_shown? snapshot := by cases snapshot <;> simp [Snapshot.log?, Snapshot.resource]
  stored_empty := rfl
  stored_applied _ _ := rfl
  stored_reconcile s keep snapshot := by
    cases snapshot with
    | messages log => rw [reconcile_messages]; rfl
    | roster entries => rw [reconcile_roster]; rfl
    | transfers queue => rfl
    | blockList names => rfl
  signal_reconcile s keep snapshot elements h := by
    cases snapshot with
    | messages log => cases h; rw [reconcile_messages]
    | roster | transfers | blockList => cases h

def roster : Counted User where
  resource := .roster
  shown? := Snapshot.users?
  stored := Store.roster
  isSome_shown? snapshot := by cases snapshot <;> simp [Snapshot.users?, Snapshot.resource]
  stored_empty := rfl
  stored_applied _ _ := rfl
  stored_reconcile s keep snapshot := by
    cases snapshot with
    | messages log => rw [reconcile_messages]; rfl
    | roster entries => rw [reconcile_roster]; rfl
    | transfers queue => rfl
    | blockList names => rfl
  signal_reconcile s keep snapshot elements h := by
    cases snapshot with
    | roster entries => cases h; rw [reconcile_roster]
    | messages | transfers | blockList => cases h

variable (view : Counted α)

/-! ### The length -/

/-- As many elements are stored as the last taken snapshot has. -/
theorem length_stored_after (past : List Call) :
    (view.stored (after past)).length = ((latest view.shown? past).getD []).length := by
  have h := eq_latest (fun s => (view.stored s).length) (fun snapshot => (view.shown? snapshot).map List.length)
    (fun s applied => by rw [view.stored_applied])
    (fun s keep snapshot => by rw [view.stored_reconcile]; cases view.shown? snapshot <;> simp) past
  rw [h, latest_map, view.stored_empty]
  cases latest view.shown? past <;> rfl

/-! ### The content -/

/-- The call is taken, and its snapshot replaces what is stored: it was asked for by force, or has another length. -/
def Keeps (past : List Call) (c : Call) : Prop :=
  ¬Overtaken past c ∧ ∃ elements ∈ view.shown? c.snapshot,
    elements.length ≠ (view.stored (after past)).length ∨ c.forced = true

instance (past : List Call) (c : Call) : Decidable (view.Keeps past c) := by
  unfold Keeps; infer_instance

/-- The calls of a history whose snapshots were kept. -/
def kept : List Call → List Call
  | [] => []
  | c :: past => if view.Keeps past c then c :: kept past else kept past

variable {view} in
lemma Keeps.not_overtaken {past : List Call} {c : Call} (h : view.Keeps past c) : ¬Overtaken past c := h.1

variable {view} in
lemma kept_cons_of_keeps {past : List Call} {c : Call} (h : view.Keeps past c) :
    view.kept (c :: past) = c :: view.kept past :=
  if_pos h

variable {view} in
lemma kept_cons_of_not_keeps {past : List Call} {c : Call} (h : ¬view.Keeps past c) :
    view.kept (c :: past) = view.kept past :=
  if_neg h

/-- What is stored is what the last call showed whose snapshot was kept. -/
theorem stored_after (past : List Call) :
    view.stored (after past) = ((view.kept past).head?.bind (view.shown? ·.snapshot)).getD [] := by
  induction past with
  | nil => exact view.stored_empty
  | cons c past ih =>
    by_cases h : Overtaken past c
    · rw [kept_cons_of_not_keeps fun hk => hk.not_overtaken h, after_cons_of_overtaken h, ih]
    · rw [after_cons_of_not_overtaken h, view.stored_reconcile, view.stored_applied]
      cases hs : view.shown? c.snapshot with
      | none =>
        rw [kept_cons_of_not_keeps fun ⟨_, elements, he, _⟩ => by simp [hs] at he, ih]
        rfl
      | some elements =>
        by_cases hk : elements.length ≠ (view.stored (after past)).length ∨ c.forced = true
        · rw [kept_cons_of_keeps ⟨h, elements, hs, hk⟩]
          show pick c.forced _ elements = _
          rw [pick_of_keeps hk, List.head?_cons, Option.bind_some, hs]
          rfl
        · have hn : ¬view.Keeps past c := fun ⟨_, other, ho, hk'⟩ => by
            cases hs.symm.trans ho
            exact hk hk'
          rw [kept_cons_of_not_keeps hn, ← ih]
          exact pick_of_not_keeps hk

end Counted

end Store

end PeerChat
