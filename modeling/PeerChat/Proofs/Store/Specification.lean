import Mathlib.Tactic.Tauto
import PeerChat.Proofs.Store.Counted

/-!
The specification of the store: what it holds after any history of calls, and what it tells of the next call, said of
the calls that were taken.

* `seen_after`: the ids ever seen are those of the offers of all taken queues;
* `identity_after`: the local user is the one of the last taken roster that marks exactly one user;
* `specified_after`: the whole store, and the signal of the next call.
-/

namespace PeerChat

open Transfer (Offer)

namespace Snapshot

def queue? : Snapshot → Option (List Offer)
  | transfers queue => some queue
  | _ => none

def names? : Snapshot → Option BlockList
  | blockList names => some names
  | _ => none

/-- The user that the roster marks as the local one, if the snapshot shows it and exactly one is marked. -/
def soleSelf? (snapshot : Snapshot) : Option User :=
  snapshot.users?.bind fun users => if users.countP (·.isSelf) = 1 then users.find? (·.isSelf) else none

end Snapshot

/-- The local user is known from a roster exactly if one user is marked, and then it is that one. -/
lemma Roster.identity?_eq (users : List User) :
    identity? users = (if users.countP (·.isSelf) = 1 then users.find? (·.isSelf) else none).map (·.username) := by
  unfold identity?
  rw [List.countP_eq_length_filter, ← List.head?_filter]
  generalize users.filter (·.isSelf) = marked
  match marked with
  | [] => rfl
  | [user] => rfl
  | _ :: _ :: _ => simp

namespace Store

/-! ### What is replaced at every call -/

lemma blocked_reconcile (s : Store) (keep : Bool) (snapshot : Snapshot) :
    (s.reconcile keep snapshot).1.blocked = snapshot.names?.getD s.blocked := by
  cases snapshot with
  | messages log => rw [reconcile_messages]; rfl
  | roster entries => rw [reconcile_roster]; rfl
  | transfers queue => rfl
  | blockList names => rfl

lemma transfers_reconcile (s : Store) (keep : Bool) (snapshot : Snapshot) :
    (s.reconcile keep snapshot).1.transfers = snapshot.queue?.getD s.transfers := by
  cases snapshot with
  | messages log => rw [reconcile_messages]; rfl
  | roster entries => rw [reconcile_roster]; rfl
  | transfers queue => rfl
  | blockList names => rfl

/-! ### Seen ids -/

lemma mem_foldl_insert (queue : List Offer) (seen : NameSet) (fileId : FileId) :
    fileId ∈ queue.foldl (fun seen offer => seen.insert offer.fileId) seen ↔
      fileId ∈ seen ∨ ∃ offer ∈ queue, offer.fileId = fileId := by
  induction queue generalizing seen with
  | nil => simp
  | cons offer queue ih =>
    rw [List.foldl_cons, ih, NameSet.mem_insert]
    simp only [List.mem_cons, exists_eq_or_imp, eq_comm (a := fileId)]
    tauto

lemma mem_seen_reconcile (s : Store) (keep : Bool) (snapshot : Snapshot) (fileId : FileId) :
    fileId ∈ (s.reconcile keep snapshot).1.seen ↔
      (∃ queue ∈ snapshot.queue?, ∃ offer ∈ queue, offer.fileId = fileId) ∨ fileId ∈ s.seen := by
  cases snapshot with
  | messages log => rw [reconcile_messages]; simp [Snapshot.queue?]
  | roster entries => rw [reconcile_roster]; simp [Snapshot.queue?]
  | transfers queue =>
    show fileId ∈ queue.foldl _ s.seen ↔ _
    rw [mem_foldl_insert]
    simp [Snapshot.queue?, or_comm]
  | blockList names => simp [Snapshot.queue?, reconcile]

/-- An offer with this id was in a queue that was taken. -/
def Seen (past : List Call) (fileId : FileId) : Prop :=
  ∃ d ∈ taken past, ∃ queue ∈ d.snapshot.queue?, ∃ offer ∈ queue, offer.fileId = fileId

/-- The ids ever seen are those of the offers of all taken queues. -/
theorem seen_after (past : List Call) (fileId : FileId) : fileId ∈ (after past).seen ↔ Seen past fileId := by
  induction past with
  | nil => simp [after, empty, Seen, taken]
  | cons c past ih =>
    unfold Seen at ih ⊢
    by_cases h : Overtaken past c
    · rw [after_cons_of_overtaken h, taken_cons_of_overtaken h, ih]
    · rw [after_cons_of_not_overtaken h, taken_cons_of_not_overtaken h, mem_seen_reconcile]
      simp only [List.mem_cons, exists_eq_or_imp]
      rw [← ih]

/-! ### The local user -/

lemma identity_reconcile (s : Store) (keep : Bool) (snapshot : Snapshot) :
    (s.reconcile keep snapshot).1.identity = (snapshot.soleSelf?.map (·.username)).or s.identity := by
  cases snapshot with
  | messages log => rw [reconcile_messages]; rfl
  | roster entries => rw [reconcile_roster]; exact congrArg (·.or s.identity) (Roster.identity?_eq _)
  | transfers queue => rfl
  | blockList names => rfl

/-- The local user is the one that the last taken roster marks, of those that mark exactly one. -/
theorem identity_after (past : List Call) :
    (after past).identity = (latest Snapshot.soleSelf? past).map (·.username) := by
  induction past with
  | nil => rfl
  | cons c past ih =>
    by_cases h : Overtaken past c
    · rw [after_cons_of_overtaken h, latest_cons_of_overtaken h, ih]
    · rw [after_cons_of_not_overtaken h, latest_cons_of_not_overtaken h, identity_reconcile, Option.map_or]
      exact congrArg (Option.or _) ih

lemma identity_kept (past : List Call) (c : Call) (h : (after past).identity ≠ none) :
    (after (c :: past)).identity ≠ none := by
  by_cases ho : Overtaken past c
  · rwa [after_cons_of_overtaken ho]
  · rw [after_cons_of_not_overtaken ho, identity_reconcile]
    cases c.snapshot.soleSelf? with
    | none => exact h
    | some user => exact Option.some_ne_none _

/-! ### Signals -/

/-- The snapshot differs from what the history left: in its length, by an offer that was never seen, or in itself. -/
def Differs (past : List Call) : Snapshot → Prop
  | .messages log => log.length ≠ (after past).messages.length
  | .roster entries => (Roster.users entries).length ≠ (after past).roster.length
  | .transfers queue => ∃ offer ∈ queue, ¬Seen past offer.fileId
  | .blockList names => names ≠ (after past).blocked

lemma signal_eq_stale {past : List Call} {c : Call} : ((after past).call c).2 = .stale ↔ Overtaken past c :=
  applyInOrder_signal_eq_stale.trans isStale_iff_overtaken

lemma signal_eq_changed {past : List Call} {c : Call} :
    ((after past).call c).2 = .changed ↔ ¬Overtaken past c ∧ Differs past c.snapshot := by
  by_cases h : Overtaken past c
  · rw [call_of_overtaken h]
    simp [h]
  · rw [call_of_not_overtaken h, and_iff_right h]
    cases c.snapshot with
    | messages log => rw [reconcile_messages]; simp [Differs]
    | roster entries => rw [reconcile_roster]; simp [Differs]
    | transfers queue =>
      show ChangeSignal.ofChanged (queue.any fun offer => !(after past).seen.contains offer.fileId) = _ ↔ _
      simp [Differs, ← seen_after, ← NameSet.contains_iff]
    | blockList names => simp [Differs, reconcile]

/-! ### The whole store -/

/-- What the store is, and does next, after a history. -/
structure Specified (past : List Call) : Prop where
  /-- The block list and the transfer queue are those of the last taken snapshots. -/
  blocked : (after past).blocked = (latest Snapshot.names? past).getD ∅
  transfers : (after past).transfers = (latest Snapshot.queue? past).getD []
  /-- There are as many messages and users as in the last taken snapshots. -/
  length_messages : (after past).messages.length = ((latest Snapshot.log? past).getD []).length
  length_roster : (after past).roster.length = ((latest Snapshot.users? past).getD []).length
  /-- They are those of the last taken snapshot that was forced or had another length than what was stored. -/
  messages : (after past).messages = ((Counted.messages.kept past).head?.bind (·.snapshot.log?)).getD []
  roster : (after past).roster = ((Counted.roster.kept past).head?.bind (·.snapshot.users?)).getD []
  /-- The local user is the one that the last taken roster marks, of those that mark exactly one. -/
  identity : (after past).identity = (latest Snapshot.soleSelf? past).map (·.username)
  identity_kept : ∀ c, (after past).identity ≠ none → (after (c :: past)).identity ≠ none
  /-- A call is stale exactly if it was overtaken, and then it leaves the store as it was. -/
  stale_iff : ∀ c, ((after past).call c).2 = .stale ↔ Overtaken past c
  stale_eq : ∀ c, Overtaken past c → after (c :: past) = after past
  /-- Any other call tells of a change exactly if its snapshot differs. -/
  changed_iff : ∀ c, ¬Overtaken past c → (((after past).call c).2 = .changed ↔ Differs past c.snapshot)

/-- **What the store holds is a function of the calls that were taken.** -/
theorem specified_after (past : List Call) : Specified past where
  blocked := eq_latest Store.blocked Snapshot.names? (fun _ _ => rfl) blocked_reconcile past
  transfers := eq_latest Store.transfers Snapshot.queue? (fun _ _ => rfl) transfers_reconcile past
  length_messages := Counted.messages.length_stored_after past
  length_roster := Counted.roster.length_stored_after past
  messages := Counted.messages.stored_after past
  roster := Counted.roster.stored_after past
  identity := identity_after past
  identity_kept c := identity_kept past c
  stale_iff _ := signal_eq_stale
  stale_eq _ := after_cons_of_overtaken
  changed_iff c h := by rw [signal_eq_changed, and_iff_right h]

end Store

end PeerChat
