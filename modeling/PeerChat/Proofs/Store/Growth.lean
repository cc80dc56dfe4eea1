import Mathlib.Data.List.Infix
import PeerChat.Proofs.Store.Refresh
import PeerChat.Proofs.Store.Specification

/-!
Message logs that only grow. Comparing them by their lengths alone loses nothing: of two logs one of which begins with
the other, those of the same length are the same.

* `messages_after_of_grows`: if every log that is taken begins with the one taken before, what is stored is the log
  taken last;
* `grows_of_appendOnly`: so it is, in any order of arrival, if a log that was asked for later begins with every log
  that was asked for earlier;
* `lossless_of_appendOnly`: then the newest log is stored after each call, and a change is told exactly when it is
  longer than the one before.
-/

namespace PeerChat.Store

/-! ### Logs that grow as they are taken -/

/-- Every log that was taken begins with the log taken before it. -/
def Grows : List Call → Prop
  | [] => True
  | c :: past =>
    Grows past ∧ (¬Overtaken past c → ∀ log ∈ c.snapshot.log?, (latest Snapshot.log? past).getD [] <+: log)

section Grows

variable {past : List Call} {c : Call}

lemma Grows.of_suffix {history : List Call} (h : Grows history) (hpast : past <:+ history) : Grows past := by
  obtain ⟨later, rfl⟩ := hpast
  induction later with
  | nil => exact h
  | cons d later ih => exact ih h.1

/-- A log that begins with the stored one is stored, by force or not: of the same length, it is the stored one. -/
lemma pick_of_prefix {keep : Bool} {old new : List α} (h : old <+: new) : pick keep old new = new := by
  by_cases hk : new.length ≠ old.length ∨ keep = true
  · exact pick_of_keeps hk
  · rw [pick_of_not_keeps hk]
    have hlength : old.length = new.length := by
      by_contra hne
      exact hk (Or.inl (Ne.symm hne))
    exact h.eq_of_length hlength

/-- The log taken last is stored. -/
theorem messages_after_of_grows (h : Grows past) : (after past).messages = (latest Snapshot.log? past).getD [] := by
  induction past with
  | nil => rfl
  | cons c past ih =>
    obtain ⟨hpast, hc⟩ := h
    by_cases ho : Overtaken past c
    · rw [after_cons_of_overtaken ho, latest_cons_of_overtaken ho, ih hpast]
    · rw [after_cons_of_not_overtaken ho, latest_cons_of_not_overtaken ho]
      have hold : (after past).messages = (latest Snapshot.log? past).getD [] := ih hpast
      obtain ⟨seq, snapshot, forced⟩ := c
      cases snapshot with
      | messages log =>
        have hbegins : (after past).messages <+: log := by
          rw [hold]
          exact hc ho log rfl
        rw [reconcile_messages]
        exact pick_of_prefix hbegins
      | roster entries =>
        rw [reconcile_roster]
        exact hold
      | transfers queue => exact hold
      | blockList names => exact hold

lemma messages_after_prefix (h : Grows (c :: past)) : (after past).messages <+: (after (c :: past)).messages := by
  rw [messages_after_of_grows h, messages_after_of_grows h.1]
  by_cases ho : Overtaken past c
  · rw [latest_cons_of_overtaken ho]
  · rw [latest_cons_of_not_overtaken ho]
    cases hlog : c.snapshot.log? with
    | none => rw [Option.none_or]
    | some log =>
      rw [Option.some_or]
      exact h.2 ho log hlog

end Grows

/-! ### Logs that grow as they are asked for -/

/-- The peer only appends to its log: each request for it has a number of its own, and the log that answers a later
request begins with the log that answers an earlier one. In which order the answers come is left open. -/
structure AppendOnly (history : List Call) : Prop where
  distinct : history.Pairwise fun c d =>
    c.snapshot.resource = .messages → d.snapshot.resource = .messages → c.seq ≠ d.seq
  begins : ∀ c ∈ history, ∀ d ∈ history, c.seq < d.seq →
    ∀ log ∈ c.snapshot.log?, ∀ log' ∈ d.snapshot.log?, log <+: log'

section AppendOnly

variable {past history : List Call} {c : Call}

lemma AppendOnly.of_suffix (h : AppendOnly history) (hpast : past <:+ history) : AppendOnly past where
  distinct := h.distinct.sublist hpast.sublist
  begins d hd e he := h.begins d (hpast.subset hd) e (hpast.subset he)

lemma mem_of_mem_taken {d : Call} (h : d ∈ taken past) : d ∈ past := by
  induction past with
  | nil => exact h
  | cons c past ih =>
    by_cases ho : Overtaken past c
    · rw [taken_cons_of_overtaken ho] at h
      exact List.mem_cons_of_mem c (ih h)
    · rw [taken_cons_of_not_overtaken ho] at h
      rcases List.mem_cons.1 h with rfl | h
      · exact List.mem_cons_self
      · exact List.mem_cons_of_mem c (ih h)

lemma resource_of_log? {snapshot : Snapshot} {log : List Message} (h : snapshot.log? = some log) :
    snapshot.resource = .messages :=
  (Counted.messages.isSome_shown? snapshot).1 (Option.isSome_iff_exists.2 ⟨log, h⟩)

/-- An answer that is not overtaken is newer than all that came before it, so its log begins with theirs. -/
theorem grows_of_appendOnly (h : AppendOnly past) : Grows past := by
  induction past with
  | nil => trivial
  | cons c past ih =>
    refine ⟨ih (h.of_suffix (List.suffix_cons c past)), fun ho log hlog => ?_⟩
    cases hlatest : latest Snapshot.log? past with
    | none => exact List.nil_prefix
    | some old =>
      obtain ⟨d, hd, hold⟩ := List.exists_of_findSome?_eq_some hlatest
      have hc : c.snapshot.resource = .messages := resource_of_log? hlog
      have hdr : d.snapshot.resource = .messages := resource_of_log? hold
      have hmem : d ∈ past := mem_of_mem_taken hd
      have hle : d.seq ≤ c.seq := Counted.le_of_not_overtaken ho hmem (hdr.trans hc.symm)
      have hne : c.seq ≠ d.seq := (List.pairwise_cons.1 h.distinct).1 d hmem hc hdr
      have hlt : d.seq < c.seq := by omega
      exact h.begins d (List.mem_cons_of_mem c hmem) c List.mem_cons_self hlt old hold log hlog

end AppendOnly

/-! ### Nothing is lost -/

/-- What a call does to the message log, and tells of it. -/
structure Lossless (past : List Call) (c : Call) : Prop where
  /-- What is stored afterwards is the log of the newest answer that has come; without any, nothing is stored. -/
  stored : (∃ newest, Counted.messages.Newest (c :: past) newest ∧
      newest.snapshot.log? = some (after (c :: past)).messages) ∨
    ((∀ d ∈ c :: past, d.snapshot.resource ≠ .messages) ∧ (after (c :: past)).messages = [])
  /-- A message log is told as a change exactly if it made the stored one longer. -/
  changed_iff : c.snapshot.resource = .messages →
    (((after past).call c).2 = .changed ↔ (after past).messages.length < (after (c :: past)).messages.length)
  /-- No call takes a message away, and calls for other resources add none either. -/
  begins : (after past).messages <+: (after (c :: past)).messages
  eq_of_other : c.snapshot.resource ≠ .messages → (after (c :: past)).messages = (after past).messages

lemma stored_newest {past : List Call} (h : Grows past) :
    (∃ newest, Counted.messages.Newest past newest ∧ newest.snapshot.log? = some (after past).messages) ∨
      ((∀ d ∈ past, d.snapshot.resource ≠ .messages) ∧ (after past).messages = []) := by
  rw [messages_after_of_grows h]
  by_cases hany : ∃ d ∈ past, d.snapshot.resource = .messages
  · obtain ⟨d, hd, hr⟩ := hany
    have hview : d.snapshot.resource = Counted.messages.resource := hr
    obtain ⟨newest, hnewest, hlatest⟩ := Counted.exists_newest hd hview
    obtain ⟨log, hlog⟩ := Option.isSome_iff_exists.1 ((Counted.messages.isSome_shown? _).2 hnewest.resource)
    have hlast : latest Snapshot.log? past = some log := hlatest.trans hlog
    refine Or.inl ⟨newest, hnewest, ?_⟩
    rw [hlast]
    exact hlog
  · have hnone : ∀ d ∈ past, d.snapshot.resource ≠ .messages := fun d hd hr => hany ⟨d, hd, hr⟩
    have hlatest : latest Snapshot.log? past = none := by
      refine List.findSome?_eq_none_iff.2 fun d hd => ?_
      by_contra hlog
      obtain ⟨log, hlog⟩ := Option.ne_none_iff_exists'.1 hlog
      exact hnone d (mem_of_mem_taken hd) (resource_of_log? hlog)
    refine Or.inr ⟨hnone, ?_⟩
    rw [hlatest]
    rfl

lemma signal_eq_changed_iff_lt {past : List Call} {c : Call} (h : Grows (c :: past))
    (hc : c.snapshot.resource = .messages) :
    ((after past).call c).2 = .changed ↔ (after past).messages.length < (after (c :: past)).messages.length := by
  rw [signal_eq_changed]
  by_cases ho : Overtaken past c
  · rw [after_cons_of_overtaken ho]
    simp [ho]
  · obtain ⟨log, hlog⟩ := Option.isSome_iff_exists.1 ((Counted.messages.isSome_shown? c.snapshot).2 hc)
    have hsnapshot : c.snapshot = .messages log := by
      cases hs : c.snapshot with
      | messages log' =>
        rw [hs] at hlog
        cases hlog
        rfl
      | roster | transfers | blockList => rw [hs] at hc; exact nomatch hc
    have hstored : (after (c :: past)).messages = log := by
      rw [messages_after_of_grows h, latest_cons_of_not_overtaken ho, hsnapshot]
      rfl
    have hlength : (after past).messages.length ≤ log.length := by
      have hbegins := messages_after_prefix h
      rw [hstored] at hbegins
      exact hbegins.length_le
    rw [hstored, hsnapshot]
    simp only [ho, not_false_eq_true, true_and, Differs]
    omega

/-- **Counting is enough for a log that only grows.** Whatever the order in which the answers come, forced or not, and
whatever answers for other resources come in between: after each call the log of the newest answer is stored, a change
is told exactly when it is longer than the one stored before, and no message is ever taken away. -/
theorem lossless_of_appendOnly {history past : List Call} {c : Call} (h : AppendOnly history)
    (hc : c :: past <:+ history) : Lossless past c where
  stored := stored_newest (grows_of_appendOnly (h.of_suffix hc))
  changed_iff := signal_eq_changed_iff_lt (grows_of_appendOnly (h.of_suffix hc))
  begins := messages_after_prefix (grows_of_appendOnly (h.of_suffix hc))
  eq_of_other := by
    intro hr
    have hgrows := grows_of_appendOnly (h.of_suffix hc)
    have hnone : c.snapshot.log? = none := by
      by_contra hlog
      obtain ⟨log, hlog⟩ := Option.ne_none_iff_exists'.1 hlog
      exact hr (resource_of_log? hlog)
    rw [messages_after_of_grows hgrows, messages_after_of_grows hgrows.1, latest_cons_of_eq_none hnone]

/-- Three answers come in the wrong order, with a roster in between; the last one was overtaken. -/
theorem lossless_of_overtaken_answer :
    ∃ (history past : List Call) (c : Call), history.map (·.seq) = [2, 3, 9, 1] ∧ Overtaken past c ∧
      AppendOnly history ∧ c :: past <:+ history ∧ Lossless past c := by
  let noon : Calendar.Timestamp := ⟨⟨2025, 3, 1, by decide, by decide, by decide⟩, 12, 0, 0, 0, by decide, by decide,
    by decide, by decide⟩
  let said (text : String) : Message := ⟨"bob", none, .text text, noon, false⟩
  let past : List Call := [⟨3, .messages [said "a", said "b", said "c"], false⟩, ⟨9, .roster ["bob"], false⟩,
    ⟨1, .messages [said "a"], false⟩]
  let c : Call := ⟨2, .messages [said "a", said "b"], true⟩
  have happend : AppendOnly (c :: past) := ⟨by decide, by decide⟩
  exact ⟨c :: past, past, c, by decide, by decide, happend, List.suffix_refl _,
    lossless_of_appendOnly happend (List.suffix_refl _)⟩

end PeerChat.Store
