import Mathlib.Tactic.ByContra
import PeerChat.Proofs.Store.Counted

/-!
Forced refreshes of the message log and of the roster, under answers that come in any order.

* `forced_honoured_or_outrun`: once a forced answer has come, what is stored was shown by it or by an answer to a later
  request, unless it was overtaken and no answer from it on was kept;
* `forced_can_be_lost`: that exception does occur: an answer that is not forced and has the stored length overtakes a
  forced one without being kept itself.
-/

namespace PeerChat.Store

namespace Counted

variable (view : Counted α)

/-! ### The calls that were kept -/

variable {view} {past : List Call} {c d : Call}

lemma Keeps.shown (h : view.Keeps past c) : (view.shown? c.snapshot).isSome = true := by
  obtain ⟨-, elements, he, -⟩ := h
  exact Option.isSome_iff_exists.2 ⟨elements, he⟩

lemma mem_kept_cons : d ∈ view.kept (c :: past) ↔ (view.Keeps past c ∧ d = c) ∨ d ∈ view.kept past := by
  by_cases h : view.Keeps past c
  · rw [kept_cons_of_keeps h, List.mem_cons, and_iff_right h]
  · rw [kept_cons_of_not_keeps h]
    simp [h]

lemma mem_of_mem_kept (h : d ∈ view.kept past) : d ∈ past ∧ (view.shown? d.snapshot).isSome = true := by
  induction past with
  | nil => exact absurd h List.not_mem_nil
  | cons c past ih =>
    rcases mem_kept_cons.1 h with ⟨hk, rfl⟩ | h
    · exact ⟨List.mem_cons_self, hk.shown⟩
    · exact ⟨List.mem_cons_of_mem _ (ih h).1, (ih h).2⟩

lemma mem_kept_append (later : List Call) (h : d ∈ view.kept past) : d ∈ view.kept (later ++ past) := by
  induction later with
  | nil => exact h
  | cons c later ih => exact mem_kept_cons.2 (Or.inr ih)

lemma le_of_not_overtaken (h : ¬Overtaken past c) (hd : d ∈ past)
    (hr : d.snapshot.resource = c.snapshot.resource) : d.seq ≤ c.seq :=
  Nat.not_lt.1 fun hlt => h ⟨d, hd, hr, hlt⟩

variable (view) in
lemma kept_pairwise (past : List Call) : (view.kept past).Pairwise fun c d => d.seq ≤ c.seq := by
  induction past with
  | nil => exact List.Pairwise.nil
  | cons c past ih =>
    by_cases h : view.Keeps past c
    · rw [kept_cons_of_keeps h]
      refine List.pairwise_cons.2 ⟨fun d hd => ?_, ih⟩
      obtain ⟨hmem, hshown⟩ := mem_of_mem_kept hd
      have hr : d.snapshot.resource = c.snapshot.resource :=
        ((view.isSome_shown? _).1 hshown).trans ((view.isSome_shown? _).1 h.shown).symm
      exact le_of_not_overtaken h.not_overtaken hmem hr
    · rwa [kept_cons_of_not_keeps h]

/-! ### The newest answer -/

variable (view) in
/-- No answer that came for the resource has a higher number than `newest`. -/
structure Newest (past : List Call) (newest : Call) : Prop where
  mem : newest ∈ past
  resource : newest.snapshot.resource = view.resource
  le : ∀ d ∈ past, d.snapshot.resource = view.resource → d.seq ≤ newest.seq

lemma Newest.cons {newest : Call} (h : view.Newest past newest)
    (hc : c.snapshot.resource = view.resource → c.seq ≤ newest.seq) : view.Newest (c :: past) newest where
  mem := List.mem_cons_of_mem _ h.mem
  resource := h.resource
  le d hd hr := by
    rcases List.mem_cons.1 hd with rfl | hd
    · exact hc hr
    · exact h.le d hd hr

lemma exists_newest (hd : d ∈ past) (hr : d.snapshot.resource = view.resource) :
    ∃ newest, view.Newest past newest ∧ latest view.shown? past = view.shown? newest.snapshot := by
  induction past generalizing d with
  | nil => exact absurd hd List.not_mem_nil
  | cons c past ih =>
    by_cases hc : c.snapshot.resource = view.resource
    · by_cases ho : Overtaken past c
      · obtain ⟨e, he, hre, hlt⟩ := id ho
        obtain ⟨newest, hnewest, hlatest⟩ := ih he (hre.trans hc)
        have hle := hnewest.le e he (hre.trans hc)
        refine ⟨newest, hnewest.cons fun _ => by omega, ?_⟩
        rw [latest_cons_of_overtaken ho, hlatest]
      · obtain ⟨elements, he⟩ := Option.isSome_iff_exists.1 ((view.isSome_shown? _).2 hc)
        refine ⟨c, ⟨List.mem_cons_self, hc, fun e hmem hre => ?_⟩, ?_⟩
        · rcases List.mem_cons.1 hmem with rfl | hmem
          · exact Nat.le_refl _
          · exact le_of_not_overtaken ho hmem (hre.trans hc.symm)
        · rw [latest_cons_of_not_overtaken ho, he, Option.some_or]
    · have hd' : d ∈ past := (List.mem_cons.1 hd).resolve_left fun h => hc (h ▸ hr)
      have hnone : view.shown? c.snapshot = none :=
        Option.not_isSome_iff_eq_none.1 fun h => hc ((view.isSome_shown? _).1 h)
      obtain ⟨newest, hnewest, hlatest⟩ := ih hd' hr
      refine ⟨newest, hnewest.cons fun h => absurd h hc, ?_⟩
      rw [latest_cons_of_eq_none hnone, hlatest]

/-! ### Forced answers -/

variable (view) in
/-- What is stored was shown by an answer to the request numbered `seq` or to a later one. -/
def Honoured (past : List Call) (seq : Nat) : Prop :=
  ∃ d ∈ past, seq ≤ d.seq ∧ view.shown? d.snapshot = some (view.stored (after past))

variable (view) in
/-- No answer from the request numbered `seq` on was kept, although the newest one has the length that is stored. -/
def Outrun (past : List Call) (seq : Nat) : Prop :=
  (∀ d ∈ view.kept past, d.seq < seq) ∧
    ∃ newest, view.Newest past newest ∧
      ∃ elements ∈ view.shown? newest.snapshot, elements.length = (view.stored (after past)).length

/-- A call that was kept vouches for what is stored. -/
lemma honoured_of_mem_kept (h : d ∈ view.kept past) : view.Honoured past d.seq := by
  have hstored := view.stored_after past
  have hsorted := view.kept_pairwise past
  match hk : view.kept past with
  | [] => rw [hk] at h; exact absurd h List.not_mem_nil
  | e :: rest =>
    rw [hk] at h hstored hsorted
    have hle : d.seq ≤ e.seq := by
      rcases List.mem_cons.1 h with rfl | h
      · exact Nat.le_refl _
      · exact (List.pairwise_cons.1 hsorted).1 d h
    have he : e ∈ view.kept past := hk ▸ List.mem_cons_self
    obtain ⟨hmem, hshown⟩ := mem_of_mem_kept he
    obtain ⟨elements, he⟩ := Option.isSome_iff_exists.1 hshown
    refine ⟨e, hmem, hle, ?_⟩
    rw [hstored, List.head?_cons, Option.bind_some, he]
    rfl

lemma outrun_of_forall_kept_lt {seq : Nat} (hkept : ∀ d ∈ view.kept past, d.seq < seq) (hc : c ∈ past)
    (hr : c.snapshot.resource = view.resource) : view.Outrun past seq := by
  obtain ⟨newest, hnewest, hlatest⟩ := exists_newest hc hr
  obtain ⟨elements, he⟩ := Option.isSome_iff_exists.1 ((view.isSome_shown? _).2 hnewest.resource)
  refine ⟨hkept, newest, hnewest, elements, he, ?_⟩
  rw [length_stored_after, hlatest, he]
  rfl

/-- A forced answer is honoured unless it was overtaken and outrun. -/
theorem honoured_or_outrun (later earlier : List Call) (hforced : c.forced = true)
    (hshown : (view.shown? c.snapshot).isSome = true) :
    view.Honoured (later ++ c :: earlier) c.seq ∨
      (Overtaken earlier c ∧ view.Outrun (later ++ c :: earlier) c.seq) := by
  by_cases h : ∃ d ∈ view.kept (later ++ c :: earlier), c.seq ≤ d.seq
  · obtain ⟨d, hd, hle⟩ := h
    obtain ⟨e, he, hde, hstored⟩ := honoured_of_mem_kept hd
    exact Or.inl ⟨e, he, Nat.le_trans hle hde, hstored⟩
  · have hlt : ∀ d ∈ view.kept (later ++ c :: earlier), d.seq < c.seq := fun d hd =>
      Nat.not_le.1 fun hle => h ⟨d, hd, hle⟩
    refine Or.inr ⟨?_, outrun_of_forall_kept_lt hlt (by simp) ((view.isSome_shown? _).1 hshown)⟩
    by_contra ho
    obtain ⟨elements, he⟩ := Option.isSome_iff_exists.1 hshown
    have hk : view.Keeps earlier c := ⟨ho, elements, he, Or.inr hforced⟩
    have hmem : c ∈ view.kept (later ++ c :: earlier) :=
      mem_kept_append later (mem_kept_cons.2 (Or.inl ⟨hk, rfl⟩))
    exact Nat.lt_irrefl _ (hlt c hmem)

end Counted

/-- **A forced refresh is honoured or outrun.** Once an answer asked for by force has come, applied or dropped, what is
stored was shown by it or by an answer to a later request; or else it was overtaken when it came, and no answer from it
on was kept, while what is stored still has the length of the newest one. So it is for the message log and for the
roster. -/
theorem forced_honoured_or_outrun (later earlier : List Call) (seq : Nat) :
    (∀ log : List Message,
      let c : Call := ⟨seq, .messages log, true⟩
      Counted.messages.Honoured (later ++ c :: earlier) seq ∨
        (Overtaken earlier c ∧ Counted.messages.Outrun (later ++ c :: earlier) seq)) ∧
    ∀ entries : List String,
      let c : Call := ⟨seq, .roster entries, true⟩
      Counted.roster.Honoured (later ++ c :: earlier) seq ∨
        (Overtaken earlier c ∧ Counted.roster.Outrun (later ++ c :: earlier) seq) :=
  ⟨fun log => Counted.honoured_or_outrun (c := ⟨seq, .messages log, true⟩) later earlier rfl rfl,
    fun entries => Counted.honoured_or_outrun (c := ⟨seq, .roster entries, true⟩) later earlier rfl rfl⟩

/-- A forced answer can be lost: a poll of the length that is stored overtakes it, and is not kept itself. -/
theorem forced_can_be_lost :
    ¬∀ (past : List Call) (c : Call), (past.map (·.seq)).Nodup → c ∈ past → c.forced = true →
      c.snapshot.resource = .messages → Counted.messages.Honoured past c.seq := by
  intro h
  let noon : Calendar.Timestamp := ⟨⟨2025, 3, 1, by decide, by decide, by decide⟩, 12, 0, 0, 0, by decide, by decide,
    by decide, by decide⟩
  let log (text : String) : Snapshot := .messages [⟨"bob", none, .text text, noon, false⟩]
  -- the third request was answered before the second one
  let past : List Call := [⟨2, log "C", true⟩, ⟨3, log "B", false⟩, ⟨1, log "A", true⟩]
  have hlost : ¬Counted.messages.Honoured past 2 := by
    unfold Counted.Honoured
    decide
  exact hlost (h past ⟨2, log "C", true⟩ (by decide) List.mem_cons_self rfl rfl)

end PeerChat.Store
