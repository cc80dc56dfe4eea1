import Mathlib.Tactic.Lemma
import PeerChat.Json.Reader
import PeerChat.Proofs.Json.Record

/-!
Texts that are read to their end. Where a text goes on behind a value, the value did not break off; so a text is decoded
exactly if it is JSON and its value is of the wanted kind.

* `readsWhole`, `isWhole_of_ofText?`: a value with something behind it is whole, and so is all that it holds;
* `decode_eq_ok_iff`: what a text is decoded as;
* `decodeBytes_toUTF8`: the bytes of a text are decoded as the text is.
-/

namespace PeerChat.Json

variable {cs rest : List Char} {fuel : Nat} {j : Json} {α : Type} {kind : Json → Except JsonFault α} {a : α}

/-! ### Values that did not break off -/

lemma entriesAreWhole_iff {entries : List (Option String × Json)} :
    entriesAreWhole entries = true ↔ ∀ e ∈ entries, e.2.isWhole = true := by
  induction entries with
  | nil => simp [entriesAreWhole]
  | cons e entries ih => simp [entriesAreWhole, ih]

/-- What is read is whole if the text goes on behind it. -/
structure ReadsWhole (fuel : Nat) : Prop where
  value {cs rest : List Char} {j : Json} : readValue fuel cs = (j, some rest) → j.isWhole = true
  items {cs rest : List Char} {items : List Json} : readItems fuel cs = (items, some rest) → areWhole items = true
  entries {cs rest : List Char} {entries : List (Option String × Json)} :
    readEntries fuel cs = (entries, some rest) → entriesAreWhole entries = true

lemma ReadsWhole.value_succ (h : ReadsWhole fuel) (hread : readValue (fuel + 1) cs = (j, some rest)) :
    j.isWhole = true := by
  rw [readValue] at hread
  split at hread
  · cases hread; rfl
  · cases hread; rfl
  · cases hread; rfl
  · split at hread <;> cases hread
    rfl
  · split at hread
    · cases hread; rfl
    · obtain ⟨rfl, hrest⟩ := Prod.mk.inj hread
      exact h.items (Prod.ext rfl hrest)
  · split at hread
    · cases hread; rfl
    · obtain ⟨rfl, hrest⟩ := Prod.mk.inj hread
      exact h.entries (Prod.ext rfl hrest)
  · split at hread <;> cases hread
    rfl

lemma ReadsWhole.items_succ (h : ReadsWhole fuel) {items : List Json}
    (hread : readItems (fuel + 1) cs = (items, some rest)) : areWhole items = true := by
  rw [readItems] at hread
  split at hread
  · exact nomatch hread
  · next hitem =>
    have hwhole := h.value hitem
    split at hread
    · obtain ⟨rfl, -⟩ := Prod.mk.inj hread
      simp [areWhole, hwhole]
    · obtain ⟨rfl, hrest⟩ := Prod.mk.inj hread
      have hitems := h.items (Prod.ext rfl hrest)
      simp [areWhole, hwhole, hitems]
    · exact nomatch hread

lemma ReadsWhole.entries_succ (h : ReadsWhole fuel) {entries : List (Option String × Json)}
    (hread : readEntries (fuel + 1) cs = (entries, some rest)) : entriesAreWhole entries = true := by
  rw [readEntries] at hread
  split at hread
  · split at hread
    · exact nomatch hread
    · split at hread
      · split at hread
        · exact nomatch hread
        · next hvalue =>
          have hwhole := h.value hvalue
          split at hread
          · obtain ⟨rfl, -⟩ := Prod.mk.inj hread
            simp [entriesAreWhole, hwhole]
          · obtain ⟨rfl, hrest⟩ := Prod.mk.inj hread
            have hentries := h.entries (Prod.ext rfl hrest)
            simp [entriesAreWhole, hwhole, hentries]
          · exact nomatch hread
      · exact nomatch hread
  · exact nomatch hread

lemma readsWhole (fuel : Nat) : ReadsWhole fuel := by
  induction fuel with
  | zero => exact ⟨nofun, nofun, nofun⟩
  | succ fuel ih => exact ⟨ih.value_succ, ih.items_succ, ih.entries_succ⟩

/-! ### Decoding -/

/-- What a whole text writes did not break off. -/
theorem isWhole_of_ofText? {s : String} (h : ofText? s = some j) : j.isWhole = true := by
  unfold ofText? read at h
  split at h
  · next value rest hread =>
    split_ifs at h
    obtain rfl := Option.some.inj h
    exact (readsWhole _).value hread
  · exact nomatch h

/-- A text is decoded exactly if it is JSON and its value is of the wanted kind. -/
theorem decode_eq_ok_iff {s : String} :
    decode kind s.toList = .ok a ↔ ∃ j, ofText? s = some j ∧ kind j = .ok a := by
  unfold decode ofText?
  obtain ⟨value, rest⟩ := read s.toList
  dsimp only
  rw [bind_eq_ok_iff]
  cases rest with
  | none => exact iff_of_false (fun ⟨_, _, h⟩ => nomatch h) (fun ⟨_, h, _⟩ => nomatch h)
  | some rest =>
    cases hend : (skipGaps rest).isEmpty with
    | false => simp [hend]
    | true => simp [hend, pure, Except.pure]

/-- The bytes of a text are decoded as the text is. -/
theorem decodeBytes_toUTF8 (kind : Json → Except JsonFault α) (s : String) :
    decodeBytes kind s.toUTF8 = decode kind s.toList := by
  have hread : String.fromUTF8? s.toUTF8 = some s := dif_pos s.isValidUTF8
  unfold decodeBytes charsOf
  rw [hread]

end PeerChat.Json
