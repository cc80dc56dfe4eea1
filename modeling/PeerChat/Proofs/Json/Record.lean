import Mathlib.Data.List.Forall2
import Mathlib.Data.List.Induction
import Mathlib.Data.List.Nodup
import PeerChat.Json.Basic

/-!
Records, as they are read: an object in which each key that is known comes once at most, or an array that lists the
values in the order of the fields.

* `fill_eq_ok_iff`, `foldlM_fill_eq_ok_iff`: what one entry fills, and what all entries of an object fill;
* `settle_eq_ok_iff`, `settleItems_eq_ok_iff`: which values the fields end up with;
* `asRecord_eq_ok_iff`: which values are records, and what their fields are;
* `asRecord_record`: what is written with the keys of the fields is read as the values that were written;
* `asRecord_unknown`, `asRecord_default`, `asRecord_array`: in which other forms a record may be written.
-/

namespace PeerChat

lemma bind_eq_ok_iff {ε α β : Type} {x : Except ε α} {f : α → Except ε β} {b : β} :
    x >>= f = .ok b ↔ ∃ a, x = .ok a ∧ f a = .ok b := by
  cases x with
  | ok a => exact ⟨fun h => ⟨a, rfl, h⟩, fun ⟨_, ha, h⟩ => Except.ok.inj ha ▸ h⟩
  | error e => exact iff_of_false nofun fun ⟨_, ha, _⟩ => nomatch ha

lemma discard_eq_ok_iff {ε α : Type} {x : Except ε α} : discard x = .ok () ↔ ∃ a, x = .ok a := by
  cases x with
  | ok a => exact iff_of_true rfl ⟨a, rfl⟩
  | error e => exact iff_of_false nofun nofun

namespace Json

lemma asWord_nat (n : UInt64) : asWord (nat n.toNat) = .ok n := by
  have hsize : n.toNat < UInt64.size := n.toNat_lt
  simp [nat, asWord, Numeral.ofNat, Numeral.isNatural, hsize]

variable {fields : List Field} {entries : List (Option String × Json)} {items values : List Json} {j value : Json}

/-! ### What is given for a field -/

/-- The values under a key. -/
def valuesUnder (key : String) (entries : List (Option String × Json)) : List Json :=
  (entries.filter (·.1 = some key)).map (·.2)

/-- What a value gives for a field: the values under its key, or the item in its place. -/
def given (key : String) (place : Nat) : Json → List Json
  | object entries => valuesUnder key entries
  | array items => items[place]?.toList
  | _ => []

/-- A field has a value: the only one that is given for it, if the field can have it, or the default without one. -/
inductive Field.Settles (field : Field) : List Json → Json → Prop
  | one {value : Json} : field.check value = .ok () → Settles field [value] value
  | default {value : Json} : field.default = some value → Settles field [] value

/-- A record: an object whose keys can be read, or an array with no more items than there are fields. What an object has
under other keys only has to be JSON. -/
inductive IsRecord (fields : List Field) : Json → Prop
  | object {entries : List (Option String × Json)} (readable : ∀ e ∈ entries, e.1.isSome = true)
      (whole : ∀ e ∈ entries, (∀ field ∈ fields, e.1 ≠ some field.key) → e.2.isWhole = true) :
      IsRecord fields (object entries)
  | array {items : List Json} : items.length ≤ fields.length → IsRecord fields (array items)

lemma valuesUnder_cons (key : String) (e : Option String × Json) (entries : List (Option String × Json)) :
    valuesUnder key (e :: entries) =
      if e.1 = some key then e.2 :: valuesUnder key entries else valuesUnder key entries := by
  unfold valuesUnder
  by_cases hkey : e.1 = some key <;> simp [hkey]

lemma valuesUnder_concat (key : String) (e : Option String × Json) (entries : List (Option String × Json)) :
    valuesUnder key (entries ++ [e]) = valuesUnder key entries ++ if e.1 = some key then [e.2] else [] := by
  unfold valuesUnder
  by_cases hkey : e.1 = some key <;> simp [hkey]

lemma valuesUnder_of_forall {key : String} (h : ∀ e ∈ entries, e.1 ≠ some key) : valuesUnder key entries = [] := by
  unfold valuesUnder
  rw [List.filter_eq_nil_iff.2 (by simpa using h), List.map_nil]

/-! ### Objects -/

lemma fill_of_ne {field : Field} {key : Option String} (hkey : key ≠ some field.key) (slot : Option Json)
    (slots : Slots) :
    fill (field :: fields) (slot :: slots) key value =
      fill fields slots key value >>= fun slots => .ok (slot :: slots) := by
  cases slot <;> simp only [fill, if_neg hkey] <;> rfl

lemma fill_of_eq {field : Field} {key : Option String} (hkey : key = some field.key) (slot : Option Json)
    (slots : Slots) :
    fill (field :: fields) (slot :: slots) key value =
      if slot = none then field.check value >>= fun _ => .ok (some value :: slots) else .error .mismatched := by
  cases slot <;> simp only [fill, if_pos hkey] <;> rfl

/-- One entry can be put into the places of the fields, of which some are filled. -/
structure Fits (fields : List Field) (slot : Field → Option Json) (key : Option String) (value : Json) : Prop where
  known (field : Field) : field ∈ fields → key = some field.key → slot field = none ∧ field.check value = .ok ()
  unknown : (∀ field ∈ fields, key ≠ some field.key) → key.isSome = true ∧ value.isWhole = true

lemma fits_cons_of_eq {field : Field} {slot : Field → Option Json} {key : Option String} (hkey : key = some field.key)
    (hothers : ∀ other ∈ fields, key ≠ some other.key) :
    Fits (field :: fields) slot key value ↔ slot field = none ∧ field.check value = .ok () := by
  constructor
  · exact fun h => h.known field (List.mem_cons_self ..) hkey
  · refine fun h => ⟨fun other hother heq => ?_, fun hall => absurd hkey (hall field (List.mem_cons_self ..))⟩
    rcases List.mem_cons.1 hother with rfl | hother
    · exact h
    · exact absurd heq (hothers other hother)

lemma fits_cons_of_ne {field : Field} {slot : Field → Option Json} {key : Option String} (hkey : key ≠ some field.key) :
    Fits (field :: fields) slot key value ↔ Fits fields slot key value := by
  constructor
  · exact fun h => ⟨fun other hother => h.known other (List.mem_cons_of_mem _ hother),
      fun hall => h.unknown (List.forall_mem_cons.2 ⟨hkey, hall⟩)⟩
  · refine fun h => ⟨fun other hother heq => ?_, fun hall => h.unknown (List.forall_mem_cons.1 hall).2⟩
    rcases List.mem_cons.1 hother with rfl | hother
    · exact absurd heq hkey
    · exact h.known other hother heq

/-- One entry goes to the field with its key; a key that is not known changes nothing. -/
lemma fill_eq_ok_iff (hkeys : (fields.map (·.key)).Nodup) {slot : Field → Option Json} {key : Option String}
    {slots : Slots} : fill fields (fields.map slot) key value = .ok slots ↔
      Fits fields slot key value ∧
        slots = fields.map fun field => if key = some field.key then some value else slot field := by
  induction fields generalizing slots with
  | nil =>
    have hfits : Fits [] slot key value ↔ key.isSome = true ∧ value.isWhole = true :=
      ⟨fun h => h.unknown nofun, fun h => ⟨nofun, fun _ => h⟩⟩
    have hfill : fill [] [] key value = if key.isSome && value.isWhole then .ok [] else .error .malformed := by
      unfold fill
      rfl
    rw [hfits, List.map_nil, List.map_nil, hfill, ← Bool.and_eq_true]
    cases hvalue : key.isSome && value.isWhole <;> simp [eq_comm]
  | cons field fields ih =>
    obtain ⟨hfresh, hkeys⟩ := List.nodup_cons.1 hkeys
    rw [List.map_cons]
    by_cases hkey : key = some field.key
    · have hothers : ∀ other ∈ fields, key ≠ some other.key := by
        intro other hother heq
        have hsame : other.key = field.key := Option.some.inj (heq.symm.trans hkey)
        exact hfresh (List.mem_map.2 ⟨other, hother, hsame⟩)
      have hmap : (fields.map fun other => if key = some other.key then some value else slot other) = fields.map slot :=
        List.map_congr_left fun other hother => if_neg (hothers other hother)
      rw [fill_of_eq hkey, fits_cons_of_eq hkey hothers, List.map_cons, hmap, if_pos hkey]
      by_cases hslot : slot field = none
      · rw [if_pos hslot, bind_eq_ok_iff]
        constructor
        · rintro ⟨_, hcheck, hslots⟩
          exact ⟨⟨hslot, hcheck⟩, (Except.ok.inj hslots).symm⟩
        · rintro ⟨⟨-, hcheck⟩, rfl⟩
          exact ⟨(), hcheck, rfl⟩
      · simp [hslot]
    · rw [fill_of_ne hkey, bind_eq_ok_iff, fits_cons_of_ne hkey, List.map_cons, if_neg hkey]
      simp only [ih hkeys, Except.ok.injEq]
      constructor
      · rintro ⟨rest, ⟨hrest, rfl⟩, rfl⟩
        exact ⟨hrest, rfl⟩
      · rintro ⟨hrest, rfl⟩
        exact ⟨_, ⟨hrest, rfl⟩, rfl⟩

/-- The entries of an object can be put into the places of the fields. -/
structure Filled (fields : List Field) (entries : List (Option String × Json)) : Prop where
  readable (e : Option String × Json) : e ∈ entries → e.1.isSome = true
  whole (e : Option String × Json) : e ∈ entries → (∀ field ∈ fields, e.1 ≠ some field.key) → e.2.isWhole = true
  known (field : Field) : field ∈ fields →
    valuesUnder field.key entries = [] ∨ ∃ value, valuesUnder field.key entries = [value] ∧ field.check value = .ok ()

lemma filled_concat (e : Option String × Json) : Filled fields (entries ++ [e]) ↔
    Filled fields entries ∧ Fits fields (fun field => (valuesUnder field.key entries).head?) e.1 e.2 := by
  constructor
  · intro h
    refine ⟨⟨fun e he => h.readable e (by simp [he]), fun e he => h.whole e (by simp [he]), fun field hfield => ?_⟩,
      ⟨fun field hfield hkey => ?_, fun hall => ⟨h.readable e (by simp), h.whole e (by simp) hall⟩⟩⟩
    · rcases h.known field hfield with hnil | ⟨value, hone, hcheck⟩
      · rw [valuesUnder_concat, List.append_eq_nil_iff] at hnil
        exact Or.inl hnil.1
      · rw [valuesUnder_concat, List.append_eq_singleton_iff] at hone
        rcases hone with ⟨hnil, -⟩ | ⟨hone, -⟩
        · exact Or.inl hnil
        · exact Or.inr ⟨value, hone, hcheck⟩
    · have hvalues := h.known field hfield
      rw [valuesUnder_concat, if_pos hkey] at hvalues
      rcases hvalues with hnil | ⟨value, hone, hcheck⟩
      · simp at hnil
      · rw [List.append_eq_singleton_iff] at hone
        rcases hone with ⟨hnil, hvalue⟩ | ⟨-, hnil⟩
        · obtain rfl : e.2 = value := List.singleton_inj.1 hvalue
          exact ⟨by rw [hnil, List.head?_nil], hcheck⟩
        · exact nomatch hnil
  · rintro ⟨h, hfits⟩
    refine ⟨fun e' he' => ?_, fun e' he' hall => ?_, fun field hfield => ?_⟩
    · rcases List.mem_append.1 he' with he' | he'
      · exact h.readable e' he'
      · rw [List.mem_singleton.1 he']
        by_cases hall : ∀ field ∈ fields, e.1 ≠ some field.key
        · exact (hfits.unknown hall).1
        · push Not at hall
          obtain ⟨field, -, hkey⟩ := hall
          rw [hkey]
          rfl
    · rcases List.mem_append.1 he' with he' | he'
      · exact h.whole e' he' hall
      · obtain rfl := List.mem_singleton.1 he'
        exact (hfits.unknown hall).2
    · rw [valuesUnder_concat]
      by_cases hkey : e.1 = some field.key
      · obtain ⟨hnone, hcheck⟩ := hfits.known field hfield hkey
        rw [if_pos hkey, List.head?_eq_none_iff.1 hnone]
        exact Or.inr ⟨e.2, rfl, hcheck⟩
      · rw [if_neg hkey, List.append_nil]
        exact h.known field hfield

lemma map_head?_valuesUnder_concat {e : Option String × Json}
    (hfits : Fits fields (fun field => (valuesUnder field.key entries).head?) e.1 e.2) :
    (fields.map fun field => (valuesUnder field.key (entries ++ [e])).head?) =
      fields.map fun field => if e.1 = some field.key then some e.2 else (valuesUnder field.key entries).head? := by
  refine List.map_congr_left fun field hfield => ?_
  rw [valuesUnder_concat, List.head?_append]
  by_cases hkey : e.1 = some field.key
  · simp [hkey, (hfits.known field hfield hkey).1]
  · simp [hkey]

/-- What all entries of an object fill: each place of a field the first value that is given for it. -/
lemma foldlM_fill_eq_ok_iff (hkeys : (fields.map (·.key)).Nodup) {slots : Slots} :
    entries.foldlM (fun slots (e : Option String × Json) => fill fields slots e.1 e.2) (fields.map fun _ => none) =
        .ok slots ↔
      Filled fields entries ∧ slots = fields.map fun field => (valuesUnder field.key entries).head? := by
  induction entries using List.reverseRecOn generalizing slots with
  | nil =>
    have hfilled : Filled fields [] := ⟨nofun, nofun, fun _ _ => Or.inl rfl⟩
    rw [List.foldlM_nil]
    exact ⟨fun h => ⟨hfilled, (Except.ok.inj h).symm⟩, fun h => congrArg Except.ok h.2.symm⟩
  | append_singleton entries e ih =>
    rw [List.foldlM_append, bind_eq_ok_iff, filled_concat]
    simp only [List.foldlM_cons, List.foldlM_nil, bind_pure]
    constructor
    · rintro ⟨before, hbefore, hlast⟩
      obtain ⟨hfilled, rfl⟩ := ih.1 hbefore
      obtain ⟨hfits, rfl⟩ := (fill_eq_ok_iff hkeys).1 hlast
      exact ⟨⟨hfilled, hfits⟩, (map_head?_valuesUnder_concat hfits).symm⟩
    · rintro ⟨⟨hfilled, hfits⟩, rfl⟩
      exact ⟨_, ih.2 ⟨hfilled, rfl⟩, (fill_eq_ok_iff hkeys).2 ⟨hfits, map_head?_valuesUnder_concat hfits⟩⟩

lemma settle_eq_ok_iff {slot : Field → Option Json} : settle fields (fields.map slot) = .ok values ↔
    List.Forall₂ (fun field value => (slot field).or field.default = some value) fields values := by
  induction fields generalizing values with
  | nil =>
    rw [List.forall₂_nil_left_iff]
    exact ⟨fun h => (Except.ok.inj h).symm, fun h => congrArg Except.ok h.symm⟩
  | cons field fields ih =>
    rw [List.forall₂_cons_left_iff, settle, List.map_cons]
    cases hvalue : (slot field).or field.default with
    | none => simp [hvalue]
    | some value =>
      simp only [List.head?_cons, Option.join_some, hvalue, List.tail_cons, bind_eq_ok_iff, ih]
      constructor
      · rintro ⟨rest, hrest, hvalues⟩
        exact ⟨value, rest, rfl, hrest, (Except.ok.inj hvalues).symm⟩
      · rintro ⟨_, rest, hsame, hrest, rfl⟩
        exact ⟨rest, hrest, by rw [Option.some.inj hsame]; rfl⟩

/-! ### Arrays -/

lemma settles_nil_iff {field : Field} : field.Settles [] value ↔ field.default = some value :=
  ⟨fun h => by cases h; assumption, .default⟩

lemma settles_singleton_iff {field : Field} {item : Json} :
    field.Settles [item] value ↔ field.check item = .ok () ∧ item = value :=
  ⟨fun h => by cases h; exact ⟨‹_›, rfl⟩, fun ⟨h, heq⟩ => heq ▸ .one h⟩

/-- The items of an array go to the fields in turn; the fields that are left take their defaults. -/
lemma settleItems_eq_ok_iff : settleItems fields items = .ok values ↔ items.length ≤ fields.length ∧
    List.Forall₂ (fun (field : Field × Nat) value => field.1.Settles items[field.2]?.toList value) fields.zipIdx
      values := by
  induction fields generalizing items values with
  | nil => cases items <;> simp [settleItems, eq_comm]
  | cons field fields ih =>
    rw [List.zipIdx_cons, List.zipIdx_succ, List.forall₂_cons_left_iff]
    simp only [List.forall₂_map_left_iff]
    cases items with
    | nil =>
      have hrest {values : List Json} : settleItems fields [] = .ok values ↔
          List.Forall₂ (fun (field : Field × Nat) value => field.1.default = some value) fields.zipIdx values := by
        rw [ih]
        simp [settles_nil_iff]
      simp only [List.getElem?_nil, Option.toList_none, settles_nil_iff, List.length_nil, Nat.zero_le, true_and]
      rw [settleItems]
      cases field.default with
      | none => simp
      | some value =>
        simp only [bind_eq_ok_iff, hrest]
        constructor
        · rintro ⟨rest, hrest, hvalues⟩
          exact ⟨value, rest, rfl, hrest, (Except.ok.inj hvalues).symm⟩
        · rintro ⟨_, rest, hsame, hrest, rfl⟩
          exact ⟨rest, hrest, by rw [Option.some.inj hsame]; rfl⟩
    | cons item items =>
      simp only [settleItems, bind_eq_ok_iff, ih, List.length_cons, Nat.add_le_add_iff_right,
        List.getElem?_cons_zero, List.getElem?_cons_succ, Option.toList_some, settles_singleton_iff]
      constructor
      · rintro ⟨_, hcheck, rest, ⟨hlength, hrest⟩, hvalues⟩
        exact ⟨hlength, item, rest, ⟨hcheck, rfl⟩, hrest, (Except.ok.inj hvalues).symm⟩
      · rintro ⟨hlength, _, rest, ⟨hcheck, rfl⟩, hrest, rfl⟩
        exact ⟨(), hcheck, rest, ⟨hlength, hrest⟩, rfl⟩

/-! ### Records -/

lemma filled_iff : Filled fields entries ↔ IsRecord fields (object entries) ∧ ∀ field ∈ fields,
    valuesUnder field.key entries = [] ∨
      ∃ value, valuesUnder field.key entries = [value] ∧ field.check value = .ok () :=
  ⟨fun h => ⟨.object h.readable h.whole, h.known⟩, fun ⟨.object readable whole, known⟩ => ⟨readable, whole, known⟩⟩

lemma settles_iff {field : Field} : field.Settles values value ↔
    (values = [] ∨ ∃ value, values = [value] ∧ field.check value = .ok ()) ∧
      values.head?.or field.default = some value := by
  cases values with
  | nil => simp [settles_nil_iff]
  | cons first rest =>
    cases rest with
    | nil => simp [settles_singleton_iff]
    | cons second rest => exact iff_of_false nofun (by simp)

/-- The values that the fields end up with. -/
def SettlesAll (fields : List Field) (j : Json) (values : List Json) : Prop :=
  List.Forall₂ (fun (field : Field × Nat) value => field.1.Settles (j.given field.1.key field.2) value) fields.zipIdx
    values

lemma settlesAll_object : SettlesAll fields (object entries) values ↔
    List.Forall₂ (fun field value => field.Settles (valuesUnder field.key entries) value) fields values := by
  have hfields : fields = fields.zipIdx.map Prod.fst := (List.zipIdx_map_fst 0 fields).symm
  conv_rhs => rw [hfields, List.forall₂_map_left_iff]
  rfl

/-- **Records are read as they are meant**: each field has the value that is given for it, or its default. -/
theorem asRecord_eq_ok_iff (hkeys : (fields.map (·.key)).Nodup) :
    j.asRecord fields = .ok values ↔ j.IsRecord fields ∧ SettlesAll fields j values := by
  cases j with
  | object entries =>
    rw [settlesAll_object]
    simp only [asRecord, bind_eq_ok_iff, foldlM_fill_eq_ok_iff hkeys, settles_iff, List.forall₂_and_left]
    rw [← and_assoc, ← filled_iff]
    constructor
    · rintro ⟨_, ⟨hfilled, rfl⟩, hvalues⟩
      exact ⟨hfilled, settle_eq_ok_iff.1 hvalues⟩
    · rintro ⟨hfilled, hvalues⟩
      exact ⟨_, ⟨hfilled, rfl⟩, settle_eq_ok_iff.2 hvalues⟩
  | array items =>
    have hrecord : IsRecord fields (array items) ↔ items.length ≤ fields.length := ⟨fun | .array h => h, .array⟩
    rw [hrecord]
    exact settleItems_eq_ok_iff
  | null | flag | number | text | cut => exact iff_of_false nofun nofun

/-! ### Records that are written -/

/-- An entry that is written for a field. -/
def Field.IsWritten (field : Field) (e : String × Json) : Prop := field.key = e.1 ∧ field.check e.2 = .ok ()

lemma keys_written {written : List (String × Json)} (hwritten : List.Forall₂ Field.IsWritten fields written) :
    written.map (·.1) = fields.map (·.key) := by
  induction hwritten with
  | nil => rfl
  | cons hfirst _ ih => rw [List.map_cons, List.map_cons, ih, hfirst.1]

lemma settles_written {written : List (String × Json)} (hkeys : (fields.map (·.key)).Nodup)
    (hwritten : List.Forall₂ Field.IsWritten fields written) :
    List.Forall₂ (fun field e => field.Settles (valuesUnder field.key (written.map fun e => (some e.1, e.2))) e.2)
      fields written := by
  induction hwritten with
  | nil => exact .nil
  | @cons field e fields written hfirst hrest ih =>
    obtain ⟨hfresh, hkeys⟩ := List.nodup_cons.1 hkeys
    have hnone : valuesUnder field.key (written.map fun e => (some e.1, e.2)) = [] := by
      refine valuesUnder_of_forall fun e' he' heq => ?_
      obtain ⟨entry, hentry, rfl⟩ := List.mem_map.1 he'
      refine hfresh (keys_written hrest ▸ List.mem_map.2 ⟨entry, hentry, ?_⟩)
      exact Option.some.inj heq
    have hothers : ∀ other ∈ fields, e.1 ≠ other.key := by
      intro other hother heq
      exact hfresh (List.mem_map.2 ⟨other, hother, (hfirst.1.trans heq).symm⟩)
    refine .cons ?_ (((List.forall₂_and_left _ _).2 ⟨hothers, ih hkeys⟩).imp ?_)
    · rw [List.map_cons, valuesUnder_cons, if_pos (by rw [hfirst.1]), hnone]
      exact .one hfirst.2
    · rintro other entry ⟨hother, hsettles⟩
      rw [List.map_cons, valuesUnder_cons, if_neg (by simpa using hother)]
      exact hsettles

/-- What is written with the keys of the fields is read as the values that were written. -/
theorem asRecord_record {written : List (String × Json)} (hkeys : (fields.map (·.key)).Nodup)
    (hwritten : List.Forall₂ Field.IsWritten fields written) :
    (record written).asRecord fields = .ok (written.map (·.2)) := by
  have hreadable : ∀ e ∈ written.map fun e => (some e.1, e.2), e.1.isSome = true := by
    intro e he
    obtain ⟨_, -, rfl⟩ := List.mem_map.1 he
    rfl
  have hknown : ∀ e ∈ written.map fun e => (some e.1, e.2), ∃ field ∈ fields, e.1 = some field.key := by
    intro e he
    obtain ⟨entry, hentry, rfl⟩ := List.mem_map.1 he
    have hkey : entry.1 ∈ fields.map (·.key) := keys_written hwritten ▸ List.mem_map_of_mem hentry
    obtain ⟨field, hfield, hsame⟩ := List.mem_map.1 hkey
    exact ⟨field, hfield, congrArg some hsame.symm⟩
  refine (asRecord_eq_ok_iff hkeys).2 ⟨.object hreadable fun e he hall => ?_, settlesAll_object.2 ?_⟩
  · obtain ⟨field, hfield, hkey⟩ := hknown e he
    exact absurd hkey (hall field hfield)
  · rw [List.forall₂_map_right_iff]
    exact settles_written hkeys hwritten

/-! ### Other forms of a record -/

lemma valuesUnder_append (key : String) (before after : List (Option String × Json)) :
    valuesUnder key (before ++ after) = valuesUnder key before ++ valuesUnder key after := by
  unfold valuesUnder
  rw [List.filter_append, List.map_append]

lemma fill_of_unknown {key : String} (hkey : ∀ field ∈ fields, key ≠ field.key) (hwhole : value.isWhole = true)
    (slots : Slots) : fill fields slots (some key) value = .ok slots := by
  induction fields generalizing slots with
  | nil => simp [fill, hwhole]
  | cons field fields ih =>
    obtain ⟨hfirst, hrest⟩ := List.forall_mem_cons.1 hkey
    cases slots with
    | nil => simp [fill, hwhole]
    | cons slot slots =>
      rw [fill_of_ne (fun heq => hfirst (Option.some.inj heq)), ih hrest]
      rfl

/-- An entry under a key that no field has makes no difference, whatever its value is. -/
theorem asRecord_unknown {key : String} (hkey : ∀ field ∈ fields, key ≠ field.key) (hwhole : value.isWhole = true)
    (before after : List (Option String × Json)) :
    (object (before ++ (some key, value) :: after)).asRecord fields = (object (before ++ after)).asRecord fields := by
  simp only [asRecord, List.foldlM_append, List.foldlM_cons, fill_of_unknown hkey hwhole]
  rfl

lemma isRecord_object_iff : IsRecord fields (object entries) ↔ ∀ e ∈ entries,
    e.1.isSome = true ∧ ((∀ field ∈ fields, e.1 ≠ some field.key) → e.2.isWhole = true) :=
  ⟨fun | .object readable whole => fun e he => ⟨readable e he, whole e he⟩,
    fun h => .object (fun e he => (h e he).1) fun e he => (h e he).2⟩

/-- A field that has a default may be left out, or be given its default. -/
theorem asRecord_default (hkeys : (fields.map (·.key)).Nodup) {field : Field} (hfield : field ∈ fields)
    (hdefault : field.default = some value) (hcheck : field.check value = .ok ())
    {before after : List (Option String × Json)} (hnone : ∀ e ∈ before ++ after, e.1 ≠ some field.key) :
    (object (before ++ (some field.key, value) :: after)).asRecord fields = .ok values ↔
      (object (before ++ after)).asRecord fields = .ok values := by
  have hrecord : IsRecord fields (object (before ++ (some field.key, value) :: after)) ↔
      IsRecord fields (object (before ++ after)) := by
    have hentry : (∀ other ∈ fields, some field.key ≠ some other.key) → value.isWhole = true :=
      fun hall => absurd rfl (hall field hfield)
    simp only [isRecord_object_iff, List.forall_mem_append, List.forall_mem_cons]
    exact ⟨fun ⟨hbefore, _, hafter⟩ => ⟨hbefore, hafter⟩, fun ⟨hbefore, hafter⟩ => ⟨hbefore, ⟨rfl, hentry⟩, hafter⟩⟩
  have hsettles (other : Field) (hother : other ∈ fields) (v : Json) :
      other.Settles (valuesUnder other.key (before ++ (some field.key, value) :: after)) v ↔
        other.Settles (valuesUnder other.key (before ++ after)) v := by
    by_cases hkey : field.key = other.key
    · obtain rfl : field = other := List.inj_on_of_nodup_map hkeys hfield hother hkey
      obtain ⟨hbefore, hafter⟩ := List.forall_mem_append.1 hnone
      rw [valuesUnder_append, valuesUnder_append, valuesUnder_cons, if_pos rfl, valuesUnder_of_forall hbefore,
        valuesUnder_of_forall hafter]
      simp [settles_singleton_iff, settles_nil_iff, hcheck, hdefault]
    · rw [valuesUnder_append, valuesUnder_append, valuesUnder_cons, if_neg (by simpa using hkey)]
  rw [asRecord_eq_ok_iff hkeys, asRecord_eq_ok_iff hkeys, hrecord, settlesAll_object, settlesAll_object]
  refine and_congr_right fun _ => ⟨fun h => ?_, fun h => ?_⟩
  · exact ((List.forall₂_and_left _ _).2 ⟨hsettles, h⟩).imp fun _ v h => (h.1 v).1 h.2
  · exact ((List.forall₂_and_left _ _).2 ⟨hsettles, h⟩).imp fun _ v h => (h.1 v).2 h.2

lemma Field.Settles.check_eq_ok {field : Field} (h : field.Settles values value)
    (hdefault : ∀ value, field.default = some value → field.check value = .ok ()) : field.check value = .ok () := by
  cases h with
  | one hcheck => exact hcheck
  | default hsome => exact hdefault _ hsome

lemma settleItems_of_forall₂
    (h : List.Forall₂ (fun (field : Field) value => field.check value = .ok ()) fields values) :
    settleItems fields values = .ok values := by
  induction h with
  | nil => rfl
  | cons hfirst _ ih => rw [settleItems, hfirst, ih]; rfl

/-- The values of a record may be listed in the order of the fields. -/
theorem asRecord_array (hkeys : (fields.map (·.key)).Nodup)
    (hdefaults : ∀ field ∈ fields, ∀ value, field.default = some value → field.check value = .ok ())
    (h : j.asRecord fields = .ok values) : (array values).asRecord fields = .ok values := by
  have hsettles := ((asRecord_eq_ok_iff hkeys).1 h).2
  have hmem : ∀ field ∈ fields.zipIdx, field.1 ∈ fields := fun field hfield => List.fst_mem_of_mem_zipIdx hfield
  have hchecks : List.Forall₂ (fun (field : Field × Nat) value => field.1.check value = .ok ()) fields.zipIdx values :=
    ((List.forall₂_and_left _ _).2 ⟨hmem, hsettles⟩).imp fun field _ h => h.2.check_eq_ok (hdefaults field.1 h.1)
  refine settleItems_of_forall₂ ?_
  rw [← List.zipIdx_map_fst 0 fields]
  exact List.forall₂_map_left_iff.2 hchecks

end Json

end PeerChat
