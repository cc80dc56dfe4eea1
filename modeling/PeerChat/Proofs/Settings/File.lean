import PeerChat.Proofs.Json.Record
import PeerChat.Proofs.Json.Whole
import PeerChat.Settings.File

/-!
Settings files, read. A file gives some of the settings, as they could be given by hand; the others have their defaults.

* `ofJson_eq_ok_iff`, `ofText_eq_ok_iff`: which values and texts are settings, and what they are;
* `size_le_of_ofFile`: no file over the limit is read, whatever size it was told to be of;
* `load_of_holds`, `load_of_unreadable`, `holds_or_unreadable`: what a file gives, or else what is wrong with it.
-/

namespace PeerChat.Settings

open Json (Field)

lemma maxFileBytes_eq : maxFileBytes = 65536 := rfl

/-! ### Single settings -/

/-- What is given for a setting tells its value, if anything is given. -/
def Tells {α : Type} (kind : Json → Except JsonFault α) (given : List Json) (value? : Option α) : Prop :=
  List.Forall₂ (fun j v => kind j = .ok v) given value?.toList

section

variable {α : Type} {kind : Json → Except JsonFault α} {given : List Json} {standard : Json} {default v : α}

lemma tells_nil {value? : Option α} : Tells kind [] value? ↔ value? = none := by
  unfold Tells
  cases value? <;> simp

lemma tells_singleton {j : Json} {value? : Option α} :
    Tells kind [j] value? ↔ ∃ v, value? = some v ∧ kind j = .ok v := by
  unfold Tells
  cases value? <;> simp

lemma not_tells {j k : Json} {rest : List Json} {value? : Option α} : ¬Tells kind (j :: k :: rest) value? := by
  unfold Tells
  cases value? <;> simp

lemma exists_settles_iff (key : String) (hstandard : kind standard = .ok default) :
    (∃ j, (Field.optional key kind standard).Settles given j ∧ kind j = .ok v) ↔
      ∃ value?, Tells kind given value? ∧ v = value?.getD default := by
  cases given with
  | nil =>
    simp only [Json.settles_nil_iff, tells_nil, Field.optional, Option.some.injEq, exists_eq_left', exists_eq_left,
      Option.getD_none, hstandard, Except.ok.injEq]
    exact eq_comm
  | cons first rest =>
    cases rest with
    | nil =>
      simp only [Json.settles_singleton_iff, tells_singleton, Field.optional, discard_eq_ok_iff]
      constructor
      · rintro ⟨j, ⟨-, rfl⟩, hj⟩
        exact ⟨some v, ⟨v, rfl, hj⟩, rfl⟩
      · rintro ⟨_, ⟨v, rfl, hv⟩, rfl⟩
        exact ⟨first, ⟨⟨v, hv⟩, rfl⟩, hv⟩
    | cons second rest =>
      exact iff_of_false (fun ⟨_, h, _⟩ => nomatch h) (fun ⟨_, h, _⟩ => not_tells h)

end

lemma exists_text_iff {given : List Json} (key : String) (default : String) {v : String} :
    (∃ j, (Field.optional key Json.asText (.str default)).Settles given j ∧ Json.asText j = .ok v) ↔
      ∃ value?, Tells Json.asText given value? ∧ v = value?.getD default :=
  exists_settles_iff key rfl

lemma exists_word_iff {given : List Json} (key : String) (default : UInt64) {v : UInt64} :
    (∃ j, (Field.optional key Json.asWord (.nat default.toNat)).Settles given j ∧ Json.asWord j = .ok v) ↔
      ∃ value?, Tells Json.asWord given value? ∧ v = value?.getD default :=
  exists_settles_iff key (Json.asWord_nat default)

/-! ### Values -/

/-- An object whose keys can be read, or an array of no more items than there are settings. -/
inductive IsShaped : Json → Prop
  | object {entries : List (Option String × Json)} : (∀ e ∈ entries, e.1.isSome = true) → IsShaped (.object entries)
  | array {items : List Json} : items.length ≤ 7 → IsShaped (.array items)

/-- A value gives settings: what it gives for each of them, under its key or in its place, is of the right kind. -/
structure Gives (j : Json) (o : Overrides) : Prop where
  isShaped : IsShaped j
  serverUrl : Tells Json.asText (j.given "server_url" 0) o.serverUrl
  messagesMs : Tells Json.asWord (j.given "messages_ms" 1) o.messagesMs
  rosterMs : Tells Json.asWord (j.given "roster_ms" 2) o.rosterMs
  transfersMs : Tells Json.asWord (j.given "transfers_ms" 3) o.transfersMs
  livenessMs : Tells Json.asWord (j.given "liveness_ms" 4) o.livenessMs
  requestTimeoutMs : Tells Json.asWord (j.given "request_timeout_ms" 5) o.requestTimeoutMs
  maxOfferBytes : Tells Json.asWord (j.given "max_offer_bytes" 6) o.maxOfferBytes

lemma nodup_keys_fields : (fields.map (·.key)).Nodup := by decide

/-- Where nothing broke off, what stands under other keys does no harm. -/
lemma isRecord_iff {j : Json} (hwhole : j.isWhole = true) : j.IsRecord fields ↔ IsShaped j := by
  constructor
  · rintro (⟨hreadable, -⟩ | hlength)
    · exact .object hreadable
    · exact .array hlength
  · rintro (hreadable | hlength)
    · exact .object hreadable fun e he _ => Json.entriesAreWhole_iff.1 hwhole e he
    · exact .array hlength

lemma exists_gives_of_ofJson {j : Json} {s : Settings} (hwhole : j.isWhole = true) (h : ofJson j = .ok s) :
    ∃ given, Gives j given ∧ s = given.apply default := by
  obtain ⟨values, hvalues, hread⟩ := bind_eq_ok_iff.1 h
  obtain ⟨hrecord, hsettles⟩ := (Json.asRecord_eq_ok_iff nodup_keys_fields).1 hvalues
  simp only [Json.SettlesAll, fields, List.zipIdx_cons, List.zipIdx_nil, List.forall₂_cons_left_iff,
    List.forall₂_nil_left_iff, Nat.zero_add, Nat.reduceAdd] at hsettles
  obtain ⟨url, _, hurl, ⟨messages, _, hmessages, ⟨roster, _, hroster, ⟨transfers, _, htransfers, ⟨liveness, _,
    hliveness, ⟨timeout, _, htimeout, ⟨offer, _, hoffer, rfl, rfl⟩, rfl⟩, rfl⟩, rfl⟩, rfl⟩, rfl⟩, rfl⟩ := hsettles
  simp only [bind_eq_ok_iff] at hread
  obtain ⟨_, hurl', _, hmessages', _, hroster', _, htransfers', _, hliveness', _, htimeout', _, hoffer', hs⟩ := hread
  -- what a field was settled with and what is read from it are brought together, one setting after the other
  obtain ⟨url?, hurl?, rfl⟩ := (exists_text_iff _ default.serverUrl).1 ⟨url, hurl, hurl'⟩
  obtain ⟨messages?, hmessages?, rfl⟩ := (exists_word_iff _ default.messagesMs).1 ⟨messages, hmessages, hmessages'⟩
  obtain ⟨roster?, hroster?, rfl⟩ := (exists_word_iff _ default.rosterMs).1 ⟨roster, hroster, hroster'⟩
  obtain ⟨transfers?, htransfers?, rfl⟩ :=
    (exists_word_iff _ default.transfersMs).1 ⟨transfers, htransfers, htransfers'⟩
  obtain ⟨liveness?, hliveness?, rfl⟩ := (exists_word_iff _ default.livenessMs).1 ⟨liveness, hliveness, hliveness'⟩
  obtain ⟨timeout?, htimeout?, rfl⟩ := (exists_word_iff _ default.requestTimeoutMs).1 ⟨timeout, htimeout, htimeout'⟩
  obtain ⟨offer?, hoffer?, rfl⟩ := (exists_word_iff _ default.maxOfferBytes).1 ⟨offer, hoffer, hoffer'⟩
  exact ⟨⟨url?, messages?, roster?, transfers?, liveness?, timeout?, offer?⟩,
    ⟨(isRecord_iff hwhole).1 hrecord, hurl?, hmessages?, hroster?, htransfers?, hliveness?, htimeout?, hoffer?⟩,
    (Except.ok.inj hs).symm⟩

lemma ofJson_of_gives {j : Json} {given : Overrides} (hwhole : j.isWhole = true) (h : Gives j given) :
    ofJson j = .ok (given.apply default) := by
  obtain ⟨url, hurl, hurl'⟩ := (exists_text_iff "server_url" default.serverUrl).2 ⟨_, h.serverUrl, rfl⟩
  obtain ⟨messages, hmessages, hmessages'⟩ :=
    (exists_word_iff "messages_ms" default.messagesMs).2 ⟨_, h.messagesMs, rfl⟩
  obtain ⟨roster, hroster, hroster'⟩ := (exists_word_iff "roster_ms" default.rosterMs).2 ⟨_, h.rosterMs, rfl⟩
  obtain ⟨transfers, htransfers, htransfers'⟩ :=
    (exists_word_iff "transfers_ms" default.transfersMs).2 ⟨_, h.transfersMs, rfl⟩
  obtain ⟨liveness, hliveness, hliveness'⟩ :=
    (exists_word_iff "liveness_ms" default.livenessMs).2 ⟨_, h.livenessMs, rfl⟩
  obtain ⟨timeout, htimeout, htimeout'⟩ :=
    (exists_word_iff "request_timeout_ms" default.requestTimeoutMs).2 ⟨_, h.requestTimeoutMs, rfl⟩
  obtain ⟨offer, hoffer, hoffer'⟩ :=
    (exists_word_iff "max_offer_bytes" default.maxOfferBytes).2 ⟨_, h.maxOfferBytes, rfl⟩
  have hsettles : Json.SettlesAll fields j [url, messages, roster, transfers, liveness, timeout, offer] :=
    .cons hurl (.cons hmessages (.cons hroster (.cons htransfers (.cons hliveness (.cons htimeout
      (.cons hoffer .nil))))))
  have hrecord := (Json.asRecord_eq_ok_iff nodup_keys_fields).2 ⟨(isRecord_iff hwhole).2 h.isShaped, hsettles⟩
  refine bind_eq_ok_iff.2 ⟨_, hrecord, ?_⟩
  refine bind_eq_ok_iff.2 ⟨_, hurl', ?_⟩
  refine bind_eq_ok_iff.2 ⟨_, hmessages', ?_⟩
  refine bind_eq_ok_iff.2 ⟨_, hroster', ?_⟩
  refine bind_eq_ok_iff.2 ⟨_, htransfers', ?_⟩
  refine bind_eq_ok_iff.2 ⟨_, hliveness', ?_⟩
  refine bind_eq_ok_iff.2 ⟨_, htimeout', ?_⟩
  exact bind_eq_ok_iff.2 ⟨_, hoffer', rfl⟩

/-- What a value gives by itself and what is left out make up the settings. -/
theorem ofJson_eq_ok_iff {j : Json} {s : Settings} (hwhole : j.isWhole = true) :
    ofJson j = .ok s ↔ ∃ given, Gives j given ∧ s = given.apply default :=
  ⟨exists_gives_of_ofJson hwhole, fun ⟨_, hgives, hs⟩ => hs ▸ ofJson_of_gives hwhole hgives⟩

/-! ### Texts -/

/-- A text gives settings: it is JSON, and its value gives them. -/
def Writes (text : String) (given : Overrides) : Prop := ∃ j, Json.ofText? text = some j ∧ Gives j given

theorem ofText_eq_ok_iff {text : String} {s : Settings} :
    ofText text = .ok s ↔ ∃ given, Writes text given ∧ s = given.apply default := by
  unfold ofText Writes
  rw [Json.decode_eq_ok_iff]
  constructor
  · rintro ⟨j, hj, hread⟩
    obtain ⟨given, hgives, hs⟩ := (ofJson_eq_ok_iff (Json.isWhole_of_ofText? hj)).1 hread
    exact ⟨given, ⟨j, hj, hgives⟩, hs⟩
  · rintro ⟨given, ⟨j, hj, hgives⟩, hs⟩
    exact ⟨j, hj, (ofJson_eq_ok_iff (Json.isWhole_of_ofText? hj)).2 ⟨given, hgives, hs⟩⟩

lemma exists_ofText_eq_error {text : String} (h : ∀ given, ¬Writes text given) :
    ∃ fault, ofText text = .error fault := by
  cases htext : ofText text with
  | error fault => exact ⟨fault, rfl⟩
  | ok s =>
    obtain ⟨given, hwrites, -⟩ := ofText_eq_ok_iff.1 htext
    exact absurd hwrites (h given)

/-! ### Files -/

variable {disk : Disk} {path : String} {bytes : ByteArray} {s : Settings} {fault : Fault}

/-- The file at a path gives settings: it is no larger than files may be, and its bytes are a text that gives them. -/
def Holds (disk : Disk) (path : String) (given : Overrides) : Prop :=
  ∃ bytes text, disk.find path = .ok (.file bytes) ∧ bytes.size ≤ 65536 ∧ String.fromUTF8? bytes = some text ∧
    Writes text given

/-- What is wrong with the file at a path. -/
inductive Unreadable (disk : Disk) (path : String) : Fault → Prop
  | lost {fault : Disk.Fault} : disk.find path = .error fault → Unreadable disk path (.unreadable path fault)
  | directory {entries : List (String × Disk.Node)} : disk.find path = .ok (.directory entries) →
    Unreadable disk path (.unreadable path .isDirectory)
  | tooLarge {bytes : ByteArray} : disk.find path = .ok (.file bytes) → 65536 < bytes.size →
    Unreadable disk path (.tooLarge path bytes.size 65536)
  | notUtf8 {bytes : ByteArray} : disk.find path = .ok (.file bytes) → bytes.size ≤ 65536 →
    String.fromUTF8? bytes = none → Unreadable disk path (.unreadable path .notUtf8)
  | unparsable {bytes : ByteArray} {text : String} : disk.find path = .ok (.file bytes) → bytes.size ≤ 65536 →
    String.fromUTF8? bytes = some text → (∀ given, ¬Writes text given) → Unreadable disk path (.unparsable path)

lemma extract_of_size_le (h : bytes.size ≤ 65536) : bytes.extract 0 (maxFileBytes + 1) = bytes := by
  have hmax : max (maxFileBytes + 1) bytes.size = maxFileBytes + 1 := by
    rw [maxFileBytes_eq]
    omega
  rw [← hmax, ByteArray.extract_zero_max_size]

/-- Of a larger one, no more is read than what shows that it is larger. -/
lemma size_extract_of_lt (h : 65536 < bytes.size) : (bytes.extract 0 (maxFileBytes + 1)).size = 65537 := by
  rw [ByteArray.size_extract, maxFileBytes_eq]
  omega

/-- Whatever size a file was told to be of, no settings come from more than it may be. -/
theorem size_le_of_ofFile {told : Nat} (h : ofFile path told (.ok bytes) = .ok s) : bytes.size ≤ 65536 := by
  by_contra hsize
  have hlarge : maxFileBytes < (bytes.extract 0 (maxFileBytes + 1)).size := by
    rw [size_extract_of_lt (Nat.not_le.1 hsize), maxFileBytes_eq]
    decide
  simp only [ofFile, if_pos hlarge] at h
  split_ifs at h
  split at h <;> exact nomatch h

lemma load_of_size_le (hfind : disk.find path = .ok (.file bytes)) (hsize : bytes.size ≤ 65536) :
    load disk path = (String.fromUTF8? bytes).elim (.error (.unreadable path .notUtf8)) fun text =>
      (ofText text).mapError fun _ => .unparsable path := by
  have hwithin : ¬maxFileBytes < bytes.size := Nat.not_lt.2 hsize
  simp only [load, hfind, ofFile, Disk.Node.size, Disk.Node.content, extract_of_size_le hsize, if_neg hwithin]
  cases String.fromUTF8? bytes with
  | none => rfl
  | some text => cases hread : ofText text <;> simp only [hread, Option.elim_some, Except.mapError]

lemma load_of_holds {given : Overrides} (h : Holds disk path given) : load disk path = .ok (given.apply default) := by
  obtain ⟨bytes, text, hfind, hsize, htext, hwrites⟩ := h
  have hread := ofText_eq_ok_iff.2 ⟨given, hwrites, rfl⟩
  rw [load_of_size_le hfind hsize, htext, Option.elim_some, hread, Except.mapError]

lemma load_of_unreadable (h : Unreadable disk path fault) : load disk path = .error fault := by
  cases h with
  | lost hfind => rw [load, hfind]
  | directory hfind => rw [load, hfind]; rfl
  | tooLarge hfind hsize => rw [load, hfind]; exact if_pos hsize
  | notUtf8 hfind hsize htext => rw [load_of_size_le hfind hsize, htext, Option.elim_none]
  | unparsable hfind hsize htext hnone =>
    obtain ⟨fault, hread⟩ := exists_ofText_eq_error hnone
    rw [load_of_size_le hfind hsize, htext, Option.elim_some, hread, Except.mapError]

lemma holds_or_unreadable (disk : Disk) (path : String) :
    (∃ given, Holds disk path given) ∨ ∃ fault, Unreadable disk path fault := by
  cases hfind : disk.find path with
  | error fault => exact Or.inr ⟨_, .lost hfind⟩
  | ok node =>
    cases node with
    | directory entries => exact Or.inr ⟨_, .directory hfind⟩
    | file bytes =>
      rcases Nat.lt_or_ge 65536 bytes.size with hlarge | hsize
      · exact Or.inr ⟨_, .tooLarge hfind hlarge⟩
      · cases htext : String.fromUTF8? bytes with
        | none => exact Or.inr ⟨_, .notUtf8 hfind hsize htext⟩
        | some text =>
          by_cases hwrites : ∃ given, Writes text given
          · obtain ⟨given, hwrites⟩ := hwrites
            exact Or.inl ⟨given, bytes, text, hfind, hsize, htext, hwrites⟩
          · exact Or.inr ⟨_, .unparsable hfind hsize htext (not_exists.1 hwrites)⟩

end PeerChat.Settings
