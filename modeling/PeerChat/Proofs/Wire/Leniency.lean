import PeerChat.Proofs.Wire.Bodies

/-!
Other forms in which bodies are read than that in which they are written.

* `read_unknown`, `read_default`, `read_array`: keys that no field has, fields left out, arrays for objects;
* `status_read_of_unknown`, `timestamp_read_of_offset`: words that name no status, local times;
* `decode_list_eq_ok_iff`: the items of a list may each come in any of these forms.
-/

namespace PeerChat.Wire.Body

open Transfer (Status)
open Json (Plain Field)

variable {α : Type} {kind : Body α} {key : String} {fields : List Field} {values : List Json} {j : Json} {v : α}

/-! ### Records -/

/-- A kind of which only the values of some fields are read. -/
structure OfFields (kind : Body α) (fields : List Field) : Prop where
  keys : (fields.map (·.key)).Nodup
  defaults : ∀ field ∈ fields, ∀ value, field.default = some value → field.check value = .ok ()
  exists_finish : ∃ finish, ∀ j, kind.read j = j.asRecord fields >>= finish

lemma ofFields_message : OfFields message messageFields where
  keys := by decide
  defaults := by simp [messageFields, Field.required]
  exists_finish := ⟨_, fun _ => rfl⟩

lemma ofFields_offer : OfFields offer offerFields where
  keys := by decide
  defaults := by
    have hzero : (Field.optional "progress" Json.asWord (.nat 0)).check (.nat 0) = .ok () :=
      discard_eq_ok_iff.2 ⟨0, Json.asWord_nat 0⟩
    simpa [offerFields, Field.required, Field.optional] using hzero
  exists_finish := ⟨_, fun _ => rfl⟩

lemma ofFields_response : OfFields response responseFields where
  keys := by decide
  defaults := by simp [responseFields, Field.required]
  exists_finish := ⟨_, fun _ => rfl⟩

lemma ofFields_single (key : String) (kind : Body α) : OfFields (single key kind) [.required key kind.read] where
  keys := by simp
  defaults := by simp [Field.required]
  exists_finish := ⟨_, fun _ => rfl⟩

/-- A key that no field has is passed over, whatever stands under it. -/
theorem read_unknown (h : kind.OfFields fields) (hkey : ∀ field ∈ fields, key ≠ field.key) (hwhole : j.isWhole = true)
    (before after : List (Option String × Json)) :
    kind.read (.object (before ++ (some key, j) :: after)) = kind.read (.object (before ++ after)) := by
  obtain ⟨finish, hread⟩ := h.exists_finish
  rw [hread, hread, Json.asRecord_unknown hkey hwhole]

/-- A field that has a default may be left out. -/
theorem read_default (h : kind.OfFields fields) {field : Field} (hfield : field ∈ fields)
    (hdefault : field.default = some j) {before after : List (Option String × Json)}
    (hnone : ∀ e ∈ before ++ after, e.1 ≠ some field.key) :
    kind.read (.object (before ++ after)) = .ok v ↔
      kind.read (.object (before ++ (some field.key, j) :: after)) = .ok v := by
  obtain ⟨finish, hread⟩ := h.exists_finish
  have hcheck := h.defaults field hfield j hdefault
  simp only [hread, bind_eq_ok_iff, Json.asRecord_default h.keys hfield hdefault hcheck hnone]

/-- The values of the fields may come as an array. -/
theorem read_array (h : kind.OfFields fields) (hrecord : j.asRecord fields = .ok values) :
    kind.read (.array values) = kind.read j := by
  obtain ⟨finish, hread⟩ := h.exists_finish
  rw [hread, hread, hrecord, Json.asRecord_array h.keys h.defaults hrecord]

/-- An offer that does not tell how far it has come is read as one that has not begun. -/
theorem progress_of_offer_read {entries : List (Option String × Json)} {o : Transfer.Offer}
    (hnone : ∀ e ∈ entries, e.1 ≠ some "progress") (h : offer.read (.object entries) = .ok o) : o.progress = 0 := by
  obtain ⟨values, hvalues, hfinish⟩ := bind_eq_ok_iff.1 h
  have hsettles := Json.settlesAll_object.1 ((Json.asRecord_eq_ok_iff ofFields_offer.keys).1 hvalues).2
  simp only [offerFields, List.forall₂_cons_left_iff, List.forall₂_nil_left_iff] at hsettles
  obtain ⟨fileId, _, -, ⟨fileName, _, -, ⟨fileSize, _, -, ⟨progress, _, hprogress, ⟨status, _, -, ⟨direction, _, -,
    ⟨peerName, _, -, rfl, rfl⟩, rfl⟩, rfl⟩, rfl⟩, rfl⟩, rfl⟩, rfl⟩ := hsettles
  have hzero : progress = .nat 0 := by
    have hnil : Json.valuesUnder "progress" entries = [] := Json.valuesUnder_of_forall hnone
    rw [Field.optional, hnil, Json.settles_nil_iff] at hprogress
    exact (Option.some.inj hprogress).symm
  subst hzero
  simp only [bind_eq_ok_iff] at hfinish
  obtain ⟨_, -, _, -, _, -, word, hword, _, -, _, -, _, -, hoffer⟩ := hfinish
  obtain rfl := Except.ok.inj hoffer
  exact Except.ok.inj (hword.symm.trans (Json.asWord_nat 0))

/-! ### Words and moments -/

/-- A word that is that of no status is read as a status all the same. -/
theorem status_read_of_unknown {word : String} (h : ∀ s, s ≠ Status.other → word ≠ s.word) :
    status.read (.str word) = .ok .other := by
  have hother : Status.ofWord word = .other := by
    unfold Status.ofWord
    split_ifs with hpending htransferring hcompleted hfailed hrejected
    · exact absurd hpending (h .pending nofun)
    · exact absurd htransferring (h .transferring nofun)
    · exact absurd hcompleted (h .completed nofun)
    · exact absurd hfailed (h .failed nofun)
    · exact absurd hrejected (h .rejected nofun)
    · rfl
  exact congrArg Except.ok hother

/-- What local clocks show is read as the moment at which they show it, whatever their offset from UTC is. -/
theorem timestamp_read_of_offset {t u : Calendar.Timestamp} {offset : Int} (hoffset : offset.natAbs < 1440)
    (h : t.toUtc? offset = some u) :
    timestamp.read (.str (String.ofList (t.shownText ++ Calendar.Timestamp.offsetText offset))) = .ok u := by
  refine bind_eq_ok_iff.2 ⟨_, rfl, ?_⟩
  rw [t.ofText?_of_offset hoffset, h]
  rfl

/-! ### Texts of bodies -/

lemma decode_toText_eq_ok_iff (h : j.Plain) : kind.decode j.toText = .ok v ↔ kind.read j = .ok v := by
  unfold decode
  rw [Json.decode_eq_ok_iff, Json.ofText?_toText h]
  simp

lemma single_read_eq_ok_iff : (single key kind).read (.record [(key, j)]) = .ok v ↔ kind.read j = .ok v := by
  constructor
  · intro h
    obtain ⟨values, hvalues, hread⟩ := bind_eq_ok_iff.1 h
    have hsettles := Json.settlesAll_object.1 ((Json.asRecord_eq_ok_iff (by simp)).1 hvalues).2
    obtain ⟨value, _, hvalue, hnil, rfl⟩ := List.forall₂_cons_left_iff.1 hsettles
    obtain rfl := List.forall₂_nil_left_iff.1 hnil
    have hgiven : Json.valuesUnder key [(some key, j)] = [j] := by simp [Json.valuesUnder]
    have hsettled : (Field.required key kind.read).Settles [j] value := hgiven ▸ hvalue
    obtain ⟨-, rfl⟩ := Json.settles_singleton_iff.1 hsettled
    exact hread
  · intro hread
    have hrecord : (Json.record [(key, j)]).asRecord [.required key kind.read] = .ok [j] :=
      Json.asRecord_record (by simp) (.cons ⟨rfl, discard_eq_ok_iff.2 ⟨v, hread⟩⟩ .nil)
    exact bind_eq_ok_iff.2 ⟨_, hrecord, hread⟩

lemma list_read_eq_ok_iff {items : List Json} {vs : List α} :
    (list kind).read (.array items) = .ok vs ↔ List.Forall₂ (fun item v => kind.read item = .ok v) items vs := by
  show items.mapM kind.read = .ok vs ↔ _
  induction items generalizing vs with
  | nil =>
    rw [List.mapM_nil, List.forall₂_nil_left_iff]
    exact ⟨fun h => (Except.ok.inj h).symm, fun h => congrArg Except.ok h.symm⟩
  | cons item items ih =>
    simp only [List.mapM_cons, bind_eq_ok_iff, ih, List.forall₂_cons_left_iff]
    constructor
    · rintro ⟨v, hitem, rest, hrest, hvs⟩
      exact ⟨v, rest, hitem, hrest, (Except.ok.inj hvs).symm⟩
    · rintro ⟨v, rest, hitem, hrest, rfl⟩
      exact ⟨v, hitem, rest, hrest, rfl⟩

/-- The text of a list is decoded as what its items are read as, in whatever form each of them is written. -/
theorem decode_list_eq_ok_iff {items : List Json} {vs : List α} (h : ∀ item ∈ items, item.Plain) :
    (single key (list kind)).decode (Json.record [(key, .array items)]).toText = .ok vs ↔
      List.Forall₂ (fun item v => kind.read item = .ok v) items vs := by
  have hplain : (Json.record [(key, .array items)]).Plain := plain_record (List.forall_mem_singleton.2 (.array h))
  rw [decode_toText_eq_ok_iff hplain, single_read_eq_ok_iff, list_read_eq_ok_iff]

-- an array may stand for a record; another key is passed over, and a state that is not known is none of the known ones
example : transfers.decode ("[[[\"7\",\"a\",5,0,\"paused\",\"send\",\"amy\"],\x7b\"peerName\":\"bob\",\"page\":1," ++
    "\"direction\":\"receive\",\"status\":\"failed\",\"fileSize\":6,\"fileName\":\"b\",\"fileId\":\"8\"\x7d]]") =
    .ok [⟨"7", "a", 5, 0, .other, .send, "amy"⟩, ⟨"8", "b", 6, 0, .failed, .receive, "bob"⟩] := by
  decide +kernel

end PeerChat.Wire.Body
