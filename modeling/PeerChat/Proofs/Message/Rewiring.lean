import PeerChat.Conversation
import PeerChat.Proofs.Message.Content

/-!
Messages that are sent on. What the client holds of a message is less than what travelled: the recipient of a message
for everyone is gone, and so is what stood behind the id of an emoji. Nothing more is lost when the message travels
again.

* `decode_encode_decode`: a content that was read once is read as itself from then on;
* `encode_decode_eq_iff`: which texts are written as they were read;
* `toWire_ofWire_eq_iff`: which messages travel on as they came;
* `rewiring_retracts`: the two ways of holding a message agree after the first change, on each message and in each view
  of a log.
-/

namespace PeerChat

namespace Content

/-- A text in which an emoji is followed by more: there is a colon behind the tag. -/
def HasTail (raw : String) : Prop := ∃ rest : String, raw = emojiTag ++ rest ∧ ':' ∈ rest.toList

/-! ### Texts read and written -/

/-- What a text is read as: itself, if it does not begin as the tag does, and otherwise the emoji whose id stands
between the tag and the next colon. -/
lemma decode_cases (raw : String) :
    (¬emojiTag.toList <+: raw.toList ∧ decode raw = text raw) ∨
      ∃ id more : String, raw = emojiTag ++ (id ++ more) ∧ ':' ∉ id.toList ∧
        (∀ c, more.toList.head? = some c → c = ':') ∧ decode raw = emoji id := by
  by_cases htag : emojiTag.toList <+: raw.toList
  · obtain ⟨chars, hchars⟩ := htag
    obtain ⟨id, more, hrest, hid, hmore⟩ := exists_id (String.ofList chars)
    have hraw : raw = emojiTag ++ (id ++ more) := by
      rw [← hrest, ← String.toList_inj, String.toList_append, String.toList_ofList, hchars]
    refine Or.inr ⟨id, more, hraw, hid, hmore, ?_⟩
    rw [hraw]
    exact decode_tag_append hid hmore
  · exact Or.inl ⟨htag, decode_eq_text_iff.2 htag⟩

/-- A content that was read once is read as itself from then on. -/
theorem decode_encode_decode (raw : String) : decode (decode raw).encode = decode raw := by
  rcases decode_cases raw with ⟨htag, hread⟩ | ⟨id, more, -, hid, -, hread⟩
  · rw [hread]
    exact hread
  · have hcolon : ∀ id', emoji id = emoji id' → ':' ∉ id'.toList := fun id' h => emoji.inj h ▸ hid
    rw [hread]
    exact (decode_encode_iff (emoji id) hcolon).2 not_false

lemma encode_decode_prefix (raw : String) : (decode raw).encode.toList <+: raw.toList := by
  rcases decode_cases raw with ⟨-, hread⟩ | ⟨id, more, hraw, -, -, hread⟩
  · rw [hread]
    exact List.prefix_rfl
  · rw [hread, hraw]
    show (emojiTag ++ id).toList <+: _
    simp only [String.toList_append, ← List.append_assoc]
    exact List.prefix_append _ _

lemma hasTail_iff {id more : String} (hid : ':' ∉ id.toList) (hmore : ∀ c, more.toList.head? = some c → c = ':') :
    HasTail (emojiTag ++ (id ++ more)) ↔ more ≠ "" := by
  constructor
  · rintro ⟨rest, hraw, hcolon⟩ rfl
    have hrest : id = rest := by
      rw [String.append_empty, ← String.toList_inj] at hraw
      simpa only [String.toList_append, List.append_cancel_left_eq, String.toList_inj] using hraw
    exact hid (hrest ▸ hcolon)
  · intro hne
    refine ⟨id ++ more, rfl, ?_⟩
    cases hm : more.toList with
    | nil => exact absurd (String.toList_eq_nil_iff.1 hm) hne
    | cons first rest =>
      rw [hm] at hmore
      simp [hm, hmore first rfl]

/-- A text is written as it was read exactly if it is not an emoji with more behind it. -/
theorem encode_decode_eq_iff (raw : String) : (decode raw).encode = raw ↔ ¬HasTail raw := by
  rcases decode_cases raw with ⟨htag, hread⟩ | ⟨id, more, hraw, hid, hmore, hread⟩
  · have htail : ¬HasTail raw := by
      rintro ⟨rest, rfl, -⟩
      rw [String.toList_append] at htag
      exact htag (List.prefix_append _ _)
    rw [hread]
    exact iff_of_true rfl htail
  · rw [hread, hraw, hasTail_iff hid hmore, not_not]
    show emojiTag ++ id = emojiTag ++ (id ++ more) ↔ _
    rw [← String.toList_inj]
    simp only [String.toList_append, List.append_cancel_left_eq, List.self_eq_append_right, String.toList_eq_nil_iff]

end Content

namespace Message

variable (w : WireMessage)

/-! ### One message -/

/-- A message that has travelled is the same when it travels again. -/
theorem ofWire_toWire_ofWire : ofWire (toWire (ofWire w)) = ofWire w := by
  have hcontent : Content.decode (Content.decode w.content).encode = Content.decode w.content :=
    Content.decode_encode_decode w.content
  cases hprivate : w.isPrivate <;> simp [ofWire, toWire, isPrivate, hprivate, hcontent]

/-- A message travels on as it came exactly if it is private or for everyone by its recipient too, and not an emoji with
more behind it. -/
theorem toWire_ofWire_eq_iff :
    toWire (ofWire w) = w ↔ (w.isPrivate = false → w.recipient = everyone) ∧ ¬Content.HasTail w.content := by
  rw [← Content.encode_decode_eq_iff]
  obtain ⟨sender, recipient, content, timestamp, isOwn, isPrivate⟩ := w
  cases isPrivate <;> simp [toWire, ofWire, Message.isPrivate, eq_comm]

/-- What becomes of a message that travels, is held, and travels on. -/
structure Retracts (w : WireMessage) : Prop where
  /-- It is private exactly if its flag says so. -/
  isPrivate : (ofWire w).isPrivate = w.isPrivate
  /-- Whoever gets it then holds the same message. -/
  message : ofWire (toWire (ofWire w)) = ofWire w
  /-- From then on it travels as it is. -/
  fixed : toWire (ofWire (toWire (ofWire w))) = toWire (ofWire w)
  /-- At most an end of its content is lost. -/
  content_prefix : (toWire (ofWire w)).content.toList <+: w.content.toList
  /-- Nothing of its content is lost unless it is an emoji with more behind it. -/
  content_eq_iff : (toWire (ofWire w)).content = w.content ↔ ¬Content.HasTail w.content
  /-- Of such a one the tag and the id are left. -/
  content_of_tail (id more : String) : w.content = Content.emojiTag ++ (id ++ ":" ++ more) → ':' ∉ id.toList →
    (toWire (ofWire w)).content = Content.emojiTag ++ id
  /-- It travelled as it is in the first place exactly if, besides, a message for everyone named everyone. -/
  fixed_iff : toWire (ofWire w) = w ↔
    (w.isPrivate = false → w.recipient = everyone) ∧ ¬Content.HasTail w.content

lemma retracts : Retracts w where
  isPrivate := isPrivate_ofWire w
  message := ofWire_toWire_ofWire w
  fixed := congrArg toWire (ofWire_toWire_ofWire w)
  content_prefix := Content.encode_decode_prefix w.content
  content_eq_iff := Content.encode_decode_eq_iff w.content
  content_of_tail id more hcontent hid := by
    have hmore : ∀ c, (":" ++ more).toList.head? = some c → c = ':' := by
      intro c hc
      rw [String.toList_append] at hc
      exact (Option.some.inj hc).symm
    show (Content.decode w.content).encode = _
    rw [hcontent, String.append_assoc, Content.decode_tag_append hid hmore]
    rfl
  fixed_iff := toWire_ofWire_eq_iff w

/-! ### Logs -/

/-- A log that travelled, as it travels on. -/
def rewired (log : List WireMessage) : List WireMessage := (log.map ofWire).map toWire

lemma map_ofWire_rewired (log : List WireMessage) : (rewired log).map ofWire = log.map ofWire := by
  unfold rewired
  rw [List.map_map, List.map_map]
  exact List.map_congr_left fun w _ => ofWire_toWire_ofWire w

lemma exists_view (log : List WireMessage) (conversation : Conversation) (self : Option Username) :
    ∃ part : List WireMessage, part.Sublist log ∧ conversation.view self (log.map ofWire) = part.map ofWire := by
  unfold Conversation.view
  rw [List.filter_map]
  exact ⟨_, List.filter_sublist, rfl⟩

/-- **Sending on is a retraction.** After the first change nothing is lost any more: not of a message, and not of what a
user sees of a log, whether the log is sent on before it is looked at or what is seen of it is sent on. -/
theorem rewiring_retracts :
    (∀ w : WireMessage, Retracts w) ∧
      ∀ (log : List WireMessage) (conversation : Conversation) (self : Option Username),
        ((conversation.view self (log.map ofWire)).map toWire).map ofWire = conversation.view self (log.map ofWire) ∧
          conversation.view self ((rewired log).map ofWire) = conversation.view self (log.map ofWire) := by
  refine ⟨retracts, fun log conversation self => ⟨?_, ?_⟩⟩
  · obtain ⟨part, -, hview⟩ := exists_view log conversation self
    rw [hview]
    exact map_ofWire_rewired part
  · rw [map_ofWire_rewired]

-- a tag behind the tag is an id, and a private message may be for someone who is called as everyone is
example :
    rewired [⟨"bob", "all", "emoji:emoji:fire", .epoch, false, true⟩, ⟨"bob", "amy", "emoji:", .epoch, true, false⟩] =
      [⟨"bob", "all", "emoji:emoji", .epoch, false, true⟩, ⟨"bob", "all", "emoji:", .epoch, true, false⟩] := by
  decide +kernel

end Message

end PeerChat
