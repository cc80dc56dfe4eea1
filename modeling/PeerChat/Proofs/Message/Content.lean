import PeerChat.Outgoing
import PeerChat.Proofs.Text.Cut

/-!
Contents, written and read. Texts and emoji share one kind of text: an emoji is written behind a tag, and a text that
begins as the tag does is read as an emoji.

* `decode_eq_text_iff`, `decode_tag_append`: what a text is read as;
* `decode_encode_iff`: which contents are read as what was written;
* `understood_of_gate`: so what leaves is read as it was meant, unless it is a text that begins as the tag does.
-/

namespace PeerChat

namespace Content

/-- A text that begins as the tag of emoji does. -/
def IsTagged : Content → Prop
  | text words => emojiTag.toList <+: words.toList
  | emoji _ => False

/-! ### Reading -/

theorem decode_eq_text_iff {words : String} : decode words = text words ↔ ¬emojiTag.toList <+: words.toList := by
  rw [← Text.after?_eq_none_iff]
  unfold decode
  cases Text.after? emojiTag words with
  | none => simp
  | some rest => simp

lemma decode_tag_append {id : String} (hid : ':' ∉ id.toList) {more : String}
    (hmore : ∀ c, more.toList.head? = some c → c = ':') : decode (emojiTag ++ (id ++ more)) = emoji id := by
  have hpass : ∀ c ∈ id.toList, decide (c ≠ ':') = true := by
    intro c hc
    simpa using ne_of_mem_of_not_mem hc hid
  have htake : more.toList.takeWhile (· ≠ ':') = [] := by
    cases hm : more.toList with
    | nil => rfl
    | cons first rest =>
      rw [hm] at hmore
      rw [List.takeWhile_cons_of_neg]
      simp [hmore first rfl]
  unfold decode
  rw [Text.after?_eq_some_iff.2 rfl]
  dsimp only
  rw [String.toList_append, List.takeWhile_append_of_pos hpass, htake, List.append_nil, String.ofList_toList]

lemma exists_id (rest : String) :
    ∃ id more : String, rest = id ++ more ∧ ':' ∉ id.toList ∧ ∀ c, more.toList.head? = some c → c = ':' := by
  refine ⟨String.ofList (rest.toList.takeWhile (· ≠ ':')), String.ofList (rest.toList.dropWhile (· ≠ ':')), ?_, ?_, ?_⟩
  · rw [← String.toList_inj]
    simp
  · rw [String.toList_ofList]
    intro hmem
    simpa using List.mem_takeWhile_imp hmem
  · intro c hc
    rw [String.toList_ofList] at hc
    have hhead := List.head?_dropWhile_not (fun c => decide (c ≠ ':')) rest.toList
    rw [hc] at hhead
    simpa using hhead

/-! ### Writing and reading -/

/-- An emoji whose id has no colon is read as what was written, and so is a text without the tag. -/
lemma decode_encode_iff (content : Content) (hid : ∀ id, content = emoji id → ':' ∉ id.toList) :
    decode content.encode = content ↔ ¬content.IsTagged := by
  cases content with
  | text words => exact decode_eq_text_iff
  | emoji id =>
    have hread : decode (emojiTag ++ (id ++ "")) = emoji id := decode_tag_append (hid id rfl) nofun
    rw [String.append_empty] at hread
    exact iff_of_true hread not_false

lemma not_mem_of_find? {id : String} (h : (Emoji.find? id).isSome = true) : ':' ∉ id.toList := by
  obtain ⟨e, he⟩ := Option.isSome_iff_exists.1 h
  have hmem : e ∈ Emoji.catalogue := List.mem_of_find?_eq_some he
  have hid : e.id = id := by simpa using List.find?_some he
  have hall : ∀ e ∈ Emoji.catalogue, ':' ∉ e.id.toList := by decide +kernel
  exact hid ▸ hall e hmem

/-! ### What is received -/

/-- A content that has left is received by whoever gets it, in a message with the text that it is written as. -/
structure Understood (content : Content) : Prop where
  /-- It is read as what it is exactly if it is not a text that begins as the tag of emoji does. -/
  same_iff (w : WireMessage) : w.content = content.encode → ((Message.ofWire w).content = content ↔ ¬content.IsTagged)
  /-- Such a text is read as an emoji, and its id is what stands between the tag and the next colon, or the end. -/
  mistaken (w : WireMessage) : w.content = content.encode → content.IsTagged →
    ∃ id more : String, content = .text (emojiTag ++ (id ++ more)) ∧ ':' ∉ id.toList ∧
      (∀ c, more.toList.head? = some c → c = ':') ∧ (Message.ofWire w).content = .emoji id

lemma understood_of_colon {content : Content} (hid : ∀ id, content = emoji id → ':' ∉ id.toList) :
    Understood content where
  same_iff w hw := by
    show decode w.content = content ↔ _
    rw [hw]
    exact decode_encode_iff content hid
  mistaken w hw htagged := by
    cases content with
    | text words =>
      obtain ⟨chars, hwords⟩ := htagged
      obtain ⟨id, more, hrest, hcolon, hmore⟩ := exists_id (String.ofList chars)
      have heq : words = emojiTag ++ (id ++ more) := by
        rw [← hrest, ← String.toList_inj, String.toList_append, String.toList_ofList, hwords]
      refine ⟨id, more, by rw [heq], hcolon, hmore, ?_⟩
      show decode w.content = _
      rw [hw]
      show decode words = _
      rw [heq, decode_tag_append hcolon hmore]
    | emoji id => exact htagged.elim

end Content

variable {conversation : Conversation} {blocked : BlockList} {content : Content} {text : String}

lemma fault?_of_gate (h : gate conversation blocked content = .ok text) :
    content.fault? = none ∧ text = outgoingText conversation content.trimmed := by
  unfold gate at h
  cases hfault : content.fault? with
  | some refusal => rw [hfault] at h; exact nomatch h
  | none =>
    rw [hfault] at h
    cases hpeer : conversation.peer?.filter blocked.contains with
    | some peer => simp only [hpeer] at h; exact nomatch h
    | none =>
      simp only [hpeer] at h
      exact ⟨rfl, (Except.ok.inj h).symm⟩

/-- **What the gate lets out is read as it was meant, unless it is a text that begins as the tag of emoji does.** -/
theorem understood_of_gate (h : gate conversation blocked content = .ok text) :
    text = outgoingText conversation content.trimmed ∧ content.trimmed.Understood := by
  obtain ⟨hfault, htext⟩ := fault?_of_gate h
  refine ⟨htext, Content.understood_of_colon fun id hid => ?_⟩
  cases content with
  | text words => exact nomatch hid
  | emoji id' =>
    obtain rfl : id' = id := Content.emoji.inj hid
    refine Content.not_mem_of_find? ?_
    by_contra hnone
    exact absurd hfault (by simp [Content.fault?, hnone])

/-- A text with the tag in it, and blanks around it. -/
theorem understood_of_tag_inside :
    ∃ blocked text, gate (.withPeer "bob") blocked (.text " see emoji:fire\n") = .ok text ∧
      text = "/to bob see emoji:fire" ∧ ¬(Content.text " see emoji:fire\n").trimmed.IsTagged ∧
        (Content.text " see emoji:fire\n").trimmed.Understood := by
  have hgate : gate (.withPeer "bob") (NameSet.ofList ["carol"]) (.text " see emoji:fire\n") =
      .ok "/to bob see emoji:fire" := by decide +kernel
  have htagged : ¬(Content.text " see emoji:fire\n").trimmed.IsTagged := by
    show ¬Content.emojiTag.toList <+: (Text.trim " see emoji:fire\n").toList
    rw [← List.isPrefixOf_iff_prefix]
    decide +kernel
  exact ⟨_, _, hgate, rfl, htagged, (understood_of_gate hgate).2⟩

/-- A text that begins as the tag does is read as an emoji, and what stands behind its second colon is lost. -/
theorem tagged_text_is_mistaken :
    ¬∀ (conversation : Conversation) (blocked : BlockList) (content : Content) (text : String) (w : WireMessage),
      gate conversation blocked content = .ok text → w.content = content.trimmed.encode →
        (Message.ofWire w).content = content.trimmed := by
  intro h
  have hgate : gate .everyone NameSet.empty (.text "emoji:fire: hot") = .ok "emoji:fire: hot" := by decide +kernel
  let w : WireMessage := ⟨"alice", "all", "emoji:fire: hot", .epoch, true, false⟩
  have hread : (Message.ofWire w).content = .emoji "fire" := by decide +kernel
  have hsame := h .everyone NameSet.empty (.text "emoji:fire: hot") _ w hgate (by decide +kernel)
  rw [hread] at hsame
  exact nomatch hsame

end PeerChat
