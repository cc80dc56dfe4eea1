import PeerChat.Proofs.Peer.Orders

/-!
Private messages, from the gate of a client to the log of its peer and back into the views of the client. The gate
compares the name of a thread as a whole, while the peer ends it at its first space: a name with a space in it is let
out as one and delivered as another.

* `submit_of_gate`: the peer records the message for the user that the name is read as, or refuses it;
* `dispatched_of_gate`: so it reaches the user of the thread or nobody exactly if there is no space in the name;
* `arrived_of_gate`: the message to a user who is online arrives, and is seen in the thread and nowhere else.
-/

namespace PeerChat

open Calendar (Timestamp)

variable {name : Username} {blocked : BlockList} {content : Content} {text : String}

/-! ### What leaves -/

lemma trim_of_ofId {id : String} (h : Conversation.ofId id = .withPeer name) : Text.trim name = name ∧ name ≠ "" := by
  unfold Conversation.ofId at h
  dsimp only at h
  split at h
  · exact nomatch h
  · next hnamed =>
    rw [← Conversation.withPeer.inj h]
    exact ⟨Text.trim_trim id, fun hempty => hnamed (Or.inl hempty)⟩

lemma isAllBlank_encode_trimmed (h : content.fault? = none) : Text.isAllBlank content.trimmed.encode = false := by
  unfold Content.fault? at h
  cases content with
  | text words =>
    show Text.isAllBlank (Text.trim words) = false
    rw [Text.isAllBlank_trim]
    by_contra hblank
    exact nomatch (if_pos (Bool.not_eq_false _ ▸ hblank)).symm.trans h
  | emoji id =>
    have htag : Content.emojiTag.toList.all Text.isBlank = false := by decide
    show (Content.emojiTag ++ id).toList.all Text.isBlank = false
    rw [String.toList_append, List.all_append, htag, Bool.false_and]

/-- What the gate lets into a thread is for a user who is not blocked, and has something to see in it. -/
lemma eq_of_gate (h : gate (.withPeer name) blocked content = .ok text) :
    name ∉ blocked ∧ Text.isAllBlank content.trimmed.encode = false ∧
      text = privateVerb ++ " " ++ name ++ " " ++ content.trimmed.encode := by
  unfold gate at h
  cases hfault : content.fault? with
  | some refusal => rw [hfault] at h; exact nomatch h
  | none =>
    rw [hfault] at h
    by_cases hname : name ∈ blocked
    · have hfound : (some name).filter blocked.contains = some name := by simp [hname]
      simp only [Conversation.peer?, hfound] at h
      exact nomatch h
    · have hfree : (some name).filter blocked.contains = none := by simp [hname]
      simp only [Conversation.peer?, hfree] at h
      exact ⟨hname, isAllBlank_encode_trimmed hfault, (Except.ok.inj h).symm⟩

/-! ### What the peer records -/

namespace Peer

/-- One private message to a user has joined the log, and nothing else has changed. -/
def Whispered (target : Username) (before after : Peer) : Prop :=
  ∃ m, Records m before after ∧ m.isPrivate = true ∧ m.recipient = target

/-- What leaves for a thread is recorded for the user that the name is read as, if he is online; if not, it is
refused. -/
theorem submit_of_gate (hname : Order.readName name ≠ "") (hgate : gate (.withPeer name) blocked content = .ok text)
    (p : Peer) (now : Timestamp) :
    (Order.readName name ∈ p.online ∧ p.submit now text = .ok (p.record
        (p.ownMessage now (some (Order.readName name)) (Order.readWords name content.trimmed.encode)))) ∨
      (Order.readName name ∉ p.online ∧ p.submit now text = .error (.notOnline (Order.readName name))) := by
  obtain ⟨-, hvisible, rfl⟩ := eq_of_gate hgate
  exact submit_cases (Order.ofText_private hname hvisible) rfl

end Peer

/-- What becomes of a text that has left for the thread with a name, past a gate that knew of these blocked users, and
reaches the peer at a time. -/
structure Dispatched (now : Timestamp) (name : Username) (blocked : BlockList) (text : String) : Prop where
  /-- It is recorded as one private message to the user that the name is read as, if he is online. -/
  recorded (p : Peer) : Order.readName name ∈ p.online →
    ∃ q, p.submit now text = .ok q ∧ p.Whispered (Order.readName name) q
  /-- It is refused otherwise, and the peer stays as it is. -/
  refused (p : Peer) : Order.readName name ∉ p.online →
    p.submit now text = .error (.notOnline (Order.readName name)) ∧ p.does (.submit now text) = p
  /-- That it reaches the user of the thread or nobody, whatever the peer holds, is so exactly if there is no space in
  the name; and the user of the thread is not blocked. -/
  named_iff : (∀ p q : Peer, p.submit now text = .ok q → p.Whispered name q ∧ name ∉ blocked) ↔ ' ' ∉ name.toList

/-- **A private message reaches the user that the name of its thread is read as, or nobody**; that is the user of the
thread himself exactly if there is no space in the name. -/
theorem dispatched_of_gate (now : Timestamp) {id : String} (hid : Conversation.ofId id = .withPeer name)
    (hgate : gate (.withPeer name) blocked content = .ok text) : Dispatched now name blocked text := by
  obtain ⟨htrimmed, hne⟩ := trim_of_ofId hid
  have hread : Order.readName name ≠ "" := Order.readName_ne_empty htrimmed hne
  have hrecorded : ∀ p : Peer, Order.readName name ∈ p.online →
      ∃ q, p.submit now text = .ok q ∧ p.Whispered (Order.readName name) q := by
    intro p honline
    rcases p.submit_of_gate hread hgate now with ⟨-, hsubmit⟩ | ⟨habsent, -⟩
    · exact ⟨_, hsubmit, _, p.records_record _, rfl, rfl⟩
    · exact absurd honline habsent
  refine ⟨hrecorded, ?_, ?_⟩
  · intro p habsent
    rcases p.submit_of_gate hread hgate now with ⟨honline, -⟩ | ⟨-, hsubmit⟩
    · exact absurd honline habsent
    · exact ⟨hsubmit, Peer.does_submit_of_error hsubmit⟩
  · rw [← Order.readName_eq_iff htrimmed]
    constructor
    · intro hnamed
      -- a peer that has just the user online that the name is read as
      let p : Peer := (Peer.start "").join (Order.readName name)
      obtain ⟨q, hsubmit, m, hm, -, hrecipient⟩ := hrecorded p (NameSet.mem_insert.2 (Or.inl rfl))
      obtain ⟨⟨m', hm', -, hrecipient'⟩, -⟩ := hnamed p q hsubmit
      rw [← hrecipient, hm.unique hm', hrecipient']
    · intro hsame p q hsubmit
      refine ⟨?_, (eq_of_gate hgate).1⟩
      rcases p.submit_of_gate hread hgate now with ⟨-, hrecorded⟩ | ⟨-, hrefused⟩
      · rw [hsubmit] at hrecorded
        rw [Except.ok.inj hrecorded]
        exact ⟨_, p.records_record _, rfl, hsame⟩
      · rw [hsubmit] at hrefused
        exact nomatch hrefused

/-- A thread whose name has blanks around it and a space in it. -/
theorem dispatched_of_two_words :
    ∃ now blocked text, Conversation.ofId "\tbob smith " = .withPeer "bob smith" ∧
      gate (.withPeer "bob smith") blocked (.text " hi\n") = .ok text ∧ "bob" ∈ blocked ∧
        Dispatched now "bob smith" blocked text := by
  let blocked : BlockList := NameSet.ofList ["bob", "carol"]
  have hid : Conversation.ofId "\tbob smith " = .withPeer "bob smith" := by decide +kernel
  have hgate : gate (.withPeer "bob smith") blocked (.text " hi\n") = .ok "/to bob smith hi" := by decide +kernel
  exact ⟨.epoch, blocked, _, hid, hgate, by decide +kernel, dispatched_of_gate .epoch hid hgate⟩

/-- A message into the thread with `bob smith` reaches `bob`, even if he is blocked. -/
theorem blocked_user_is_reached :
    ¬∀ (id : String) (name : Username) (blocked : BlockList) (content : Content) (text : String) (p q : Peer)
      (now : Timestamp), Conversation.ofId id = .withPeer name → gate (.withPeer name) blocked content = .ok text →
        p.submit now text = .ok q → ∃ m, Peer.Records m p q ∧ m.isPrivate = true ∧ m.recipient = name ∧
          m.recipient ∉ blocked := by
  intro h
  let p : Peer := (Peer.start "alice").join "bob"
  let sent : WireMessage := p.ownMessage .epoch (some "bob") "smith hi"
  have hsubmit : p.submit .epoch "/to bob smith hi" = .ok (p.record sent) := by decide +kernel
  obtain ⟨m, hm, -, hrecipient, -⟩ := h "bob smith" "bob smith" (NameSet.ofList ["bob"]) (.text "hi") "/to bob smith hi"
    p (p.record sent) .epoch (by decide +kernel) (by decide +kernel) hsubmit
  rw [hm.unique (p.records_record sent)] at hrecipient
  exact absurd hrecipient (by decide)

/-! ### What the user sees -/

/-- A message has arrived at a peer from the thread with a name, and its user sees it there. -/
structure Arrived (name : Username) (content : Content) (m : WireMessage) (before after : Peer) : Prop where
  records : Peer.Records m before after
  /-- The whole log stays in front of it, or all but the oldest message of a full one. -/
  log : (before.log.length < Peer.logCap → after.log = before.log ++ [m]) ∧
    (before.log.length = Peer.logCap → after.log = before.log.tail ++ [m])
  content_eq : (Message.ofWire m).content = Content.decode content.trimmed.encode
  /-- At the end of any log, the message is seen in the thread and in no other conversation. -/
  view_eq (log : List Message) (conversation : Conversation) :
    conversation.view (some before.name) (log ++ [Message.ofWire m]) =
      conversation.view (some before.name) log ++ if conversation = .withPeer name then [Message.ofWire m] else []

/-- A message of the user to someone is seen in the thread with him alone, also if he has the name of the user. -/
lemma holds_ownMessage (p : Peer) (now : Timestamp) (words : String) (conversation : Conversation) :
    conversation.holds (some p.name) (.ofWire (p.ownMessage now (some name) words)) =
      decide (conversation = .withPeer name) := by
  cases conversation with
  | everyone => rfl
  | withPeer peer =>
    show ((p.name == peer && some p.name == some name) || (true && name == peer)) = _
    rw [Bool.eq_iff_iff]
    simp only [Bool.true_and, Bool.or_eq_true, Bool.and_eq_true, beq_iff_eq, decide_eq_true_eq, Option.some.injEq,
      Conversation.withPeer.injEq]
    constructor
    · rintro (⟨hsender, hrecipient⟩ | hrecipient)
      · rw [← hsender, hrecipient]
      · exact hrecipient.symm
    · exact fun hname => Or.inr hname.symm

lemma view_concat (conversation : Conversation) (self : Option Username) (log : List Message) (m : Message) :
    conversation.view self (log ++ [m]) =
      conversation.view self log ++ if conversation.holds self m then [m] else [] := by
  unfold Conversation.view
  rw [List.filter_append]
  cases hholds : conversation.holds self m <;> simp [hholds]

/-- **A message to a user who is online arrives**, if his name is one word: the log takes the text of it, and the user
sees it in the thread and nowhere else. -/
theorem arrived_of_gate (p : Peer) (now : Timestamp) (hne : name ≠ "")
    (hname : ∀ c ∈ name.toList, Text.isBlank c = false) (honline : name ∈ p.online)
    (hgate : gate (.withPeer name) blocked content = .ok text) :
    ∃ q m, p.submit now text = .ok q ∧ Arrived name content m p q := by
  obtain ⟨hread, hwords⟩ := Order.read_of_visible hname content.trimmed.encode
  have hnamed : Order.readName name ≠ "" := by rwa [hread]
  rcases p.submit_of_gate hnamed hgate now with ⟨-, hsubmit⟩ | ⟨habsent, -⟩
  · rw [hread, hwords] at hsubmit
    let m := p.ownMessage now (some name) content.trimmed.encode
    have hrecords : Peer.Records m p (p.record m) := p.records_record m
    have hview : ∀ (log : List Message) (conversation : Conversation),
        conversation.view (some p.name) (log ++ [Message.ofWire m]) =
          conversation.view (some p.name) log ++
            if conversation = .withPeer name then [Message.ofWire m] else [] := by
      intro log conversation
      rw [view_concat, holds_ownMessage]
      simp only [decide_eq_true_eq]
    exact ⟨p.record m, m, hsubmit, hrecords, ⟨hrecords.log_of_lt, hrecords.log_of_full⟩, rfl, hview⟩
  · rw [hread] at habsent
    exact absurd honline habsent

/-- A text that looks like an emoji and a verb, to a user who is called as the user of the peer. -/
theorem arrived_at_namesake :
    ∃ (p : Peer) (now : Timestamp) (blocked : BlockList) (text : String), "bob" ≠ "" ∧
      (∀ c ∈ "bob".toList, Text.isBlank c = false) ∧ "bob" ∈ p.online ∧
        gate (.withPeer "bob") blocked (.text " emoji:fire:x /block bob\n") = .ok text ∧
          ∃ q m, p.submit now text = .ok q ∧ Arrived "bob" (.text " emoji:fire:x /block bob\n") m p q := by
  let p : Peer := (Peer.start "bob").join "bob"
  let blocked : BlockList := NameSet.ofList ["carol"]
  have hname : ∀ c ∈ "bob".toList, Text.isBlank c = false := Text.visible_of_all (by decide)
  have honline : "bob" ∈ p.online := by decide +kernel
  have hgate : gate (.withPeer "bob") blocked (.text " emoji:fire:x /block bob\n") =
      .ok "/to bob emoji:fire:x /block bob" := by
    decide +kernel
  exact ⟨p, .epoch, blocked, _, by decide, hname, honline, hgate,
    arrived_of_gate p .epoch (by decide) hname honline hgate⟩

end PeerChat
