import PeerChat.Proofs.Peer.Deed
import PeerChat.Proofs.Text.Cut

/-!
How a peer reads the names in a text, and what it does with an order that names a user. A name that stands in a text
ends at its first space for the peer, and what follows is read as words.

* `readName_eq_iff`: a trimmed name is read as it is exactly if there is no space in it;
* `ofVerb_cases`: what a verb, a user and words are read as;
* `ofText_eq_ok_iff`: what a text is read as;
* `ofText_private`, `ofText_command`: what the texts that a client writes are read as;
* `submit_cases`, `submit_eq_ok_iff`: an order is carried out exactly if the user that it names is online;
* `Records`: how one message joins the log.
-/

namespace PeerChat

open Calendar (Timestamp)

namespace Order

/-! ### Cutting at spaces -/

lemma cutAtSpace_of_not_mem {text : String} (h : ' ' ∉ text.toList) : cutAtSpace text = (text, none) := by
  have hcut : Text.cutWhere (· == ' ') text.toList = none := by
    refine Text.cutWhere_of_forall fun c hc => ?_
    exact beq_eq_false_iff_ne.2 fun hspace => h (hspace ▸ hc)
  unfold cutAtSpace
  rw [hcut]

lemma cutAtSpace_append {front : String} (h : ' ' ∉ front.toList) (back : String) :
    cutAtSpace (front ++ " " ++ back) = (front, some back) := by
  have hfront : ∀ c ∈ front.toList, (c == ' ') = false := by
    intro c hc
    exact beq_eq_false_iff_ne.2 fun hspace => h (hspace ▸ hc)
  have htext : (front ++ " " ++ back).toList = front.toList ++ ' ' :: back.toList := by simp
  unfold cutAtSpace
  rw [htext, Text.cutWhere_append_cons hfront rfl]
  simp

lemma exists_of_space_mem {text : String} (h : ' ' ∈ text.toList) :
    ∃ front back, text = front ++ " " ++ back ∧ ' ' ∉ front.toList := by
  obtain ⟨front, back, htext, hfront⟩ := List.eq_append_cons_of_mem h
  refine ⟨String.ofList front, String.ofList back, ?_, by simpa using hfront⟩
  rw [← String.toList_inj]
  simpa using htext

/-! ### Names in a text -/

/-- The user whom a peer takes a name in a text for: the name ends at its first space. -/
def readName (name : String) : Username := Text.trim (cutAtSpace name).1

/-- The words that a peer reads after a name in a text: they begin behind the first space, be it one of the name. -/
def readWords (name words : String) : String := ((cutAtSpace name).2.map (· ++ " " ++ words)).getD words

lemma readName_of_not_mem {name : String} (h : ' ' ∉ name.toList) : readName name = Text.trim name := by
  unfold readName
  rw [cutAtSpace_of_not_mem h]

lemma readWords_of_not_mem {name : String} (h : ' ' ∉ name.toList) (words : String) : readWords name words = words := by
  unfold readWords
  rw [cutAtSpace_of_not_mem h]
  rfl

lemma read_of_visible {name : String} (h : ∀ c ∈ name.toList, Text.isBlank c = false) (words : String) :
    readName name = name ∧ readWords name words = words := by
  have hspace : ' ' ∉ name.toList := fun hmem => absurd Text.isBlank_space (by simp [h ' ' hmem])
  exact ⟨by rw [readName_of_not_mem hspace, Text.trim_of_forall h], readWords_of_not_mem hspace words⟩

lemma cutAtSpace_name (name words : String) :
    cutAtSpace (name ++ " " ++ words) = ((cutAtSpace name).1, some (readWords name words)) := by
  by_cases h : ' ' ∈ name.toList
  · obtain ⟨front, back, rfl, hfront⟩ := exists_of_space_mem h
    have hrest : front ++ " " ++ back ++ " " ++ words = front ++ " " ++ (back ++ " " ++ words) := by
      simp only [String.append_assoc]
    unfold readWords
    rw [hrest, cutAtSpace_append hfront, cutAtSpace_append hfront]
    rfl
  · rw [cutAtSpace_append h, cutAtSpace_of_not_mem h, readWords_of_not_mem h]

section Trimmed

variable {name : String} (htrimmed : Text.trim name = name)
include htrimmed

/-- A trimmed name is read as it is exactly if there is no space in it. -/
theorem readName_eq_iff : readName name = name ↔ ' ' ∉ name.toList := by
  constructor
  · intro hread hspace
    obtain ⟨front, back, hname, hfront⟩ := exists_of_space_mem hspace
    have hchars : name.toList = Text.trimChars front.toList := by
      rw [← Text.toList_trim, ← hread]
      unfold readName
      rw [hname, cutAtSpace_append hfront]
    rw [hchars] at hspace
    exact hfront (Text.mem_of_mem_trimChars hspace)
  · intro hspace
    rw [readName_of_not_mem hspace, htrimmed]

lemma readName_ne_empty (hne : name ≠ "") : readName name ≠ "" := by
  by_cases hspace : ' ' ∈ name.toList
  · obtain ⟨front, back, hname, hfront⟩ := exists_of_space_mem hspace
    obtain ⟨first, rest, hfirst, hvisible⟩ := Text.exists_head_of_trimmed htrimmed hne
    have hread : readName name = Text.trim front := by
      unfold readName
      rw [hname, cutAtSpace_append hfront]
    rw [hread]
    intro hempty
    have hblank : front.toList.all Text.isBlank = true := (Text.isAllBlank_eq_true_iff front).2 hempty
    have hchars : front.toList ++ ' ' :: back.toList = first :: rest := by
      rw [← hfirst, hname]
      simp
    -- the name begins with a visible character, so its first space is not at its start
    cases hlist : front.toList with
    | nil =>
      rw [hlist] at hchars
      rw [← (List.cons.inj hchars).1] at hvisible
      exact absurd Text.isBlank_space (by simp [hvisible])
    | cons c cs =>
      rw [hlist] at hchars hblank
      rw [← (List.cons.inj hchars).1] at hvisible
      simp [hvisible] at hblank
  · rw [readName_of_not_mem hspace, htrimmed]
    exact hne

end Trimmed

lemma isAllBlank_readWords {words : String} (name : String) (h : Text.isAllBlank words = false) :
    Text.isAllBlank (readWords name words) = false := by
  unfold readWords
  cases (cutAtSpace name).2 with
  | none => exact h
  | some more =>
    have hall : words.toList.all Text.isBlank = false := h
    show (more ++ " " ++ words).toList.all Text.isBlank = false
    rw [String.toList_append, List.all_append, hall, Bool.and_false]

/-! ### What the parts of a command are read as -/

/-- A verb, the user whom it is about and words spell an order. -/
inductive Spells : String → Username → Option String → Order → Prop
  | whisper {target : Username} {text : String} : target ≠ "" → Text.isAllBlank text = false →
      Spells privateVerb target (some text) (.whisper target text)
  | block {target : Username} (words : Option String) : target ≠ "" →
      Spells BlockIntent.blockVerb target words (.setBlocked ⟨target, true⟩)
  | unblock {target : Username} (words : Option String) : target ≠ "" →
      Spells BlockIntent.unblockVerb target words (.setBlocked ⟨target, false⟩)

section Spells

variable {verb : String} {target : Username} {words : Option String} {order : Order}

lemma Spells.target? (h : Spells verb target words order) : order.target? = some target := by
  cases h <;> rfl

lemma ofVerb_of_spells (h : Spells verb target words order) : ofVerb verb target words = .ok order := by
  cases h with
  | @whisper _ text htarget htext =>
    have hvisible : (some text).filter (!Text.isAllBlank ·) = some text :=
      Option.filter_eq_some_iff.2 ⟨rfl, by rw [htext]; rfl⟩
    unfold ofVerb
    rw [if_pos rfl, hvisible]
    exact if_neg htarget
  | block _ htarget =>
    unfold ofVerb
    rw [if_neg (by decide), if_pos (Or.inl rfl), if_neg htarget]
    rfl
  | unblock _ htarget =>
    unfold ofVerb
    rw [if_neg (by decide), if_pos (Or.inr rfl), if_neg htarget]
    rfl

lemma ofVerb_cases (verb : String) (target : Username) (words : Option String) :
    (∃ order, Spells verb target words order) ∨
      ∃ refusal, ofVerb verb target words = .error refusal ∧ refusal.status = 400 := by
  unfold ofVerb
  split
  · next hverb =>
    split
    · next text htext =>
      obtain ⟨rfl, hvisible⟩ := Option.filter_eq_some_iff.1 htext
      split
      · exact Or.inr ⟨_, rfl, rfl⟩
      · next htarget =>
        rw [hverb]
        exact Or.inl ⟨_, .whisper htarget (by simpa using hvisible)⟩
    · exact Or.inr ⟨_, rfl, rfl⟩
  · split
    · next hverb =>
      split
      · exact Or.inr ⟨_, rfl, rfl⟩
      · next htarget =>
        rcases hverb with rfl | rfl
        · exact Or.inl ⟨_, .block words htarget⟩
        · exact Or.inl ⟨_, .unblock words htarget⟩
    · exact Or.inr ⟨_, rfl, rfl⟩

lemma spells_of_ofVerb (h : ofVerb verb target words = .ok order) : Spells verb target words order := by
  rcases ofVerb_cases verb target words with ⟨_, hspells⟩ | ⟨_, hrefused, -⟩
  · obtain rfl := Except.ok.inj (h.symm.trans (ofVerb_of_spells hspells))
    exact hspells
  · exact nomatch h.symm.trans hrefused

end Spells

/-! ### What a client writes -/

lemma after?_of_slash {text : String} (hslash : text.toList.head? = some '/') :
    (Text.after? "/" text).isNone = false := by
  rw [Option.isNone_eq_false_iff, Option.isSome_iff_ne_none]
  exact fun hnone => (Text.after?_slash_eq_none_iff text).1 hnone hslash

lemma head?_append_space {verb : String} {c : Char} (hc : c ≠ ' ') (rest : String) :
    (verb ++ " " ++ rest).toList.head? = some c ↔ verb.toList.head? = some c := by
  rw [String.toList_append, String.toList_append]
  cases verb.toList with
  | nil => simp [Ne.symm hc]
  | cons first more => rfl

lemma ofText_of_not_mem {verb : String} (hslash : verb.toList.head? = some '/') (hspace : ' ' ∉ verb.toList) :
    ofText verb = ofVerb verb "" none := by
  unfold ofText
  rw [after?_of_slash hslash, cutAtSpace_of_not_mem hspace]
  rfl

lemma ofText_verb {verb : String} (hslash : verb.toList.head? = some '/') (hspace : ' ' ∉ verb.toList)
    (rest : String) : ofText (verb ++ " " ++ rest) = ofVerb verb (readName rest) (cutAtSpace rest).2 := by
  unfold ofText
  rw [after?_of_slash ((head?_append_space (by decide) rest).2 hslash), cutAtSpace_append hspace]
  rfl

/-- A command on the block list is one on the user that the name is read as. -/
theorem ofText_command (intent : BlockIntent) (hname : readName intent.username ≠ "") :
    ofText intent.command = .ok (.setBlocked ⟨readName intent.username, intent.block⟩) := by
  obtain ⟨username, block⟩ := intent
  unfold BlockIntent.command
  cases block with
  | true =>
    show ofText (BlockIntent.blockVerb ++ " " ++ username) = _
    rw [ofText_verb (by decide) (by decide)]
    exact ofVerb_of_spells (.block _ hname)
  | false =>
    show ofText (BlockIntent.unblockVerb ++ " " ++ username) = _
    rw [ofText_verb (by decide) (by decide)]
    exact ofVerb_of_spells (.unblock _ hname)

/-! ### What a text is read as -/

/-- What a text is read as: a message to everyone, a message for the user whom a name is read as, or a command on that
user. -/
inductive Reads : String → Order → Prop
  | say {text : String} : text.toList.head? ≠ some '/' → Reads text (.say text)
  | whisper {rest words : String} : readName rest ≠ "" → (cutAtSpace rest).2 = some words →
      Text.isAllBlank words = false → Reads (privateVerb ++ " " ++ rest) (.whisper (readName rest) words)
  | setBlocked (intent : BlockIntent) : readName intent.username ≠ "" →
      Reads intent.command (.setBlocked ⟨readName intent.username, intent.block⟩)

lemma ofText_of_reads {text : String} {order : Order} (h : Reads text order) : ofText text = .ok order := by
  cases h with
  | say hplain =>
    unfold ofText
    rw [(Text.after?_slash_eq_none_iff _).2 hplain]
    rfl
  | @whisper rest words hname hcut hwords =>
    rw [ofText_verb (by decide) (by decide), hcut]
    exact ofVerb_of_spells (.whisper hname hwords)
  | setBlocked intent hname => exact ofText_command intent hname

/-- A message for a peer is one for the user that the name is read as. -/
theorem ofText_private {peer words : String} (hpeer : readName peer ≠ "") (hwords : Text.isAllBlank words = false) :
    ofText (privateVerb ++ " " ++ peer ++ " " ++ words) = .ok (.whisper (readName peer) (readWords peer words)) := by
  have hrest : privateVerb ++ " " ++ peer ++ " " ++ words = privateVerb ++ " " ++ (peer ++ " " ++ words) := by
    simp only [String.append_assoc]
  have hcut := cutAtSpace_name peer words
  have hname : readName (peer ++ " " ++ words) = readName peer := by
    unfold readName
    rw [hcut]
  rw [← hname] at hpeer
  rw [hrest, ← hname]
  exact ofText_of_reads (.whisper hpeer (congrArg Prod.snd hcut) (isAllBlank_readWords peer hwords))

/-- What a verb before a name and words asks for is what the text is read as. -/
lemma reads_of_spells {verb rest : String} {order : Order}
    (h : Spells verb (readName rest) (cutAtSpace rest).2 order) : Reads (verb ++ " " ++ rest) order := by
  generalize hcut : (cutAtSpace rest).2 = words at h
  cases h with
  | whisper hname hwords => exact .whisper hname hcut hwords
  | block _ hname => exact .setBlocked ⟨rest, true⟩ hname
  | unblock _ hname => exact .setBlocked ⟨rest, false⟩ hname

theorem ofText_eq_ok_iff {text : String} {order : Order} : ofText text = .ok order ↔ Reads text order := by
  refine ⟨fun h => ?_, ofText_of_reads⟩
  by_cases hplain : text.toList.head? = some '/'
  · by_cases hspace : ' ' ∈ text.toList
    · obtain ⟨verb, rest, rfl, hverb⟩ := exists_of_space_mem hspace
      rw [ofText_verb ((head?_append_space (by decide) rest).1 hplain) hverb] at h
      exact reads_of_spells (spells_of_ofVerb h)
    · -- a verb alone names nobody
      rw [ofText_of_not_mem hplain hspace] at h
      cases spells_of_ofVerb h with
      | block _ hname | unblock _ hname => exact absurd rfl hname
  · have hsay := ofText_of_reads (Reads.say hplain)
    obtain rfl := Except.ok.inj (hsay.symm.trans h)
    exact .say hplain

end Order

namespace Peer

variable {p : Peer} {now : Timestamp} {text : String} {order : Order} {target : Username}

/-! ### Orders that name a user -/

lemma submit_cases (horder : Order.ofText text = .ok order) (htarget : order.target? = some target) :
    (target ∈ p.online ∧ p.submit now text = .ok (p.carryOut now order)) ∨
      (target ∉ p.online ∧ p.submit now text = .error (.notOnline target)) := by
  unfold submit
  by_cases honline : target ∈ p.online
  · have hpresent : (some target).filter (!p.online.contains ·) = none := by simp [honline]
    refine Or.inl ⟨honline, ?_⟩
    simp only [horder, htarget, hpresent, bind, Except.bind, pure, Except.pure]
  · have hcontains : p.online.contains target = false := Bool.eq_false_iff.2 (mt NameSet.contains_iff.1 honline)
    have hmissing : (some target).filter (!p.online.contains ·) = some target := by simp [hcontains]
    refine Or.inr ⟨honline, ?_⟩
    simp only [horder, htarget, hmissing, bind, Except.bind]
    rfl

/-- The texts that are not refused are those that are read as an order on nobody, or on a user who is online. -/
theorem submit_eq_ok_iff {q : Peer} : p.submit now text = .ok q ↔
    ∃ order, Order.Reads text order ∧ (∀ target, order.target? = some target → target ∈ p.online) ∧
      q = p.carryOut now order := by
  have hcarried : ∀ {order : Order}, Order.ofText text = .ok order →
      (∀ target, order.target? = some target → target ∈ p.online) → p.submit now text = .ok (p.carryOut now order) := by
    intro order horder honline
    cases htarget : order.target? with
    | none => simp only [submit, horder, htarget, Option.filter_none, bind, Except.bind, pure, Except.pure]
    | some target =>
      have hcases : (target ∈ p.online ∧ p.submit now text = .ok (p.carryOut now order)) ∨ target ∉ p.online ∧ _ :=
        submit_cases horder htarget
      exact (hcases.resolve_right fun habsent => habsent.1 (honline target htarget)).2
  constructor
  · intro h
    cases horder : Order.ofText text with
    | error refusal => simp [submit, horder, bind, Except.bind] at h
    | ok order =>
      have honline : ∀ target, order.target? = some target → target ∈ p.online := by
        intro target htarget
        have hcases : (target ∈ p.online ∧ _) ∨ target ∉ p.online ∧ p.submit now text = .error (.notOnline target) :=
          submit_cases horder htarget
        exact (hcases.resolve_right fun hrefused => nomatch hrefused.2.symm.trans h).1
      exact ⟨order, Order.ofText_eq_ok_iff.1 horder, honline, Except.ok.inj (h.symm.trans (hcarried horder honline))⟩
  · rintro ⟨order, hreads, honline, rfl⟩
    exact hcarried (Order.ofText_eq_ok_iff.2 hreads) honline

/-- A command on the block list changes the place of the user that it names, and of nobody else. -/
lemma mem_blocked_carryOut (p : Peer) (now : Timestamp) (intent : BlockIntent) (username : Username) :
    username ∈ (p.carryOut now (.setBlocked intent)).blocked ↔
      if username = intent.username then intent.block = true else username ∈ p.blocked := by
  obtain ⟨name, block⟩ := intent
  cases block with
  | true =>
    show username ∈ p.blocked.insert name ↔ if username = name then true = true else username ∈ p.blocked
    by_cases h : username = name <;> simp [h]
  | false =>
    show username ∈ p.blocked.erase name ↔ if username = name then false = true else username ∈ p.blocked
    by_cases h : username = name <;> simp [h]

lemma does_submit_of_error {refusal : Refusal} (h : p.submit now text = .error refusal) :
    p.does (.submit now text) = p := by
  show (p.submit now text).toOption.getD p = p
  rw [h]
  rfl

/-! ### Messages that are recorded -/

/-- One message joins the log. Only the oldest messages are forgotten, as many as do not fit, and nothing else
changes. -/
structure Records (m : WireMessage) (before after : Peer) : Prop where
  joins : ∃ forgotten kept, before.log = forgotten ++ kept ∧ after.log = kept ++ [m] ∧
    forgotten.length = before.log.length + 1 - logCap
  rest : after = { before with log := after.log }

lemma records_record (p : Peer) (m : WireMessage) : Records m p (p.record m) where
  joins := by
    have hexcess : p.log.length + 1 - logCap ≤ p.log.length := by
      have hcap : 0 < logCap := by decide
      omega
    refine ⟨p.log.take (p.log.length + 1 - logCap), p.log.drop (p.log.length + 1 - logCap), ?_, ?_, ?_⟩
    · rw [List.take_append_drop]
    · show (p.log ++ [m]).drop ((p.log ++ [m]).length - logCap) = _
      rw [List.length_append, List.length_singleton, List.drop_append_of_le_length hexcess]
    · rw [List.length_take, Nat.min_eq_left hexcess]
  rest := rfl

namespace Records

variable {m m' : WireMessage} {before after : Peer}

lemma unique (h : Records m before after) (h' : Records m' before after) : m = m' := by
  obtain ⟨_, kept, -, hlog, -⟩ := h.joins
  obtain ⟨_, kept', -, hlog', -⟩ := h'.joins
  have hlast : kept ++ [m] = kept' ++ [m'] := hlog.symm.trans hlog'
  exact List.singleton_inj.1 (List.append_inj' hlast rfl).2

lemma log_of_lt (h : Records m before after) (hcap : before.log.length < logCap) : after.log = before.log ++ [m] := by
  obtain ⟨forgotten, kept, hbefore, hafter, hlength⟩ := h.joins
  have hnone : forgotten = [] := List.eq_nil_of_length_eq_zero (by omega)
  rw [hafter, hbefore, hnone, List.nil_append]

lemma log_of_full (h : Records m before after) (hcap : before.log.length = logCap) :
    after.log = before.log.tail ++ [m] := by
  obtain ⟨forgotten, kept, hbefore, hafter, hlength⟩ := h.joins
  obtain ⟨oldest, rfl⟩ : ∃ oldest, forgotten = [oldest] := List.length_eq_one_iff.1 (by omega)
  rw [hafter, hbefore]
  rfl

end Records

end Peer

end PeerChat
