import Mathlib.Data.List.DropRight
import PeerChat.Peer.Routes
import PeerChat.Proofs.Peer.Orders

/-!
The grammar of the texts that the user of a peer submits. A text without a slash at its start is a message to everyone;
any other is to be a command, made of a verb, the name of a user and words, with one space between them.

* `exists_parts`: every text has its parts;
* `ofText_of_parts`: what a text with a slash at its start is read as depends on its parts alone;
* `heeds_of_parts`: which commands are carried out, what they change, and how all others are refused;
* `governed_submission`: the whole grammar.
-/

namespace PeerChat

open Calendar (Timestamp)

namespace Order

/-! ### The parts of a text -/

/-- A text in parts: what stands before its first space, what stands between that and the second one, and what stands
behind the second one. -/
inductive Parts : String → String → Option String → Option String → Prop
  | verb {verb : String} : ' ' ∉ verb.toList → Parts verb verb none none
  | name {verb name : String} : ' ' ∉ verb.toList → ' ' ∉ name.toList →
      Parts (verb ++ " " ++ name) verb (some name) none
  | words {verb name : String} (words : String) : ' ' ∉ verb.toList → ' ' ∉ name.toList →
      Parts (verb ++ " " ++ name ++ " " ++ words) verb (some name) (some words)

/-- The user whom the second part of a text names; nobody if there is none. -/
def named (name : Option String) : Username := Text.trim (name.getD "")

lemma exists_parts (text : String) : ∃ verb name words, Parts text verb name words := by
  by_cases hspace : ' ' ∈ text.toList
  · obtain ⟨verb, rest, rfl, hverb⟩ := exists_of_space_mem hspace
    -- only the first two spaces cut, so the words keep all of theirs
    by_cases hrest : ' ' ∈ rest.toList
    · obtain ⟨name, words, rfl, hname⟩ := exists_of_space_mem hrest
      have htext : verb ++ " " ++ (name ++ " " ++ words) = verb ++ " " ++ name ++ " " ++ words := by
        simp only [String.append_assoc]
      rw [htext]
      exact ⟨verb, some name, some words, .words words hverb hname⟩
    · exact ⟨verb, some rest, none, .name hverb hrest⟩
  · exact ⟨text, none, none, .verb hspace⟩

/-- What a text with a slash at its start is read as depends on its parts alone. -/
theorem ofText_of_parts {text verb : String} {name words : Option String} (hslash : text.toList.head? = some '/')
    (hparts : Parts text verb name words) : ofText text = ofVerb verb (named name) words := by
  cases hparts with
  | verb hverb => exact ofText_of_not_mem hslash hverb
  | @name _ name hverb hname =>
    rw [ofText_verb ((head?_append_space (by decide) name).1 hslash) hverb, readName_of_not_mem hname,
      cutAtSpace_of_not_mem hname]
    rfl
  | @words _ name words hverb hname =>
    have htext : verb ++ " " ++ name ++ " " ++ words = verb ++ " " ++ (name ++ " " ++ words) := by
      simp only [String.append_assoc]
    rw [htext] at hslash ⊢
    rw [ofText_verb ((head?_append_space (by decide) _).1 hslash) hverb]
    unfold readName
    rw [cutAtSpace_append hname]
    rfl

/-! ### Commands -/

/-- The parts make a command: the verb is known, a user is named, and a message has words that are not all blank. -/
def IsCommand (verb : String) (target : Username) (words : Option String) : Prop :=
  target ≠ "" ∧ ((verb = privateVerb ∧ ∃ text, words = some text ∧ Text.isAllBlank text = false) ∨
    verb = BlockIntent.blockVerb ∨ verb = BlockIntent.unblockVerb)

lemma isCommand_iff {verb : String} {target : Username} {words : Option String} :
    IsCommand verb target words ↔ ∃ order, Spells verb target words order := by
  constructor
  · rintro ⟨htarget, ⟨rfl, text, rfl, htext⟩ | rfl | rfl⟩
    · exact ⟨_, .whisper htarget htext⟩
    · exact ⟨_, .block words htarget⟩
    · exact ⟨_, .unblock words htarget⟩
  · rintro ⟨_, hspells⟩
    cases hspells with
    | whisper htarget htext => exact ⟨htarget, Or.inl ⟨rfl, _, rfl, htext⟩⟩
    | block _ htarget => exact ⟨htarget, Or.inr (Or.inl rfl)⟩
    | unblock _ htarget => exact ⟨htarget, Or.inr (Or.inr rfl)⟩

end Order

namespace Peer

open PeerChat.Order (IsCommand Parts Spells named)

/-- The reply to a text of the user, and the peer after it. -/
def submitted (p : Peer) (now : Timestamp) (text : String) : Http.Reply × Peer := p.concluded (p.submit now text)

/-- The peer with one more message in its log, of which only the end is kept. -/
def logging (p : Peer) (m : WireMessage) : Peer := { p with log := (p.log ++ [m]).rtake logCap }

/-! ### What becomes of a command -/

/-- What becomes of a text whose parts are a verb, the name of a user and words. -/
structure Heeds (p : Peer) (now : Timestamp) (verb : String) (target : Username) (words : Option String)
    (reply : Http.Reply) (q : Peer) : Prop where
  /-- It is carried out exactly if the parts make a command and the user is online. -/
  taken_iff : reply.status = 200 ↔ IsCommand verb target words ∧ target ∈ p.online
  /-- If nothing but the user is missing, he is reported not to be found, -/
  absent_iff : reply.status = 404 ↔ IsCommand verb target words ∧ target ∉ p.online
  /-- and all else is a bad request. -/
  senseless_iff : reply.status = 400 ↔ ¬IsCommand verb target words
  /-- What is refused changes nothing. -/
  unchanged : reply.status ≠ 200 → q = p
  /-- A message to one user is recorded with its words as they are, and nothing else changes. -/
  whispered : reply.status = 200 → verb = privateVerb →
    ∃ text, words = some text ∧ q = p.logging ⟨p.name, target, text, now, true, true⟩
  /-- A user who is blocked joins the block list, and nothing else changes. -/
  blocked : reply.status = 200 → verb = BlockIntent.blockVerb →
    q = { p with blocked := q.blocked } ∧ ∀ u, u ∈ q.blocked ↔ u = target ∨ u ∈ p.blocked
  /-- A user who is unblocked leaves the block list, and nothing else changes. -/
  unblocked : reply.status = 200 → verb = BlockIntent.unblockVerb →
    q = { p with blocked := q.blocked } ∧ ∀ u, u ∈ q.blocked ↔ u ∈ p.blocked ∧ u ≠ target

section Command

variable {p : Peer} {now : Timestamp} {text verb : String} {target : Username} {name words : Option String}

lemma heeds_of_online {order : Order} (hspells : Spells verb target words order) (honline : target ∈ p.online) :
    Heeds p now verb target words (.bare 200) (p.carryOut now order) where
  taken_iff := iff_of_true rfl ⟨Order.isCommand_iff.2 ⟨order, hspells⟩, honline⟩
  absent_iff := iff_of_false (by decide) fun habsent => habsent.2 honline
  senseless_iff := iff_of_false (by decide) fun hnone => hnone (Order.isCommand_iff.2 ⟨order, hspells⟩)
  unchanged hrefused := absurd rfl hrefused
  whispered _ hverb := by
    cases hspells with
    | whisper => exact ⟨_, rfl, rfl⟩
    | block | unblock => exact absurd hverb (by decide)
  blocked _ hverb := by
    cases hspells with
    | block => exact ⟨rfl, fun _ => NameSet.mem_insert⟩
    | whisper | unblock => exact absurd hverb (by decide)
  unblocked _ hverb := by
    cases hspells with
    | unblock => exact ⟨rfl, fun _ => NameSet.mem_erase⟩
    | whisper | block => exact absurd hverb (by decide)

lemma heeds_of_refused {refusal : Refusal} (hstatus : refusal.status = 404 ∨ refusal.status = 400)
    (habsent : refusal.status = 404 ↔ IsCommand verb target words ∧ target ∉ p.online)
    (hsenseless : refusal.status = 400 ↔ ¬IsCommand verb target words) :
    Heeds p now verb target words (refused refusal) p := by
  have hrefused : (refused refusal).status ≠ 200 := by
    show refusal.status ≠ 200
    omega
  constructor
  case taken_iff =>
    refine iff_of_false hrefused ?_
    rintro ⟨hcommand, honline⟩
    rcases hstatus with hstatus | hstatus
    · exact (habsent.1 hstatus).2 honline
    · exact hsenseless.1 hstatus hcommand
  case absent_iff => exact habsent
  case senseless_iff => exact hsenseless
  case unchanged => exact fun _ => rfl
  case whispered | blocked | unblocked => exact fun htaken => absurd htaken hrefused

theorem heeds_of_parts (hslash : text.toList.head? = some '/') (hparts : Parts text verb name words) :
    Heeds p now verb (named name) words (p.submitted now text).1 (p.submitted now text).2 := by
  have hread := Order.ofText_of_parts hslash hparts
  unfold submitted
  rcases Order.ofVerb_cases verb (named name) words with ⟨order, hspells⟩ | ⟨refusal, hsenseless, hstatus⟩
  · have hcommand : IsCommand verb (named name) words := Order.isCommand_iff.2 ⟨order, hspells⟩
    have horder : Order.ofText text = .ok order := hread.trans (Order.ofVerb_of_spells hspells)
    rcases submit_cases horder hspells.target? with ⟨honline, hsubmit⟩ | ⟨habsent, hsubmit⟩
    · rw [hsubmit]
      exact heeds_of_online hspells honline
    · have hstatus : (Refusal.notOnline (named name)).status = 404 := rfl
      rw [hsubmit]
      exact heeds_of_refused (.inl hstatus) (by simp [hstatus, hcommand, habsent]) (by simp [hstatus, hcommand])
  · have hsubmit : p.submit now text = .error refusal := by
      unfold submit
      rw [hread, hsenseless]
      rfl
    have hnone : ¬IsCommand verb (named name) words := by
      rw [Order.isCommand_iff]
      rintro ⟨order, hspells⟩
      exact nomatch hsenseless.symm.trans (Order.ofVerb_of_spells hspells)
    rw [hsubmit]
    exact heeds_of_refused (.inr hstatus) (by simp [hstatus, hnone]) (by simp [hstatus, hnone])

end Command

/-! ### Everything together -/

/-- What becomes of a text that the user submits. -/
structure Governed (p : Peer) (now : Timestamp) (text : String) : Prop where
  /-- A text without a slash at its start is recorded as it is, as a message to everyone. -/
  said : text.toList.head? ≠ some '/' →
    p.submitted now text = (.bare 200, p.logging ⟨p.name, Message.everyone, text, now, true, false⟩)
  parted : ∃ verb name words, Parts text verb name words
  /-- Any other is heeded by its parts. -/
  heeded : text.toList.head? = some '/' → ∀ verb name words, Parts text verb name words →
    Heeds p now verb (named name) words (p.submitted now text).1 (p.submitted now text).2

/-- **A peer takes exactly the texts of its grammar.** Whatever the text and whatever the peer, a message is recorded
as it was written, a command changes what it names and nothing else, and a refused text changes nothing. -/
theorem governed_submission (p : Peer) (now : Timestamp) (text : String) : Governed p now text where
  said hplain := by
    unfold submitted
    rw [submit_eq_ok_iff.2 ⟨_, .say hplain, nofun, rfl⟩]
    rfl
  parted := Order.exists_parts text
  heeded hslash _ _ _ hparts := heeds_of_parts hslash hparts

end Peer

end PeerChat
