import PeerChat.Console.Line
import PeerChat.Proofs.Peer.Orders
import PeerChat.Proofs.Session.Run

/-!
Plain text, from the console to the log of the peer: a line that does not begin with a slash, written while the client
looks at the room of everyone. The console does not look behind blanks at the start of the line, the session takes the
blanks at both ends away, and the peer tells an order from a message by the first character that is left.

* `posts_of_plain`, `obeys_of_slash`: what a peer makes of a text, by the first character of it;
* `requests_of_plain`: what a session makes of the line;
* `delivered_of_plain`: the line leaves, trimmed, and is posted exactly if it does not begin with a slash once it is
  trimmed; if it does, it is obeyed.
-/

namespace PeerChat

open Calendar (Timestamp)

/-! ### The peer -/

namespace Peer

/-- A text of the user joins the log as a message to everyone. Nothing is forgotten but the oldest messages, of a log
that is full, and nothing else changes. -/
structure Posts (now : Timestamp) (text : String) (before after : Peer) : Prop where
  joins : ∃ forgotten, forgotten ++ after.log = before.log ++ [⟨before.name, Message.everyone, text, now, true, false⟩]
  length : after.log.length = min (before.log.length + 1) logCap
  name : after.name = before.name
  online : after.online = before.online
  blocked : after.blocked = before.blocked
  transfers : after.transfers = before.transfers
  nextOffer : after.nextOffer = before.nextOffer

/-- The peer has carried out an order that names a user who is online. -/
def Obeys (now : Timestamp) (before after : Peer) : Prop :=
  ∃ (order : Order) (target : Username),
    order.target? = some target ∧ target ∈ before.online ∧ after = before.carryOut now order

variable {p : Peer} {now : Timestamp} {text : String}

lemma posts_say (p : Peer) (now : Timestamp) (text : String) : Posts now text p (p.carryOut now (.say text)) where
  joins := ⟨_, List.take_append_drop _ _⟩
  length := length_log_record p _
  name := rfl
  online := rfl
  blocked := rfl
  transfers := rfl
  nextOffer := rfl

/-- A text without a slash at its start is posted. -/
theorem posts_of_plain (p : Peer) (now : Timestamp) (hplain : text.toList.head? ≠ some '/') :
    ∃ q, p.submit now text = .ok q ∧ Posts now text p q := by
  have hsubmit : p.submit now text = .ok (p.carryOut now (.say text)) :=
    submit_eq_ok_iff.2 ⟨.say text, .say hplain, nofun, rfl⟩
  exact ⟨_, hsubmit, posts_say p now text⟩

/-- A text with a slash at its start is never posted: it is refused, or obeyed. -/
theorem obeys_of_slash {q : Peer} (hslash : text.toList.head? = some '/') (h : p.submit now text = .ok q) :
    Obeys now p q := by
  obtain ⟨order, hreads, honline, rfl⟩ := submit_eq_ok_iff.1 h
  cases hreads with
  | say hplain => exact absurd hslash hplain
  | whisper | setBlocked => exact ⟨_, _, rfl, honline _ rfl, rfl⟩

end Peer

/-! ### The session -/

namespace Console

/-- The first character of a line that is not blank. -/
def firstVisible (line : String) : Option Char := line.toList.find? fun c => !Text.isBlank c

lemma toList_withoutLineEnd (line : String) :
    (withoutLineEnd line).toList = Text.dropTrailing (fun c => c == '\r' || c == '\n') line.toList :=
  String.toList_ofList

lemma isBlank_of_isLineEnd (c : Char) (hc : (c == '\r' || c == '\n') = true) : Text.isBlank c = true := by
  rcases Bool.or_eq_true_iff.1 hc with hc | hc
  · rw [eq_of_beq hc]; rfl
  · rw [eq_of_beq hc]; rfl

lemma trim_withoutLineEnd (line : String) : Text.trim (withoutLineEnd line) = Text.trim line := by
  unfold Text.trim
  rw [toList_withoutLineEnd, Text.trimChars_dropTrailing isBlank_of_isLineEnd]

lemma isAllBlank_withoutLineEnd (line : String) : Text.isAllBlank (withoutLineEnd line) = Text.isAllBlank line := by
  unfold Text.isAllBlank
  rw [Bool.eq_iff_iff, ← Text.trimChars_eq_nil_iff, ← Text.trimChars_eq_nil_iff, toList_withoutLineEnd,
    Text.trimChars_dropTrailing isBlank_of_isLineEnd]

lemma begins_withoutLineEnd (line : String) : (withoutLineEnd line).toList <+: line.toList := by
  rw [toList_withoutLineEnd]
  exact List.rdropWhile_prefix _ _

lemma head?_withoutLineEnd {line : String} (hplain : line.toList.head? ≠ some '/') :
    (withoutLineEnd line).toList.head? ≠ some '/' := by
  intro hslash
  have hne : (withoutLineEnd line).toList ≠ [] := by
    intro hnil
    rw [hnil] at hslash
    exact nomatch hslash
  have hhead : (withoutLineEnd line).toList.head? = line.toList.head? :=
    Text.head?_of_begins (begins_withoutLineEnd line) hne
  exact hplain (hhead ▸ hslash)

lemma readLine_of_plain {line : String} (hvisible : Text.isAllBlank line = false)
    (hplain : line.toList.head? ≠ some '/') :
    readLine line = .ok (.commands [.updateDraft (withoutLineEnd line), .submitDraft]) := by
  unfold readLine
  simp only [isAllBlank_withoutLineEnd, hvisible, (Text.after?_slash_eq_none_iff _).2 (head?_withoutLineEnd hplain)]
  rfl

/-- The session asks for one thing: that the trimmed line is sent. -/
theorem requests_of_plain {line : String} (hvisible : Text.isAllBlank line = false) {s : Session}
    (hroom : s.conversation = .everyone) :
    (s.run [.command (.updateDraft (withoutLineEnd line)), .command .submitDraft]).requests =
      [.sendText (Text.trim line) .compose] := by
  have hgate : gate .everyone s.store.blocked (.text (withoutLineEnd line)) = .ok (Text.trim line) := by
    unfold gate Content.fault?
    simp only [isAllBlank_withoutLineEnd, hvisible]
    exact congrArg Except.ok (trim_withoutLineEnd line)
  simp only [Session.run, List.foldl_cons, List.foldl_nil, Session.next, Session.turn, Session.command, Draft.set,
    List.nil_append]
  unfold Session.send
  simp only [hroom, hgate]

/-! ### From the line to the log -/

/-- What becomes of a line of plain text that is written in the room of everyone and reaches the peer at a time. -/
structure Delivered (now : Timestamp) (line : String) : Prop where
  /-- Whatever the session holds, it asks for one thing: that the trimmed line is sent. -/
  leaves : ∃ commands, readLine line = .ok (.commands commands) ∧ ∀ s : Session, s.conversation = .everyone →
    (s.run (commands.map .command)).requests = [.sendText (Text.trim line) .compose]
  /-- Whatever the peer holds, it posts the text; unless a slash comes first after the blanks. -/
  posted_iff : (∀ p : Peer, ∃ q, p.submit now (Text.trim line) = .ok q ∧ Peer.Posts now (Text.trim line) p q) ↔
    firstVisible line ≠ some '/'
  /-- With a slash after the blanks, all that the peer can take it for is an order. -/
  obeyed : firstVisible line = some '/' →
    ∀ p q : Peer, p.submit now (Text.trim line) = .ok q → Peer.Obeys now p q

lemma head?_trim (line : String) : (Text.trim line).toList.head? = firstVisible line := by
  rw [Text.toList_trim, Text.head?_trimChars]
  rfl

/-- **Plain text is posted, trimmed, exactly if no slash comes first after the blanks.** -/
theorem delivered_of_plain (now : Timestamp) {line : String} (hvisible : Text.isAllBlank line = false)
    (hplain : line.toList.head? ≠ some '/') : Delivered now line where
  leaves := ⟨_, readLine_of_plain hvisible hplain, fun _ hroom => requests_of_plain hvisible hroom⟩
  posted_iff := by
    constructor
    · intro hposts hslash
      -- a peer that has nobody online takes no order
      obtain ⟨q, hq, -⟩ := hposts (Peer.start "")
      obtain ⟨_, target, -, honline, -⟩ := Peer.obeys_of_slash ((head?_trim line).trans hslash) hq
      exact NameSet.not_mem_empty target honline
    · intro hfirst p
      exact Peer.posts_of_plain p now (by rwa [head?_trim])
  obeyed := by
    intro hslash p q hq
    exact Peer.obeys_of_slash ((head?_trim line).trans hslash) hq

/-- An indented line with a slash in it and a line end after it is posted. -/
theorem delivered_of_indented_words :
    ∃ now line, Text.isAllBlank line = false ∧ line.toList.head? ≠ some '/' ∧ firstVisible line = some 'a' ∧
      Delivered now line := by
  let noon : Timestamp := ⟨⟨2025, 3, 1, by decide, by decide, by decide⟩, 12, 0, 0, 0, by decide, by decide,
    by decide, by decide⟩
  have hvisible : Text.isAllBlank "  and /block bob\r\n" = false := by decide +kernel
  have hplain : "  and /block bob\r\n".toList.head? ≠ some '/' := by decide +kernel
  exact ⟨noon, _, hvisible, hplain, by decide +kernel, delivered_of_plain noon hvisible hplain⟩

/-- An indented verb is text to the console and an order to the peer: it blocks a user and posts nothing. -/
theorem indented_verb_is_obeyed :
    ¬∀ (line : String) (s : Session) (p : Peer) (now : Timestamp), Text.isAllBlank line = false →
      line.toList.head? ≠ some '/' → s.conversation = .everyone →
        ∃ commands text q, readLine line = .ok (.commands commands) ∧
          (s.run (commands.map .command)).requests = [.sendText text .compose] ∧
            p.submit now text = .ok q ∧ Peer.Posts now (Text.trim line) p q := by
  intro h
  let noon : Timestamp := ⟨⟨2025, 3, 1, by decide, by decide, by decide⟩, 12, 0, 0, 0, by decide, by decide,
    by decide, by decide⟩
  let p : Peer := (Peer.start "alice").join "bob"
  obtain ⟨commands, text, q, hread, hrequests, hq, hposts⟩ :=
    h " /block bob" .empty p noon (by decide +kernel) (by decide +kernel) rfl
  have hcommands : readLine " /block bob" = .ok (.commands [.updateDraft " /block bob", .submitDraft]) := by
    decide +kernel
  have hsent : (Session.empty.run [.command (.updateDraft " /block bob"), .command .submitDraft]).requests =
      [.sendText "/block bob" .compose] := by
    decide +kernel
  have hobeyed : (p.submit noon "/block bob").map Peer.blocked = .ok (NameSet.ofList ["bob"]) := by
    decide +kernel
  rw [hcommands] at hread
  cases hread
  have htext : text = "/block bob" := by simpa using hrequests.symm.trans hsent
  rw [← htext, hq] at hobeyed
  have hblocked : q.blocked = NameSet.ofList ["bob"] := Except.ok.inj hobeyed
  rw [hposts.blocked] at hblocked
  exact absurd hblocked (by decide +kernel)

end Console

end PeerChat
