import Mathlib.Data.List.Basic
import Mathlib.Tactic.Lemma
import PeerChat.Conversation

/-!
How the conversations of a user part the message log. Each message is at home in one conversation at most: in the room
of everyone, or in the thread with the one at its other end, who may be the user himself.

* `holds_iff_home?`: a conversation holds just the messages that are at home in it;
* `view_none_sublist`: while the name of the user is not known, a thread shows a part of what it will show;
* `views_part_log`: what is seen of a log, where and how often.
-/

namespace PeerChat

/-- The conversation in which the user called `self` sees a message; none for a private message between others. -/
def Message.home? (self : Username) (m : Message) : Option Conversation :=
  match m.recipient with
  | none => some .everyone
  | some recipient =>
    if m.sender = self then some (.withPeer recipient)
    else if recipient = self then some (.withPeer m.sender)
    else none

/-- The flag of its own messages agrees with the name of the user. -/
def OwnsAs (self : Username) (log : List Message) : Prop := ∀ m ∈ log, m.isOwn = true ↔ m.sender = self

namespace Conversation

variable {self : Username} {log : List Message} {m : Message}

/-! ### Where messages are at home -/

/-- A conversation holds the messages that are at home in it. -/
theorem holds_iff_home? (conversation : Conversation) (hown : m.isOwn = true ↔ m.sender = self) :
    conversation.holds (some self) m = true ↔ m.home? self = some conversation := by
  unfold holds Message.home? Message.isPrivate
  cases conversation with
  | everyone =>
    cases m.recipient with
    | none => simp
    | some recipient =>
      -- a private message is at home in a thread, if anywhere
      dsimp only
      split_ifs <;> simp
  | withPeer peer =>
    cases m.recipient with
    | none => simp
    | some recipient =>
      simp only [Bool.or_eq_true, Bool.and_eq_true, beq_iff_eq, Option.some.injEq, hown]
      by_cases hsender : m.sender = self
      · rw [if_pos hsender, Option.some.injEq, withPeer.injEq]
        constructor
        · rintro (⟨hpeer, hself⟩ | ⟨-, hrecipient⟩)
          · rw [← hself, ← hpeer, hsender]
          · exact hrecipient
        · exact fun hrecipient => Or.inr ⟨hsender, hrecipient⟩
      · rw [if_neg hsender]
        by_cases hrecipient : recipient = self
        · simp [hsender, hrecipient]
        · simp [hsender, hrecipient, Ne.symm hrecipient]

lemma mem_view_iff (hlog : OwnsAs self log) (hm : m ∈ log) (conversation : Conversation) :
    m ∈ conversation.view (some self) log ↔ m.home? self = some conversation := by
  unfold view
  rw [List.mem_filter, holds_iff_home? conversation (hlog m hm)]
  exact and_iff_right hm

/-- While the name of the user is not known, what the peer of a thread sent is left out of it, and nothing else. -/
theorem view_none_sublist (peer self : Username) (log : List Message) :
    ((withPeer peer).view none log).Sublist ((withPeer peer).view (some self) log) := by
  refine List.monotone_filter_right log fun m hm => ?_
  unfold holds at hm ⊢
  cases hrecipient : m.recipient with
  | none => rw [hrecipient] at hm; exact nomatch hm
  | some recipient =>
    rw [hrecipient] at hm
    have hsent : (m.isOwn && recipient == peer) = true := by simpa using hm
    simp [hsent]

/-! ### What is seen of a log -/

/-- What a view keeps of any log, be the name of the user known or not. -/
structure Sifts (log : List Message) : Prop where
  /-- The messages of a view stand in it as they stand in the log. -/
  sublist (conversation : Conversation) (known : Option Username) : (conversation.view known log).Sublist log
  /-- A message that is seen is seen as often as it stands in the log. -/
  count (conversation : Conversation) (known : Option Username) (m : Message) :
    m ∈ conversation.view known log → (conversation.view known log).count m = log.count m
  /-- The view of a view is the view. -/
  again (conversation : Conversation) (known : Option Username) :
    conversation.view known (conversation.view known log) = conversation.view known log
  /-- A thread shows no more while the name of the user is not known. -/
  unknown (peer self : Username) :
    ((withPeer peer).view none log).Sublist ((withPeer peer).view (some self) log)

/-- Where the user called `self` sees the messages of a log. -/
structure Parts (self : Username) (log : List Message) : Prop where
  /-- A message for everyone is seen in the room of everyone and in no thread. -/
  forEveryone (m : Message) (conversation : Conversation) : m ∈ log → m.isPrivate = false →
    (m ∈ conversation.view (some self) log ↔ conversation = .everyone)
  /-- A private message that the user sent is seen in the thread with its recipient and nowhere else. -/
  sent (m : Message) (recipient : Username) (conversation : Conversation) : m ∈ log → m.recipient = some recipient →
    m.sender = self → (m ∈ conversation.view (some self) log ↔ conversation = .withPeer recipient)
  /-- A private message that someone else sent to the user is seen in the thread with its sender and nowhere else. -/
  received (m : Message) (conversation : Conversation) : m ∈ log → m.recipient = some self → m.sender ≠ self →
    (m ∈ conversation.view (some self) log ↔ conversation = .withPeer m.sender)
  /-- A private message between others is seen nowhere. -/
  betweenOthers (m : Message) (recipient : Username) (conversation : Conversation) : m ∈ log →
    m.recipient = some recipient → m.sender ≠ self → recipient ≠ self → m ∉ conversation.view (some self) log

lemma sifts (log : List Message) : Sifts log where
  sublist _ _ := List.filter_sublist
  count _ _ _ hm := List.count_filter (List.mem_filter.1 hm).2
  again conversation known := by
    unfold view
    rw [List.filter_filter]
    simp only [Bool.and_self]
  unknown peer self := view_none_sublist peer self log

lemma parts_of_ownsAs (hlog : OwnsAs self log) : Parts self log where
  forEveryone m conversation hm hpublic := by
    have hnone : m.recipient = none := by simpa [Message.isPrivate] using hpublic
    rw [mem_view_iff hlog hm, Message.home?, hnone, Option.some.injEq]
    exact eq_comm
  sent m recipient conversation hm hrecipient hsender := by
    rw [mem_view_iff hlog hm, Message.home?, hrecipient]
    dsimp only
    rw [if_pos hsender, Option.some.injEq]
    exact eq_comm
  received m conversation hm hrecipient hsender := by
    rw [mem_view_iff hlog hm, Message.home?, hrecipient]
    dsimp only
    rw [if_neg hsender, if_pos rfl, Option.some.injEq]
    exact eq_comm
  betweenOthers m recipient conversation hm hrecipient hsender hother := by
    rw [mem_view_iff hlog hm, Message.home?, hrecipient]
    dsimp only
    rw [if_neg hsender, if_neg hother]
    exact nofun

/-- **The conversations of a user part the log.** Each message for everyone is seen in the room of everyone, each
private message that he sent or got in one thread, all others nowhere; and a view shows its part of the log as it is. -/
theorem views_part_log (self : Username) (log : List Message) :
    Sifts log ∧ (OwnsAs self log → Parts self log) :=
  ⟨sifts log, parts_of_ownsAs⟩

/-- A log with messages of all kinds, one of them twice and one of the user to himself. -/
theorem views_part_mixed_log :
    ∃ log : List Message, log.length = 7 ∧ OwnsAs "alice" log ∧ Sifts log ∧ Parts "alice" log := by
  let message (sender : Username) (recipient : Option Username) (words : String) : Message :=
    ⟨sender, recipient, .text words, .epoch, sender == "alice"⟩
  let log : List Message :=
    [message "bob" none "hi all", message "alice" (some "bob") "hi", message "bob" (some "alice") "hello",
      message "alice" (some "bob") "hi", message "alice" (some "alice") "note", message "bob" (some "carol") "psst",
      message "alice" none "bye"]
  have howns : OwnsAs "alice" log := by
    unfold OwnsAs
    decide
  exact ⟨log, rfl, howns, (views_part_log "alice" log).1, (views_part_log "alice" log).2 howns⟩

end Conversation

end PeerChat
