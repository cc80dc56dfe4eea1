import Mathlib.Data.List.Induction
import PeerChat.Console.Printer
import PeerChat.Proofs.Session.Frame

/-!
The transcript: all lines that the printer has printed of a list of events. Of the current conversation the reader sees
the message lines below the last header; what stands there is said here event by event.
-/

namespace PeerChat.Console

open Calendar (Zone)

variable {zone : Zone}

/-! ### Kinds of lines -/

/-- The line stands above the messages of a conversation. -/
def isHeader (line : String) : Bool := "== ".toList.isPrefixOf line.toList

def isMessage (line : String) : Bool := line.toList.head? == some '['

/-- The line has to do with no conversation. -/
structure IsAside (line : String) : Prop where
  not_header : isHeader line = false
  not_message : isMessage line = false

lemma isHeader_eq_false_of_head? {line : String} {c : Char} (h : line.toList.head? = some c) (hc : c ≠ '=') :
    isHeader line = false := by
  unfold isHeader
  cases hline : line.toList with
  | nil => rw [hline] at h; exact nomatch h
  | cons d ds =>
    rw [hline] at h
    cases h
    have hne : ('=' == c) = false := beq_false_of_ne (Ne.symm hc)
    show (('=' == c) && _) = false
    rw [hne]
    rfl

lemma isAside_of_head? {line : String} (c : Char) (h : line.toList.head? = some c) (hc : c ≠ '=' ∧ c ≠ '[') :
    IsAside line where
  not_header := isHeader_eq_false_of_head? h hc.1
  not_message := by
    unfold isMessage
    rw [h]
    simpa using hc.2

lemma head?_messageLine (m : Message) : (messageLine zone m).toList.head? = some '[' := by
  unfold messageLine
  simp [String.toList_append]

@[simp] lemma isHeader_headerLine (conversation : Conversation) : isHeader (headerLine conversation) = true := by
  unfold isHeader headerLine
  simp [String.toList_append]

@[simp] lemma isMessage_messageLine (m : Message) : isMessage (messageLine zone m) = true := by
  unfold isMessage
  rw [head?_messageLine]
  rfl

@[simp] lemma isHeader_messageLine (m : Message) : isHeader (messageLine zone m) = false :=
  isHeader_eq_false_of_head? (head?_messageLine m) (by decide)

variable (zone) in
lemma print_of_not_isView {event : Event} (h : event.isView = false) (p : Printer) :
    (p.print zone event).1 = p ∧ ∀ line ∈ (p.print zone event).2, IsAside line := by
  cases event with
  | messagesUpdated | conversationSwitched => exact nomatch h
  | draftCleared => exact ⟨rfl, fun line hline => absurd hline List.not_mem_nil⟩
  | rosterUpdated users =>
    refine ⟨rfl, List.forall_mem_singleton.2 (isAside_of_head? 'p' ?_ (by decide))⟩
    simp [rosterLine, String.toList_append]
  | promptOpened prompt =>
    refine ⟨rfl, List.forall_mem_singleton.2 (isAside_of_head? '?' ?_ (by decide))⟩
    simp [String.toList_append]
  | promptClosed | connectionChanged =>
    refine ⟨rfl, List.forall_mem_singleton.2 (isAside_of_head? '*' ?_ (by decide))⟩
    simp [String.toList_append]
  | resourceUnreachable resource reason =>
    refine ⟨rfl, List.forall_mem_singleton.2 (isAside_of_head? '!' ?_ (by decide))⟩
    simp [String.toList_append]
  | notice level text =>
    refine ⟨rfl, List.forall_mem_singleton.2 ?_⟩
    cases level with
    | info => exact isAside_of_head? '*' (by simp [noticeMark, String.toList_append]) (by decide)
    | success => exact isAside_of_head? '+' (by simp [noticeMark, String.toList_append]) (by decide)
    | warning | error => exact isAside_of_head? '!' (by simp [noticeMark, String.toList_append]) (by decide)

variable (zone) in
lemma print_conversationSwitched (p : Printer) (conversation : Conversation) (discardedDraft : Bool) :
    (p.print zone (.conversationSwitched conversation discardedDraft)).1 = .empty ∧
      ∀ line ∈ (p.print zone (.conversationSwitched conversation discardedDraft)).2, IsAside line := by
  refine ⟨rfl, fun line hline => ?_⟩
  rcases List.mem_cons.1 hline with rfl | hline
  · refine isAside_of_head? '*' ?_ (by decide)
    simp [String.toList_append]
  · cases discardedDraft with
    | false => exact absurd hline List.not_mem_nil
    | true =>
      rw [List.mem_singleton.1 hline]
      exact isAside_of_head? '*' (by simp) (by decide)

/-! ### The messages of a conversation -/

section Messages

variable {p : Printer} {conversation : Conversation} {messages : List Message}

/-- Of a log that is no shorter than what is printed of the same conversation, the rest is printed. -/
lemma printMessages_of_grown (h : p.conversation = some conversation ∧ p.printed ≤ messages.length) :
    p.printMessages zone conversation messages =
      (⟨some conversation, messages.length⟩, (messages.drop p.printed).map (messageLine zone)) := by
  unfold Printer.printMessages
  have hheader : ¬(¬p.conversation = some conversation ∨ p.printed = 0 ∧ 0 < p.printed) := by
    rintro (hne | hzero)
    · exact hne h.1
    · omega
  simp only [if_pos h, if_neg hheader, List.nil_append]

lemma printMessages_of_fresh (h : ¬(p.conversation = some conversation ∧ p.printed ≤ messages.length)) :
    p.printMessages zone conversation messages =
      (⟨some conversation, messages.length⟩, headerLine conversation :: messages.map (messageLine zone)) := by
  unfold Printer.printMessages
  have hheader : ¬p.conversation = some conversation ∨ 0 < p.printed := by
    by_cases hc : p.conversation = some conversation
    · have hlt : messages.length < p.printed := Nat.not_le.1 fun hle => h ⟨hc, hle⟩
      exact Or.inr (by omega)
    · exact Or.inl hc
  simp only [if_neg h, true_and]
  rw [if_pos hheader]
  rfl

end Messages

/-! ### Below the last header -/

/-- The message lines below the last header. -/
def belowHeader (lines : List String) : List String :=
  (lines.reverse.takeWhile (!isHeader ·)).reverse.filter isMessage

section BelowHeader

variable {lines more : List String}

lemma belowHeader_append (h : ∀ line ∈ more, isHeader line = false) :
    belowHeader (lines ++ more) = belowHeader lines ++ more.filter isMessage := by
  have hpos : ∀ line ∈ more.reverse, (!isHeader line) = true := by
    intro line hline
    rw [h line (List.mem_reverse.1 hline)]
    rfl
  unfold belowHeader
  rw [List.reverse_append, List.takeWhile_append_of_pos hpos, List.reverse_append, List.reverse_reverse,
    List.filter_append]

lemma belowHeader_concat_header {line : String} (h : isHeader line = true) : belowHeader (lines ++ [line]) = [] := by
  unfold belowHeader
  rw [List.reverse_concat, List.takeWhile_cons_of_neg (by simp [h])]
  rfl

lemma belowHeader_append_aside (h : ∀ line ∈ more, IsAside line) : belowHeader (lines ++ more) = belowHeader lines := by
  have hfilter : more.filter isMessage = [] :=
    List.filter_eq_nil_iff.2 fun line hline => by simp [(h line hline).not_message]
  rw [belowHeader_append fun line hline => (h line hline).not_header, hfilter, List.append_nil]

lemma belowHeader_append_messages (messages : List Message) :
    belowHeader (lines ++ messages.map (messageLine zone)) = belowHeader lines ++ messages.map (messageLine zone) := by
  have hheader : ∀ line ∈ messages.map (messageLine zone), isHeader line = false := by
    intro line hline
    obtain ⟨m, -, rfl⟩ := List.mem_map.1 hline
    exact isHeader_messageLine m
  have hmessage : ∀ line ∈ messages.map (messageLine zone), isMessage line = true := by
    intro line hline
    obtain ⟨m, -, rfl⟩ := List.mem_map.1 hline
    exact isMessage_messageLine m
  rw [belowHeader_append hheader, List.filter_eq_self.2 hmessage]

lemma belowHeader_append_header (conversation : Conversation) (messages : List Message) :
    belowHeader (lines ++ headerLine conversation :: messages.map (messageLine zone)) =
      messages.map (messageLine zone) := by
  have hsplit : lines ++ headerLine conversation :: messages.map (messageLine zone) =
      (lines ++ [headerLine conversation]) ++ messages.map (messageLine zone) := by simp
  rw [hsplit, belowHeader_append_messages, belowHeader_concat_header (isHeader_headerLine conversation),
    List.nil_append]

end BelowHeader

/-! ### Transcripts -/

variable (zone)

/-- The printer after these events. -/
def printerAfter (events : List Event) : Printer := (Printer.empty.printAll zone events).1

/-- All lines that were printed of these events, the first one first. -/
def transcript (events : List Event) : List String := (Printer.empty.printAll zone events).2.flatten

lemma printAll_cons (p : Printer) (event : Event) (events : List Event) :
    p.printAll zone (event :: events) =
      (((p.print zone event).1.printAll zone events).1,
        (p.print zone event).2 :: ((p.print zone event).1.printAll zone events).2) := rfl

lemma printAll_append (p : Printer) (events more : List Event) :
    p.printAll zone (events ++ more) =
      (((p.printAll zone events).1.printAll zone more).1,
        (p.printAll zone events).2 ++ ((p.printAll zone events).1.printAll zone more).2) := by
  induction events generalizing p with
  | nil => rfl
  | cons event events ih =>
    rw [List.cons_append, printAll_cons, printAll_cons, ih]
    rfl

lemma printerAfter_concat (events : List Event) (event : Event) :
    printerAfter zone (events ++ [event]) = ((printerAfter zone events).print zone event).1 := by
  unfold printerAfter
  rw [printAll_append]
  rfl

lemma transcript_concat (events : List Event) (event : Event) :
    transcript zone (events ++ [event]) = transcript zone events ++ ((printerAfter zone events).print zone event).2 := by
  unfold transcript
  rw [printAll_append, List.flatten_append]
  exact congrArg (transcript zone events ++ ·) (List.append_nil _)

/-! ### The screen -/

/-- What the printer remembers, and the message lines that stand below the last header. -/
structure Screen where
  printer : Printer
  below : List String
deriving DecidableEq, Repr

namespace Screen

def empty : Screen := ⟨.empty, []⟩

/-- The screen after one more event: a log that is no shorter than what is printed of the same conversation adds its
rest, any other starts anew, and a switch only forgets what was printed. -/
def after (screen : Screen) : Event → Screen
  | .messagesUpdated conversation messages =>
    ⟨⟨some conversation, messages.length⟩,
      if screen.printer.conversation = some conversation ∧ screen.printer.printed ≤ messages.length then
        screen.below ++ (messages.drop screen.printer.printed).map (messageLine zone)
      else messages.map (messageLine zone)⟩
  | .conversationSwitched _ _ => { screen with printer := .empty }
  | _ => screen

def ofEvents (events : List Event) : Screen := events.foldl (after zone) empty

lemma after_of_not_isView (screen : Screen) {event : Event} (h : event.isView = false) :
    screen.after zone event = screen := by
  cases event with
  | messagesUpdated | conversationSwitched => exact nomatch h
  | _ => rfl

section Updated

variable {screen : Screen} {conversation : Conversation} {messages : List Message}

lemma after_messagesUpdated_of_grown
    (h : screen.printer.conversation = some conversation ∧ screen.printer.printed ≤ messages.length) :
    screen.after zone (.messagesUpdated conversation messages) =
      ⟨⟨some conversation, messages.length⟩,
        screen.below ++ (messages.drop screen.printer.printed).map (messageLine zone)⟩ :=
  congrArg (Screen.mk _) (if_pos h)

lemma after_messagesUpdated_of_fresh
    (h : ¬(screen.printer.conversation = some conversation ∧ screen.printer.printed ≤ messages.length)) :
    screen.after zone (.messagesUpdated conversation messages) =
      ⟨⟨some conversation, messages.length⟩, messages.map (messageLine zone)⟩ :=
  congrArg (Screen.mk _) (if_neg h)

end Updated

/-- Only what shows a conversation changes the screen. -/
lemma foldl_after_filter (screen : Screen) (events : List Event) :
    events.foldl (after zone) screen = (events.filter Event.isView).foldl (after zone) screen := by
  induction events generalizing screen with
  | nil => rfl
  | cons event events ih =>
    cases h : event.isView with
    | true => rw [List.filter_cons_of_pos h, List.foldl_cons, List.foldl_cons, ih]
    | false =>
      rw [List.filter_cons_of_neg (by rw [h]; decide), List.foldl_cons, screen.after_of_not_isView zone h, ih]

/-- The screen is what the printer remembers and what stands below the last header of its transcript. -/
theorem ofEvents_eq (events : List Event) :
    ofEvents zone events = ⟨printerAfter zone events, belowHeader (transcript zone events)⟩ := by
  induction events using List.reverseRecOn with
  | nil => rfl
  | append_singleton events event ih =>
    unfold ofEvents at ih ⊢
    rw [List.foldl_append, ih, printerAfter_concat, transcript_concat]
    show after zone _ event = _
    cases h : event.isView with
    | false =>
      obtain ⟨hprinter, haside⟩ := print_of_not_isView zone h (printerAfter zone events)
      rw [after_of_not_isView zone _ h, hprinter, belowHeader_append_aside haside]
    | true =>
      cases event with
      | conversationSwitched conversation discardedDraft =>
        obtain ⟨hprinter, haside⟩ := print_conversationSwitched zone (printerAfter zone events)
          conversation discardedDraft
        rw [hprinter, belowHeader_append_aside haside]
        rfl
      | messagesUpdated conversation messages =>
        show after zone _ _ = Screen.mk ((printerAfter zone events).printMessages zone conversation messages).1
          (belowHeader
            (transcript zone events ++ ((printerAfter zone events).printMessages zone conversation messages).2))
        by_cases hgrown : (printerAfter zone events).conversation = some conversation ∧
            (printerAfter zone events).printed ≤ messages.length
        · rw [printMessages_of_grown hgrown, belowHeader_append_messages]
          exact after_messagesUpdated_of_grown zone hgrown
        · rw [printMessages_of_fresh hgrown, belowHeader_append_header]
          exact after_messagesUpdated_of_fresh zone hgrown
      | _ => exact nomatch h

end Screen

end PeerChat.Console
