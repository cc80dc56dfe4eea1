import Mathlib.Data.List.SplitBy
import PeerChat.Proofs.Console.Transcript

/-!
What the printer prints of each event of a list. The updates of a conversation come in runs: a run begins behind a switch
to a conversation, and wherever a log is shorter than the one before it.

* `printAll?_eq`: the printer never looks for messages behind the end of a log;
* `filter_printing`: what shows no conversation leaves the lines of all other events as they are;
* `flatten_runs`: every update belongs to one run;
* `lines_of_run`: a run whose logs only grow is printed as its last log under one header;
* `printed_in_runs`: all of it together.
-/

namespace PeerChat

namespace Event

/-- The log that an update shows. -/
def log? : Event → Option (List Message)
  | messagesUpdated _ messages => some messages
  | _ => none

def isUpdate (event : Event) : Bool := event.log?.isSome

/-- Both events are updates, and the second log is no shorter than the first one. -/
def goesOn : Event → Event → Bool
  | messagesUpdated _ before, messagesUpdated _ after => before.length ≤ after.length
  | _, _ => false

/-- If both events are updates, they show the same conversation. -/
def staysOn : Event → Event → Bool
  | messagesUpdated conversation _, messagesUpdated other _ => conversation = other
  | _, _ => true

lemma exists_of_isUpdate {event : Event} (h : event.isUpdate = true) :
    ∃ conversation messages, event = messagesUpdated conversation messages := by
  cases event with
  | messagesUpdated conversation messages => exact ⟨conversation, messages, rfl⟩
  | _ => exact nomatch h

lemma isView_of_isUpdate {event : Event} (h : event.isUpdate = true) : event.isView = true := by
  obtain ⟨_, _, rfl⟩ := exists_of_isUpdate h
  rfl

lemma isUpdate_of_goesOn {event next : Event} (h : event.goesOn next = true) :
    event.isUpdate = true ∧ next.isUpdate = true := by
  cases event with
  | messagesUpdated =>
    cases next with
    | messagesUpdated => exact ⟨rfl, rfl⟩
    | _ => exact nomatch h
  | _ => exact nomatch h

end Event

namespace Console

variable (zone : Calendar.Zone)

/-! ### Within the log -/

/-- The messages of a log from a place on; none if the log ends before that place. -/
def messagesFrom? (start : Nat) (messages : List Message) : Option (List Message) :=
  if start ≤ messages.length then some (messages.drop start) else none

namespace Printer

/-- The place in a log from which on it is printed. -/
def start (p : Printer) (conversation : Conversation) (messages : List Message) : Nat :=
  if p.conversation = some conversation ∧ p.printed ≤ messages.length then p.printed else 0

/-- The header under which a log is printed, if it gets one. -/
def heading (p : Printer) (conversation : Conversation) (messages : List Message) : List String :=
  if ¬p.conversation = some conversation ∨ (p.start conversation messages = 0 ∧ 0 < p.printed) then
    [headerLine conversation]
  else []

/-- Prints an event, unless messages are looked for behind the end of a log. -/
def print? (p : Printer) : Event → Option (Printer × List String)
  | .messagesUpdated conversation messages =>
    (messagesFrom? (p.start conversation messages) messages).map fun rest =>
      (⟨some conversation, messages.length⟩, p.heading conversation messages ++ rest.map (messageLine zone))
  | event => some (p.print zone event)

/-- Prints a list of events, unless messages are looked for behind the end of a log. -/
def printAll? (p : Printer) : List Event → Option (Printer × List (List String))
  | [] => some (p, [])
  | event :: events => do
    let (p, lines) ← p.print? zone event
    let (p, rest) ← p.printAll? events
    return (p, lines :: rest)

lemma start_le (p : Printer) (conversation : Conversation) (messages : List Message) :
    p.start conversation messages ≤ messages.length := by
  unfold start
  split
  · next h => exact h.2
  · exact Nat.zero_le _

lemma print?_eq (p : Printer) (event : Event) : p.print? zone event = some (p.print zone event) := by
  cases event with
  | messagesUpdated conversation messages =>
    have hfrom : messagesFrom? (p.start conversation messages) messages = some _ :=
      if_pos (p.start_le conversation messages)
    show (messagesFrom? _ messages).map _ = _
    rw [hfrom]
    rfl
  | _ => rfl

/-- The printer never looks for messages behind the end of a log. -/
theorem printAll?_eq (p : Printer) (events : List Event) : p.printAll? zone events = some (p.printAll zone events) := by
  induction events generalizing p with
  | nil => rfl
  | cons event events ih =>
    unfold printAll?
    rw [print?_eq]
    show ((p.print zone event).1.printAll? zone events).bind _ = _
    rw [ih]
    rfl

/-! ### Event by event -/

/-- The events, each with the lines that are printed of it. -/
def printing (p : Printer) (events : List Event) : List (Event × List String) := events.zip (p.printAll zone events).2

lemma printing_cons (p : Printer) (event : Event) (events : List Event) :
    p.printing zone (event :: events) =
      (event, (p.print zone event).2) :: (p.print zone event).1.printing zone events := rfl

lemma map_fst_printing (p : Printer) (events : List Event) : (p.printing zone events).map (·.1) = events := by
  induction events generalizing p with
  | nil => rfl
  | cons event events ih => rw [printing_cons, List.map_cons, ih]

variable {zone} in
lemma exists_of_printing_eq_append {p : Printer} {events : List Event} {front back : List (Event × List String)}
    (h : p.printing zone events = front ++ back) :
    ∃ earlier later, events = earlier ++ later ∧ (p.printAll zone earlier).1.printing zone later = back ∧
      p.printing zone earlier = front := by
  induction front generalizing p events with
  | nil => exact ⟨[], events, rfl, h, rfl⟩
  | cons entry front ih =>
    cases events with
    | nil => exact nomatch h
    | cons event events =>
      rw [printing_cons, List.cons_append, List.cons.injEq] at h
      obtain ⟨earlier, later, rfl, hlater, hearlier⟩ := ih h.2
      refine ⟨event :: earlier, later, rfl, hlater, ?_⟩
      rw [printing_cons, hearlier, h.1]

/-- What shows no conversation leaves the lines of all other events as they are. -/
theorem filter_printing (p : Printer) (events : List Event) :
    (p.printing zone events).filter (·.1.isView) = p.printing zone (events.filter Event.isView) := by
  induction events generalizing p with
  | nil => rfl
  | cons event events ih =>
    rw [printing_cons, List.filter_cons, List.filter_cons]
    cases h : event.isView with
    | true => rw [if_pos rfl, if_pos rfl, printing_cons, ih]
    | false => rw [if_neg Bool.false_ne_true, if_neg Bool.false_ne_true, ih, (print_of_not_isView zone h p).1]

lemma print_of_not_isUpdate {event : Event} (h : event.isUpdate = false) (p q : Printer) :
    (p.print zone event).2 = (q.print zone event).2 ∧ ∀ line ∈ (p.print zone event).2, IsAside line := by
  cases event with
  | messagesUpdated => exact nomatch h
  | conversationSwitched conversation discardedDraft =>
    exact ⟨rfl, (print_conversationSwitched zone p conversation discardedDraft).2⟩
  | _ => exact ⟨rfl, (print_of_not_isView zone rfl p).2⟩

variable {zone} in
lemma exists_of_mem_printing {p : Printer} {events : List Event} {entry : Event × List String}
    (h : entry ∈ p.printing zone events) : ∃ q : Printer, entry.2 = (q.print zone entry.1).2 := by
  induction events generalizing p with
  | nil => exact nomatch h
  | cons event events ih =>
    rw [printing_cons] at h
    rcases List.mem_cons.1 h with rfl | h
    · exact ⟨p, rfl⟩
    · exact ih h

end Printer

/-! ### Runs -/

/-- The events that show a conversation, with the lines that are printed of them, cut wherever a log does not go on the
one before it. -/
def stretches (events : List Event) : List (List (Event × List String)) :=
  ((Printer.empty.printing zone events).filter (·.1.isView)).splitBy fun entry next => entry.1.goesOn next.1

/-- The runs of updates, with the lines that are printed of them. A switch is a stretch by itself, and no run. -/
def runs (events : List Event) : List (List (Event × List String)) :=
  (stretches zone events).filter fun stretch => stretch.all (·.1.isUpdate)

/-- A list that is cut begins anew, at each of its parts, where the part before does not go on. -/
lemma exists_of_mem_splitBy {α : Type} {r : α → α → Bool} {l m : List α} (h : m ∈ l.splitBy r) :
    ∃ front back, l = front ++ (m ++ back) ∧ ∀ x ∈ front.getLast?, ∀ y ∈ m.head?, r x y = false := by
  obtain ⟨before, after, hsplit⟩ := List.append_of_mem h
  have hflat : l = before.flatten ++ (m ++ after.flatten) := by
    rw [← List.flatten_splitBy r l, hsplit, List.flatten_append, List.flatten_cons]
  refine ⟨before.flatten, after.flatten, hflat, ?_⟩
  rcases List.eq_nil_or_concat' before with rfl | ⟨before, last, rfl⟩
  · exact fun x hx => nomatch hx
  · have hchain := List.isChain_getLast_head_splitBy r l
    rw [hsplit, List.append_assoc, List.singleton_append, List.isChain_append_cons_cons] at hchain
    obtain ⟨hlast, hm, hr⟩ := hchain.2.1
    intro x hx y hy
    rw [List.flatten_append, List.flatten_singleton, List.getLast?_append_of_ne_nil _ hlast,
      List.getLast?_eq_some_getLast hlast] at hx
    rw [List.head?_eq_some_head hm] at hy
    rw [← Option.some.inj hx, ← Option.some.inj hy]
    exact hr

lemma isUpdate_of_mem_tail {entry : Event × List String} {rest : List (Event × List String)}
    (h : (entry :: rest).IsChain fun entry next => entry.1.goesOn next.1 = true) :
    ∀ other ∈ rest, other.1.isUpdate = true := by
  induction rest generalizing entry with
  | nil => exact fun other hother => nomatch hother
  | cons next rest ih =>
    obtain ⟨hnext, hrest⟩ := List.isChain_cons_cons.1 h
    intro other hother
    rcases List.mem_cons.1 hother with rfl | hother
    · exact (Event.isUpdate_of_goesOn hnext).2
    · exact ih hrest other hother

/-- Of a stretch either everything is an update or nothing. -/
lemma filter_isUpdate_of_isChain {stretch : List (Event × List String)}
    (h : stretch.IsChain fun entry next => entry.1.goesOn next.1 = true) :
    stretch.filter (·.1.isUpdate) = if stretch.all (·.1.isUpdate) then stretch else [] := by
  cases stretch with
  | nil => rfl
  | cons entry rest =>
    have htail := isUpdate_of_mem_tail h
    cases hentry : entry.1.isUpdate with
    | true =>
      have hall : ∀ other ∈ entry :: rest, other.1.isUpdate = true := List.forall_mem_cons.2 ⟨hentry, htail⟩
      rw [if_pos (List.all_eq_true.2 hall), List.filter_eq_self.2 hall]
    | false =>
      cases rest with
      | nil => simp [hentry]
      | cons next rest =>
        have hupdate := (Event.isUpdate_of_goesOn (List.isChain_cons_cons.1 h).1).1
        exact nomatch hentry.symm.trans hupdate

lemma flatten_filter_all {parts : List (List (Event × List String))}
    (h : ∀ stretch ∈ parts, stretch.IsChain fun entry next => entry.1.goesOn next.1 = true) :
    (parts.filter fun stretch => stretch.all (·.1.isUpdate)).flatten = parts.flatten.filter (·.1.isUpdate) := by
  induction parts with
  | nil => rfl
  | cons stretch parts ih =>
    obtain ⟨hstretch, hrest⟩ := List.forall_mem_cons.1 h
    rw [List.flatten_cons, List.filter_append, filter_isUpdate_of_isChain hstretch, ← ih hrest, List.filter_cons]
    split <;> rfl

/-- Every update belongs to one run, and runs hold nothing else. -/
theorem flatten_runs (events : List Event) :
    (runs zone events).flatten = (Printer.empty.printing zone events).filter (·.1.isUpdate) := by
  unfold runs stretches
  rw [flatten_filter_all fun stretch hstretch => List.isChain_of_mem_splitBy hstretch, List.flatten_splitBy,
    List.filter_filter]
  refine List.filter_congr fun entry _ => ?_
  cases hupdate : entry.1.isUpdate with
  | true => rw [Event.isView_of_isUpdate hupdate, Bool.and_true]
  | false => rfl

/-! ### The lines of a run -/

/-- Between two switches, every update shows the conversation that the one before it shows. -/
def IsSteady (events : List Event) : Prop :=
  (events.filter Event.isView).IsChain fun event next => event.staysOn next = true

lemma fresh_of_not_goesOn {events : List Event} (hviews : ∀ event ∈ events, event.isView = true)
    {conversation : Conversation} {messages : List Message}
    (h : ∀ event ∈ events.getLast?, event.goesOn (.messagesUpdated conversation messages) = false) :
    ¬((printerAfter zone events).conversation = some conversation ∧
      (printerAfter zone events).printed ≤ messages.length) := by
  rintro ⟨hconversation, hprinted⟩
  rcases List.eq_nil_or_concat' events with rfl | ⟨events, last, rfl⟩
  · exact nomatch hconversation
  · have hlast : last.goesOn (.messagesUpdated conversation messages) = false := h last (by simp)
    rw [printerAfter_concat] at hconversation hprinted
    cases last with
    | messagesUpdated other before =>
      -- the printer holds the length of the log before, which was longer
      have hshorter : ¬before.length ≤ messages.length := of_decide_eq_false hlast
      exact hshorter hprinted
    | conversationSwitched => exact nomatch hconversation
    | _ => exact nomatch hviews _ List.mem_concat_self

variable {zone} in
/-- A run is what is printed of updates that follow one another, and the printer takes the first log for a new one. -/
lemma exists_of_mem_runs {events : List Event} {run : List (Event × List String)} (h : run ∈ runs zone events) :
    ∃ earlier conversation messages rest later,
      events.filter Event.isView = earlier ++ (.messagesUpdated conversation messages :: rest ++ later) ∧
        (∀ event ∈ rest, event.isUpdate = true) ∧
          ¬((printerAfter zone earlier).conversation = some conversation ∧
            (printerAfter zone earlier).printed ≤ messages.length) ∧
            run = (printerAfter zone earlier).printing zone (.messagesUpdated conversation messages :: rest) := by
  obtain ⟨hstretch, hall⟩ := List.mem_filter.1 h
  -- a stretch stands between others, and so do the events that it is printed of
  obtain ⟨front, back, hsplit, hbreak⟩ := exists_of_mem_splitBy hstretch
  rw [Printer.filter_printing] at hsplit
  obtain ⟨earlier, others, hevents, hothers, hearlier⟩ := Printer.exists_of_printing_eq_append hsplit
  obtain ⟨shown, later, rfl, -, hshown⟩ := Printer.exists_of_printing_eq_append hothers
  have hupdates : ∀ event ∈ shown, event.isUpdate = true := by
    rw [← Printer.map_fst_printing zone _ shown, hshown]
    exact List.forall_mem_map.2 (List.all_eq_true.1 hall)
  cases shown with
  | nil =>
    have hnil : run = [] := hshown.symm
    rw [hnil] at hstretch
    exact absurd hstretch (List.nil_notMem_splitBy _ _)
  | cons event rest =>
    obtain ⟨hevent, hrest⟩ := List.forall_mem_cons.1 hupdates
    obtain ⟨conversation, messages, rfl⟩ := Event.exists_of_isUpdate hevent
    refine ⟨earlier, conversation, messages, rest, later, hevents, hrest, fresh_of_not_goesOn zone ?_ ?_, hshown.symm⟩
    · intro event hevent
      have hmem : event ∈ events.filter Event.isView := by
        rw [hevents]
        exact List.mem_append_left _ hevent
      exact (List.mem_filter.1 hmem).2
    · intro event hlast
      rw [← Printer.map_fst_printing zone .empty earlier, hearlier, List.getLast?_map] at hlast
      obtain ⟨entry, hentry, rfl⟩ := Option.map_eq_some_iff.1 hlast
      rw [← hshown] at hbreak
      exact hbreak entry hentry _ rfl

variable {zone}

lemma lines_of_grown {conversation : Conversation} {messages : List Message} {rest : List Event}
    (hupdates : ∀ event ∈ rest, event.isUpdate = true)
    (hsteady : (Event.messagesUpdated conversation messages :: rest).IsChain fun event next => event.staysOn next = true)
    (hgrows : (messages :: rest.filterMap Event.log?).IsChain (· <+: ·)) :
    ∃ last, (Event.messagesUpdated conversation messages :: rest).getLast? = some (.messagesUpdated conversation last) ∧
      messages.map (messageLine zone) ++
          ((Printer.mk (some conversation) messages.length).printing zone rest).flatMap (·.2) =
        last.map (messageLine zone) := by
  induction rest generalizing messages with
  | nil => exact ⟨messages, rfl, List.append_nil _⟩
  | cons event rest ih =>
    obtain ⟨hevent, hrest⟩ := List.forall_mem_cons.1 hupdates
    obtain ⟨other, more, rfl⟩ := Event.exists_of_isUpdate hevent
    obtain ⟨hsame, hsteady⟩ := List.isChain_cons_cons.1 hsteady
    obtain rfl : conversation = other := of_decide_eq_true hsame
    obtain ⟨hmore, hgrows⟩ := List.isChain_cons_cons.1 hgrows
    obtain ⟨last, hlast, hlines⟩ := ih hrest hsteady hgrows
    refine ⟨last, by rw [List.getLast?_cons_cons, hlast], ?_⟩
    -- of the longer log the tail is printed, and together with what was printed before that is all of it
    have hprint : (Printer.mk (some conversation) messages.length).print zone (.messagesUpdated conversation more) =
        (⟨some conversation, more.length⟩, (more.drop messages.length).map (messageLine zone)) :=
      printMessages_of_grown ⟨rfl, hmore.length_le⟩
    rw [Printer.printing_cons, hprint, List.flatMap_cons, ← List.append_assoc, ← List.map_append,
      List.prefix_iff_eq_append.1 hmore]
    exact hlines

/-- A run whose logs only grow is printed as its last log under one header. -/
theorem lines_of_run {events : List Event} (hsteady : IsSteady events) {run : List (Event × List String)}
    (hrun : run ∈ runs zone events) (hgrows : ((run.map (·.1)).filterMap Event.log?).IsChain (· <+: ·)) :
    ∃ conversation last, (run.map (·.1)).getLast? = some (.messagesUpdated conversation last) ∧
      run.flatMap (·.2) = headerLine conversation :: last.map (messageLine zone) := by
  obtain ⟨earlier, conversation, messages, rest, later, hevents, hupdates, hfresh, rfl⟩ := exists_of_mem_runs hrun
  rw [Printer.map_fst_printing] at hgrows ⊢
  unfold IsSteady at hsteady
  rw [hevents] at hsteady
  obtain ⟨last, hlast, hlines⟩ := lines_of_grown hupdates hsteady.right_of_append.left_of_append hgrows
  have hprint : (printerAfter zone earlier).print zone (.messagesUpdated conversation messages) =
      (⟨some conversation, messages.length⟩, headerLine conversation :: messages.map (messageLine zone)) :=
    printMessages_of_fresh hfresh
  refine ⟨conversation, last, hlast, ?_⟩
  rw [Printer.printing_cons, hprint, List.flatMap_cons, List.cons_append, hlines]

/-! ### Everything together -/

variable (zone)

/-- What is printed of the events of a list. -/
structure PrintedInRuns (events : List Event) : Prop where
  /-- No message is looked for behind the end of a log. -/
  within : Printer.empty.printAll? zone events = some (Printer.empty.printAll zone events)
  /-- The updates, with the lines that are printed of them, are cut into runs. -/
  parted : (runs zone events).flatten = (Printer.empty.printing zone events).filter (·.1.isUpdate)
  /-- If every log of a run begins with the one before it, the run is printed as its last log, once and in order, under
  one header. -/
  lines (run : List (Event × List String)) :
    run ∈ runs zone events → ((run.map (·.1)).filterMap Event.log?).IsChain (· <+: ·) →
    ∃ conversation last, (run.map (·.1)).getLast? = some (.messagesUpdated conversation last) ∧
      run.flatMap (·.2) = headerLine conversation :: last.map (messageLine zone)
  /-- Every other event has lines of its own, which are neither headers nor show messages, -/
  others (entry : Event × List String) : entry ∈ Printer.empty.printing zone events → entry.1.isUpdate = false →
    (∀ p : Printer, entry.2 = (p.print zone entry.1).2) ∧ ∀ line ∈ entry.2, IsAside line
  /-- and without the events that show no conversation, the lines of the others are the same. -/
  undisturbed : (Printer.empty.printing zone events).filter (·.1.isView) =
    Printer.empty.printing zone (events.filter Event.isView)

/-- **Of a log that grows only the new messages are printed.** As long as the updates between two switches show one
conversation, each run of updates leaves the messages of its last log on the console, once and in order, under one
header, whatever else is printed in between. -/
theorem printed_in_runs (events : List Event) (h : IsSteady events) : PrintedInRuns zone events where
  within := Printer.empty.printAll?_eq zone events
  parted := flatten_runs zone events
  lines _ hrun hgrows := lines_of_run h hrun hgrows
  others entry hentry hupdate := by
    obtain ⟨q, hlines⟩ := Printer.exists_of_mem_printing hentry
    rw [hlines]
    exact ⟨fun p => (Printer.print_of_not_isUpdate zone hupdate q p).1,
      (Printer.print_of_not_isUpdate zone hupdate q q).2⟩
  undisturbed := Printer.empty.filter_printing zone events

/-- A log that becomes shorter begins a new run, and so does a switch; a roster and a notice do not. The clocks are nine
hours ahead of UTC. -/
theorem printed_in_runs_of_shrinking_log : ∃ events : List Event,
    (runs ⟨fun _ => 32400⟩ events).map (·.flatMap (·.2)) =
        [["== Public ==", "[21:00:00] bob: one", "[21:00:00] bob: two"],
          ["== Public ==", "[21:00:00] bob: one"],
          ["== bob ==", "[21:00:00] you -> bob: hello"]] ∧
      IsSteady events ∧ PrintedInRuns ⟨fun _ => 32400⟩ events := by
  let noon : Calendar.Timestamp := ⟨⟨2025, 3, 1, by decide, by decide, by decide⟩, 12, 0, 0, 0, by decide, by decide,
    by decide, by decide⟩
  let said (text : String) : Message := ⟨"bob", none, .text text, noon, false⟩
  let sent : Message := ⟨"alice", some "bob", .text "hello", noon, true⟩
  let events : List Event :=
    [.messagesUpdated .everyone [], .messagesUpdated .everyone [said "one"], .rosterUpdated [],
      .messagesUpdated .everyone [said "one", said "two"], .messagesUpdated .everyone [said "one"],
      .conversationSwitched (.withPeer "bob") false, .messagesUpdated (.withPeer "bob") [], .notice .info "draft kept",
      .messagesUpdated (.withPeer "bob") [sent]]
  have hsteady : IsSteady events := by
    unfold IsSteady
    decide
  exact ⟨events, by decide +kernel, hsteady, printed_in_runs _ events hsteady⟩

end Console

end PeerChat
