import Mathlib.Data.List.DropRight
import PeerChat.Proofs.Peer.Orders
import PeerChat.Proofs.Peer.Run

/-!
The message log of a peer over a whole run, and whom the peer does not listen to. An incident records one message at
most; the log that is served is the end of all that was recorded.

* `Origin`: how a message comes to be recorded, and what it says;
* `recorded?_eq_some_iff`: an incident records a message exactly if it is the origin of one;
* `log_run`: the log holds the last messages ever recorded;
* `mem_blocked_run`: a user is blocked exactly if he is silenced, from the command that blocks him to the next one that
  unblocks him;
* `chronicled_run`: all of it together.
-/

namespace PeerChat.Peer

open Calendar (Timestamp)

/-! ### What is recorded -/

/-- The message that an order of the user adds to the log. -/
def wording? (p : Peer) (now : Timestamp) : Order → Option WireMessage
  | .say text => some (p.ownMessage now none text)
  | .whisper target text => some (p.ownMessage now (some target) text)
  | .setBlocked _ => none

/-- The message that a text of the user adds to the log; a refused text adds none. -/
def sent? (p : Peer) (now : Timestamp) (text : String) : Option WireMessage :=
  match Order.ofText text, p.submit now text with
  | .ok order, .ok _ => p.wording? now order
  | _, _ => none

/-- The message that someone else adds to the log, unless he is blocked. -/
def heard? (p : Peer) (now : Timestamp) (sender : Username) (text : String) (isPrivate : Bool) : Option WireMessage :=
  if p.blocked.contains sender then none
  else some ⟨sender, if isPrivate then p.name else Message.everyone, text, now, false, isPrivate⟩

/-- The message that an incident records. -/
def recorded? (p : Peer) : Incident → Option WireMessage
  | .deed (.submit now text) => p.sent? now text
  | .deed (.receive now sender text isPrivate) => p.heard? now sender text isPrivate
  | _ => none

/-- All messages that were recorded in a run, in their order. -/
def history (name : Username) (incidents : List Incident) : List WireMessage := gathered name recorded? incidents

/-- How a message comes to be recorded, and what it says. -/
inductive Origin (p : Peer) : Incident → WireMessage → Prop
  /-- The user writes to everyone. -/
  | said (now : Timestamp) {text : String} : text.toList.head? ≠ some '/' →
      Origin p (.deed (.submit now text)) ⟨p.name, Message.everyone, text, now, true, false⟩
  /-- The user writes to one user, who is online. -/
  | whispered (now : Timestamp) {rest words : String} : Order.readName rest ≠ "" →
      (Order.cutAtSpace rest).2 = some words → Text.isAllBlank words = false → Order.readName rest ∈ p.online →
      Origin p (.deed (.submit now (privateVerb ++ " " ++ rest)))
        ⟨p.name, Order.readName rest, words, now, true, true⟩
  /-- Someone who is not blocked writes to the user, or to everyone. -/
  | received (now : Timestamp) {sender : Username} (text : String) (isPrivate : Bool) : sender ∉ p.blocked →
      Origin p (.deed (.receive now sender text isPrivate))
        ⟨sender, if isPrivate then p.name else Message.everyone, text, now, false, isPrivate⟩

/-! ### One incident -/

/-- Nothing is said in an incident. -/
def Incident.isSilent : Incident → Bool
  | .deed (.submit _ _) | .deed (.receive _ _ _ _) => false
  | _ => true

/-- The courses that an incident can take: what it records, and what it makes of the peer. -/
inductive Course (p : Peer) : Incident → Option WireMessage → Peer → Prop
  | obeyed {now : Timestamp} {text : String} {order : Order} : Order.Reads text order →
      (∀ target, order.target? = some target → target ∈ p.online) →
      Course p (.deed (.submit now text)) (p.wording? now order) (p.carryOut now order)
  | refused {now : Timestamp} {text : String} {refusal : Refusal} : p.submit now text = .error refusal →
      Course p (.deed (.submit now text)) none p
  | heard {now : Timestamp} {sender : Username} {text : String} {isPrivate : Bool} {m : WireMessage} :
      sender ∉ p.blocked →
      m = ⟨sender, if isPrivate then p.name else Message.everyone, text, now, false, isPrivate⟩ →
      Course p (.deed (.receive now sender text isPrivate)) (some m) (p.record m)
  | ignored {now : Timestamp} {sender : Username} {text : String} {isPrivate : Bool} : sender ∈ p.blocked →
      Course p (.deed (.receive now sender text isPrivate)) none p
  | silent {i : Incident} {online : NameSet} {transfers : List Transfer.Offer} {nextOffer : UInt64} :
      i.isSilent = true →
      Course p i none { p with online := online, transfers := transfers, nextOffer := nextOffer }

lemma sent?_of_reads {p : Peer} {now : Timestamp} {text : String} {order : Order} (hreads : Order.Reads text order)
    (honline : ∀ target, order.target? = some target → target ∈ p.online) :
    p.sent? now text = p.wording? now order := by
  simp only [sent?, Order.ofText_eq_ok_iff.2 hreads, submit_eq_ok_iff.2 ⟨order, hreads, honline, rfl⟩]

/-- An incident takes one of the courses. -/
theorem course_meets (p : Peer) (i : Incident) : Course p i (p.recorded? i) (p.meets i) := by
  cases i with
  | answer response =>
    rw [answer_rest]
    exact .silent rfl
  | deed deed =>
    cases deed with
    | submit now text =>
      show Course p _ (p.sent? now text) ((p.submit now text).toOption.getD p)
      cases hsubmit : p.submit now text with
      | error refusal =>
        have hnone : p.sent? now text = none := by
          unfold sent?
          rw [hsubmit]
          cases Order.ofText text <;> rfl
        rw [hnone]
        exact .refused hsubmit
      | ok q =>
        obtain ⟨order, hreads, honline, rfl⟩ := submit_eq_ok_iff.1 hsubmit
        rw [sent?_of_reads hreads honline]
        exact .obeyed hreads honline
    | receive now sender text isPrivate =>
      show Course p _ (p.heard? now sender text isPrivate) (p.receive now sender text isPrivate).1
      unfold heard? receive
      split
      · next hblocked => exact .ignored (NameSet.contains_iff.1 hblocked)
      · next hlistens => exact .heard (mt NameSet.contains_iff.2 hlistens) rfl
    | upload parcel =>
      show Course p _ none (p.upload parcel).2
      rw [upload_rest]
      exact .silent rfl
    | join | leave | offer | setStatus => exact .silent rfl

section Course

variable {p q : Peer} {i : Incident} {recorded : Option WireMessage} {m : WireMessage}

lemma Course.name (h : Course p i recorded q) : q.name = p.name := by
  cases h with
  | @obeyed _ _ order => cases order <;> rfl
  | refused | heard | ignored | silent => rfl

lemma Course.records (h : Course p i recorded q) (hrecorded : recorded = some m) : q = p.record m := by
  cases h with
  | @obeyed _ _ order =>
    cases order with
    | say | whisper => exact congrArg p.record (Option.some.inj hrecorded)
    | setBlocked => exact nomatch hrecorded
  | heard => rw [Option.some.inj hrecorded]
  | refused | ignored | silent => exact nomatch hrecorded

lemma Course.log (h : Course p i recorded q) (hrecorded : recorded = none) : q.log = p.log := by
  cases h with
  | @obeyed _ _ order =>
    cases order with
    | say | whisper => exact nomatch hrecorded
    | setBlocked => rfl
  | heard => exact nomatch hrecorded
  | refused | ignored | silent => rfl

lemma Course.origin (h : Course p i recorded q) (hrecorded : recorded = some m) : Origin p i m := by
  cases h with
  | @obeyed now _ order hreads honline =>
    cases hreads with
    | say hplain =>
      obtain rfl := Option.some.inj hrecorded
      exact .said now hplain
    | whisper hname hcut hwords =>
      obtain rfl := Option.some.inj hrecorded
      exact .whispered now hname hcut hwords (honline _ rfl)
    | setBlocked => exact nomatch hrecorded
  | @heard now _ text isPrivate _ hlistens hm =>
    obtain rfl := hm.symm.trans (Option.some.inj hrecorded)
    exact .received now text isPrivate hlistens
  | refused | ignored | silent => exact nomatch hrecorded

end Course

/-- An incident records a message exactly if it is the origin of it. -/
theorem recorded?_eq_some_iff {p : Peer} {i : Incident} {m : WireMessage} : p.recorded? i = some m ↔ Origin p i m := by
  refine ⟨(course_meets p i).origin, fun h => ?_⟩
  cases h with
  | said now hplain => exact sent?_of_reads (.say hplain) nofun
  | whispered now hname hcut hwords honline =>
    refine sent?_of_reads (.whisper hname hcut hwords) fun target htarget => ?_
    rwa [← Option.some.inj htarget]
  | received now text isPrivate hlistens => exact if_neg (mt NameSet.contains_iff.1 hlistens)

/-! ### The log -/

/-- What is kept of the end of a list and of one more entry is the end of the list with that entry. -/
lemma rtake_rtake_concat {α : Type} (l : List α) (x : α) (n : Nat) :
    (l.rtake n ++ [x]).rtake n = (l ++ [x]).rtake n := by
  have hle : l.length - n ≤ l.length := Nat.sub_le _ _
  have hsplit : l.rtake n ++ [x] = (l ++ [x]).drop (l.length - n) := (List.drop_append_of_le_length hle).symm
  have hdrop : l.length - n + ((l ++ [x]).length - (l.length - n) - n) = (l ++ [x]).length - n := by
    rw [List.length_append, List.length_singleton]
    omega
  rw [hsplit]
  unfold List.rtake
  rw [List.drop_drop, List.length_drop, hdrop]

section Run

variable (name : Username) (incidents : List Incident)

lemma name_run : (run name incidents).name = name := by
  induction incidents using List.reverseRecOn with
  | nil => rfl
  | append_singleton incidents i ih =>
    rw [run_concat, (course_meets _ i).name]
    exact ih

lemma history_concat (i : Incident) :
    history name (incidents ++ [i]) = history name incidents ++ ((run name incidents).recorded? i).toList :=
  gathered_concat name recorded? incidents i

/-- The log holds the last messages ever recorded. -/
theorem log_run : (run name incidents).log = (history name incidents).rtake logCap := by
  induction incidents using List.reverseRecOn with
  | nil => rfl
  | append_singleton incidents i ih =>
    have hcourse := course_meets (run name incidents) i
    rw [run_concat, history_concat]
    cases hrecorded : (run name incidents).recorded? i with
    | none =>
      rw [hcourse.log hrecorded, ih]
      exact (congrArg (List.rtake · logCap) (List.append_nil _)).symm
    | some m =>
      rw [hcourse.records hrecorded]
      show ((run name incidents).log ++ [m]).rtake logCap = _
      rw [ih, rtake_rtake_concat]
      rfl

end Run

/-! ### Who is not listened to -/

/-- The incident is a command of the user to block someone, or to unblock him, and it is carried out. -/
def Commands (p : Peer) (i : Incident) (intent : BlockIntent) : Prop :=
  ∃ now text q, i = .deed (.submit now text) ∧ Order.Reads text (.setBlocked intent) ∧ p.submit now text = .ok q

/-- A command has blocked the user in the run, and no command since then has unblocked him. -/
def Silenced (name u : Username) (incidents : List Incident) : Prop :=
  ∃ earlier i later, incidents = earlier ++ i :: later ∧ Commands (run name earlier) i ⟨u, true⟩ ∧
    ∀ front j back, later = front ++ j :: back → ¬Commands (run name (earlier ++ i :: front)) j ⟨u, false⟩

section Blocked

variable {p q : Peer} {i : Incident} {recorded : Option WireMessage} {name u : Username} {incidents : List Incident}

lemma commands_iff_of_reads {now : Timestamp} {text : String} {order : Order} (hreads : Order.Reads text order)
    (honline : ∀ target, order.target? = some target → target ∈ p.online) {intent : BlockIntent} :
    Commands p (.deed (.submit now text)) intent ↔ order = .setBlocked intent := by
  constructor
  · rintro ⟨_, _, _, hi, hcommand, -⟩
    cases hi
    exact Except.ok.inj ((Order.ofText_eq_ok_iff.2 hreads).symm.trans (Order.ofText_eq_ok_iff.2 hcommand))
  · rintro rfl
    exact ⟨now, text, _, rfl, hreads, submit_eq_ok_iff.2 ⟨_, hreads, honline, rfl⟩⟩

lemma Course.mem_blocked_iff (h : Course p i recorded q) (u : Username) :
    u ∈ q.blocked ↔ Commands p i ⟨u, true⟩ ∨ (u ∈ p.blocked ∧ ¬Commands p i ⟨u, false⟩) := by
  have hidle : (∀ intent, ¬Commands p i intent) →
      (u ∈ p.blocked ↔ Commands p i ⟨u, true⟩ ∨ (u ∈ p.blocked ∧ ¬Commands p i ⟨u, false⟩)) :=
    fun hnone => ⟨fun hu => Or.inr ⟨hu, hnone _⟩, fun hu => (hu.resolve_left (hnone _)).1⟩
  cases h with
  | @obeyed now _ order hreads honline =>
    cases order with
    | say | whisper => exact hidle fun intent hcommand => nomatch (commands_iff_of_reads hreads honline).1 hcommand
    | setBlocked intent =>
      obtain ⟨name, block⟩ := intent
      rw [mem_blocked_carryOut, commands_iff_of_reads hreads honline, commands_iff_of_reads hreads honline]
      by_cases hu : u = name
      · subst hu
        cases block <;> simp
      · simp [hu, Ne.symm hu]
  | refused hrefused =>
    refine hidle ?_
    rintro intent ⟨_, _, _, hi, -, hsubmit⟩
    cases hi
    exact nomatch hrefused.symm.trans hsubmit
  | heard | ignored =>
    refine hidle ?_
    rintro intent ⟨_, _, _, hi, -⟩
    exact nomatch hi
  | silent hsilent =>
    refine hidle ?_
    rintro intent ⟨_, _, _, rfl, -⟩
    exact nomatch hsilent

lemma silenced_concat_iff : Silenced name u (incidents ++ [i]) ↔
    Commands (run name incidents) i ⟨u, true⟩ ∨
      (Silenced name u incidents ∧ ¬Commands (run name incidents) i ⟨u, false⟩) := by
  constructor
  · rintro ⟨earlier, j, later, hsplit, hblocks, hkeeps⟩
    -- the command that blocks the user is the last incident, or it comes before it
    rcases List.eq_nil_or_concat' later with rfl | ⟨later, last, rfl⟩
    · obtain ⟨rfl, hlast⟩ := List.append_inj' hsplit rfl
      obtain rfl := List.singleton_inj.1 hlast
      exact Or.inl hblocks
    · rw [← List.cons_append, ← List.append_assoc] at hsplit
      obtain ⟨rfl, hlast⟩ := List.append_inj' hsplit rfl
      obtain rfl := List.singleton_inj.1 hlast
      refine Or.inr ⟨⟨earlier, j, later, rfl, hblocks, fun front k back hlater => ?_⟩, hkeeps later i [] rfl⟩
      exact hkeeps front k (back ++ [i]) (by rw [hlater, List.append_assoc, List.cons_append])
  · rintro (hblocks | ⟨⟨earlier, j, later, rfl, hblocks, hkeeps⟩, hkeeps'⟩)
    · exact ⟨incidents, i, [], rfl, hblocks, fun front k back h => absurd h (by simp)⟩
    · refine ⟨earlier, j, later ++ [i], by rw [List.append_assoc, List.cons_append], hblocks, ?_⟩
      intro front k back hlater
      rcases List.eq_nil_or_concat' back with rfl | ⟨back, last, rfl⟩
      · obtain ⟨rfl, hlast⟩ := List.append_inj' hlater rfl
        obtain rfl := List.singleton_inj.1 hlast
        exact hkeeps'
      · rw [← List.cons_append, ← List.append_assoc] at hlater
        exact hkeeps front k back (List.append_inj' hlater rfl).1

/-- A user is blocked exactly if he is silenced. -/
theorem mem_blocked_run : u ∈ (run name incidents).blocked ↔ Silenced name u incidents := by
  induction incidents using List.reverseRecOn with
  | nil =>
    refine iff_of_false (NameSet.not_mem_empty u) ?_
    rintro ⟨earlier, i, later, hsplit, -⟩
    exact absurd hsplit.symm (by simp)
  | append_singleton incidents i ih => rw [run_concat, (course_meets _ i).mem_blocked_iff, ih, silenced_concat_iff]

end Blocked

/-! ### Everything together -/

/-- What a message says of the incident that recorded it. -/
structure Stamped (name : Username) (i : Incident) (m : WireMessage) : Prop where
  /-- What the user of the peer submits is from him. -/
  own (now : Timestamp) (text : String) : i = .deed (.submit now text) → m.sender = name ∧ m.isOwn = true
  /-- What comes in from others is from its sender. -/
  received (now : Timestamp) (sender : Username) (text : String) (isPrivate : Bool) :
    i = .deed (.receive now sender text isPrivate) → m.sender = sender ∧ m.isOwn = false
  /-- It is private exactly if its recipient is the one whom the text names behind the verb for private messages, or the
  user of the peer, to whom it came privately. -/
  isPrivate_iff : m.isPrivate = true ↔
    (∃ now rest, i = .deed (.submit now (privateVerb ++ " " ++ rest)) ∧ m.recipient = Order.readName rest) ∨
      (∃ now sender text, i = .deed (.receive now sender text true) ∧ m.recipient = name)
  /-- Otherwise it is for everyone. -/
  everyone : m.isPrivate = false → m.recipient = Message.everyone

lemma stamped_of_origin {p : Peer} {i : Incident} {m : WireMessage} (h : Origin p i m) : Stamped p.name i m where
  own now text hi := by
    subst hi
    cases h with
    | said | whispered => exact ⟨rfl, rfl⟩
  received now sender text isPrivate hi := by
    subst hi
    cases h with
    | received => exact ⟨rfl, rfl⟩
  isPrivate_iff := by
    cases h with
    | said now hplain =>
      refine iff_of_false nofun ?_
      rintro (⟨_, rest, hi, -⟩ | ⟨_, _, _, hi, -⟩)
      · -- the verb begins with a slash
        cases hi
        exact absurd (by simp [String.toList_append, privateVerb]) hplain
      · exact nomatch hi
    | whispered now => exact iff_of_true rfl (Or.inl ⟨now, _, rfl, rfl⟩)
    | received now text isPrivate =>
      cases isPrivate with
      | true => exact iff_of_true rfl (Or.inr ⟨now, _, text, rfl, rfl⟩)
      | false =>
        refine iff_of_false nofun ?_
        rintro (⟨_, _, hi, -⟩ | ⟨_, _, _, hi, -⟩)
        · exact nomatch hi
        · exact nomatch hi
  everyone hpublic := by
    cases h with
    | said => rfl
    | whispered => exact nomatch hpublic
    | received now text isPrivate =>
      cases isPrivate with
      | true => exact nomatch hpublic
      | false => rfl

/-- What holds of the log of a peer, and of whom the peer does not listen to, after a run. -/
structure Chronicled (name : Username) (incidents : List Incident) : Prop where
  /-- The log that is served holds the last messages ever recorded, in their order, -/
  served : (run name incidents).shown (.fetch .messages) =
    .json (Wire.ofMessages ((history name incidents).rtake logCap))
  /-- as many as were recorded, up to the cap. -/
  length_log : (run name incidents).log.length = min (history name incidents).length logCap
  /-- The next incident records one message and changes nothing else, -/
  records (i : Incident) (m : WireMessage) : (run name incidents).recorded? i = some m →
    history name (incidents ++ [i]) = history name incidents ++ [m] ∧
      Records m (run name incidents) (run name (incidents ++ [i]))
  /-- or it records none. -/
  keeps (i : Incident) : (run name incidents).recorded? i = none →
    history name (incidents ++ [i]) = history name incidents ∧
      (run name (incidents ++ [i])).log = (run name incidents).log
  /-- It records a message exactly if it is the origin of it, -/
  recorded_iff (i : Incident) (m : WireMessage) :
    (run name incidents).recorded? i = some m ↔ Origin (run name incidents) i m
  /-- and the message tells where it comes from. -/
  stamped (i : Incident) (m : WireMessage) : (run name incidents).recorded? i = some m → Stamped name i m
  /-- All that was recorded has its origin in the run. -/
  sources (m : WireMessage) : m ∈ history name incidents →
    ∃ earlier i later, incidents = earlier ++ i :: later ∧ Origin (run name earlier) i m
  /-- The blocked users are those that were blocked by a command and not unblocked since, whoever came and went, -/
  blocked_iff (u : Username) : u ∈ (run name incidents).blocked ↔ Silenced name u incidents
  /-- and nothing that they say reaches the peer. -/
  silenced (u : Username) : Silenced name u incidents → ∀ now text isPrivate,
    (run name incidents).recorded? (.deed (.receive now u text isPrivate)) = none ∧
      (run name incidents).receive now u text isPrivate = (run name incidents, false)

/-- **The log that a peer serves is the end of all that it has recorded.** Every incident records one message at most,
which tells whose it is and for whom; and from the command that blocks a user to the next one that unblocks him nothing
is recorded that he says. -/
theorem chronicled_run (name : Username) (incidents : List Incident) : Chronicled name incidents where
  served := by
    show Http.Reply.json (Wire.ofMessages (run name incidents).log) = _
    rw [log_run]
  length_log := by
    rw [log_run]
    unfold List.rtake
    rw [List.length_drop]
    omega
  records i m hrecorded := by
    refine ⟨by rw [history_concat, hrecorded]; rfl, ?_⟩
    rw [run_concat, (course_meets _ i).records hrecorded]
    exact records_record _ m
  keeps i hrecorded := by
    refine ⟨by rw [history_concat, hrecorded]; exact List.append_nil _, ?_⟩
    rw [run_concat, (course_meets _ i).log hrecorded]
  recorded_iff _ _ := recorded?_eq_some_iff
  stamped i m hrecorded := by
    have hstamped := stamped_of_origin (recorded?_eq_some_iff.1 hrecorded)
    rwa [name_run] at hstamped
  sources m hm := by
    obtain ⟨earlier, i, later, hincidents, hrecorded⟩ := exists_of_mem_gathered name recorded? hm
    exact ⟨earlier, i, later, hincidents, recorded?_eq_some_iff.1 hrecorded⟩
  blocked_iff _ := mem_blocked_run
  silenced u hsilenced now text isPrivate := by
    have hblocked : (run name incidents).blocked.contains u = true :=
      NameSet.contains_iff.2 (mem_blocked_run.2 hsilenced)
    exact ⟨if_pos hblocked, if_pos hblocked⟩

end PeerChat.Peer
