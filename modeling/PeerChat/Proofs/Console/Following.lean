import PeerChat.Proofs.Console.Transcript
import PeerChat.Proofs.Store.Growth

/-!
How the console follows a session: what stands below the last header, and what is visible of the current conversation.

* `followed_turn`, `followed_turn_switched`: a turn that makes the view shorter, or switches it, prints it anew; any other
  one adds what the view has beyond its old length;
* `length_below_run`: so there are at all times as many message lines as there are visible messages;
* `showsView_iff_continues`: if the message log only grows, these lines are the visible messages all along exactly if the
  local user never becomes known by another name in a way that puts messages in between those that are printed;
* `late_identity_misprints`: which can happen.
-/

namespace PeerChat

/-! ### What a turn shows of the conversation -/

/-- A turn shows nothing of the conversation and leaves its view as it is, or it shows the view that it leaves. -/
inductive Turn.Views (turn : Turn) (s : Session) : Prop
  | same (views : turn.events.filter Event.isView = [])
      (messages : turn.session.visibleMessages = s.visibleMessages)
  | updated (views : turn.events.filter Event.isView = [turn.session.messagesEvent])

namespace Session

variable {s : Session}

lemma visibleMessages_eq {t : Session} (hconversation : t.conversation = s.conversation)
    (hidentity : t.store.identity = s.store.identity) (hmessages : t.store.messages = s.store.messages) :
    t.visibleMessages = s.visibleMessages := by
  unfold visibleMessages
  rw [hconversation, hidentity, hmessages]

lemma views_of_keeps {turn : Turn} (h : turn.Keeps s) : turn.Views s := by
  refine .same h.views (visibleMessages_eq h.conversation ?_ ?_)
  · rw [h.store]
  · rw [h.store]

lemma filter_isView_map (updates : List Transfer.PromptUpdate) :
    (updates.map Event.ofPromptUpdate).filter Event.isView = [] := by
  refine List.filter_eq_nil_iff.2 fun event hevent => ?_
  obtain ⟨update, -, rfl⟩ := List.mem_map.1 hevent
  cases update <;> exact Bool.false_ne_true

variable (s)

lemma views_fetched (seq : Nat) (forced : Bool) (snapshot : Snapshot) : (s.fetched seq forced snapshot).Views s := by
  cases h : s.store.isStale snapshot.resource seq with
  | true =>
    rw [fetched_of_stale h]
    exact .same rfl rfl
  | false =>
    cases snapshot with
    | messages log =>
      rw [fetched_messages h]
      split
      · exact .updated rfl
      · next hk =>
        refine .same rfl (visibleMessages_eq rfl ?_ ?_)
        · rw [store_stored_messages h]
        · rw [store_stored_messages h]
          exact Store.pick_of_not_keeps hk
    | roster entries =>
      rw [fetched_roster h]
      by_cases hi : (s.stored seq forced (.roster entries)).store.identity = s.store.identity
      · rw [if_pos hi, List.append_nil]
        refine .same ?_ (visibleMessages_eq rfl hi ?_)
        · show List.filter _ (if _ then _ else _) = _
          split <;> rfl
        · rw [store_stored_roster h]
      · rw [if_neg hi]
        refine .updated ?_
        show List.filter _ ((if _ then _ else _) ++ _) = _
        split <;> rfl
    | blockList names =>
      rw [fetched_blockList h]
      refine .same ?_ (visibleMessages_eq rfl ?_ ?_)
      · show List.filter _ (if _ then _ else _) = _
        split <;> rfl
      · rw [store_stored_blockList h]
      · rw [store_stored_blockList h]
    | transfers queue =>
      rw [fetched_transfers h]
      refine .same (filter_isView_map _) (visibleMessages_eq rfl ?_ ?_)
      · rw [store_stored_transfers h]
      · rw [store_stored_transfers h]

variable {s}

/-- Unless the user turns to another conversation, the current one is shown or not. -/
theorem views_turn {input : Input} (h : input.conversation? = none) : (s.turn input).Views s := by
  cases hcall : input.call? with
  | some c =>
    obtain rfl := eq_of_call?_eq_some hcall
    exact s.views_fetched c.seq c.forced c.snapshot
  | none =>
    cases hdraft : input.draft? with
    | none => exact views_of_keeps (keeps_turn hdraft hcall)
    | some text =>
      rcases eq_of_draft?_eq_some hdraft with rfl | ⟨-, conversation, rfl⟩ | ⟨-, rfl⟩
      · exact .same rfl rfl
      · exact nomatch h
      · exact .same rfl rfl

lemma views_turn_switched {input : Input} {conversation : Conversation} (h : input.conversation? = some conversation) :
    ∃ discardedDraft, (s.turn input).events.filter Event.isView =
      [.conversationSwitched conversation discardedDraft, (s.turn input).session.messagesEvent] := by
  unfold Input.conversation? at h
  split at h
  · cases h
    exact ⟨_, rfl⟩
  · exact nomatch h

/-! ### What stands on the console -/

variable (s) (zone : Calendar.Zone)

/-- The lines of the visible messages. -/
def visibleLines : List String := s.visibleMessages.map (Console.messageLine zone)

/-- The printer knows how far it has printed the visible messages, and as many lines stand below the last header. -/
structure Followed (screen : Console.Screen) : Prop where
  printer : screen.printer = ⟨some s.conversation, s.visibleMessages.length⟩ ∨
    (screen.printer = .empty ∧ s.visibleMessages = [])
  length_below : screen.below.length = s.visibleMessages.length

def screenAfter (screen : Console.Screen) (input : Input) : Console.Screen :=
  (s.turn input).events.foldl (Console.Screen.after zone) screen

variable {s} {zone} {screen : Console.Screen}

lemma length_visibleLines : (s.visibleLines zone).length = s.visibleMessages.length := List.length_map _

lemma followed_updated {t : Session} (h : s.Followed screen) (hconversation : t.conversation = s.conversation) :
    t.Followed (screen.after zone t.messagesEvent) ∧
      (screen.after zone t.messagesEvent).below =
        if (t.visibleLines zone).length < (s.visibleLines zone).length then t.visibleLines zone
        else screen.below ++ (t.visibleLines zone).drop (s.visibleLines zone).length := by
  have hbelow := h.length_below
  rw [length_visibleLines, length_visibleLines]
  by_cases hshorter : t.visibleMessages.length < s.visibleMessages.length
  · have hfresh : ¬(screen.printer.conversation = some t.conversation ∧
        screen.printer.printed ≤ t.visibleMessages.length) := by
      rintro ⟨-, hle⟩
      rcases h.printer with hprinter | ⟨-, hnil⟩
      · rw [hprinter] at hle
        exact absurd hshorter (Nat.not_lt.2 hle)
      · rw [hnil] at hshorter
        exact Nat.not_lt_zero _ hshorter
    unfold messagesEvent
    rw [Console.Screen.after_messagesUpdated_of_fresh zone hfresh, if_pos hshorter]
    exact ⟨⟨Or.inl rfl, length_visibleLines⟩, rfl⟩
  · rw [if_neg hshorter]
    unfold messagesEvent
    rcases h.printer with hprinter | ⟨hprinter, hnil⟩
    · have hgrown : screen.printer.conversation = some t.conversation ∧
          screen.printer.printed ≤ t.visibleMessages.length := by
        rw [hprinter, hconversation]
        exact ⟨rfl, Nat.not_lt.1 hshorter⟩
      rw [Console.Screen.after_messagesUpdated_of_grown zone hgrown, hprinter]
      refine ⟨⟨Or.inl rfl, ?_⟩, ?_⟩
      · simp only [List.length_append, List.length_map, List.length_drop]
        omega
      · unfold visibleLines
        rw [List.map_drop]
    · -- nothing is printed yet, and nothing was visible
      have hfresh : ¬(screen.printer.conversation = some t.conversation ∧
          screen.printer.printed ≤ t.visibleMessages.length) := by
        rintro ⟨hc, -⟩
        rw [hprinter] at hc
        exact nomatch hc
      have hempty : screen.below = [] := by
        rw [hnil] at hbelow
        exact List.eq_nil_of_length_eq_zero hbelow
      rw [Console.Screen.after_messagesUpdated_of_fresh zone hfresh, hempty, hnil]
      exact ⟨⟨Or.inl rfl, length_visibleLines⟩, rfl⟩

/-- Unless the user turns to another conversation, a view that got shorter is printed anew, and what any other view has
beyond its old length is added. -/
lemma followed_turn {input : Input} (h : s.Followed screen) (hstays : input.conversation? = none) :
    (s.turn input).session.Followed (s.screenAfter zone screen input) ∧
      (s.screenAfter zone screen input).below =
        if ((s.turn input).session.visibleLines zone).length < (s.visibleLines zone).length then
          (s.turn input).session.visibleLines zone
        else
          screen.below ++ ((s.turn input).session.visibleLines zone).drop (s.visibleLines zone).length := by
  have hconversation : (s.turn input).session.conversation = s.conversation := by
    rw [conversation_turn, hstays]
    rfl
  unfold screenAfter
  rw [Console.Screen.foldl_after_filter]
  cases views_turn hstays with
  | updated views =>
    rw [views]
    exact followed_updated h hconversation
  | same views messages =>
    rw [views]
    have hlines : (s.turn input).session.visibleLines zone = s.visibleLines zone := by
      unfold visibleLines
      rw [messages]
    refine ⟨⟨?_, ?_⟩, ?_⟩
    · rw [hconversation, messages]
      exact h.printer
    · rw [messages]
      exact h.length_below
    · rw [hlines, if_neg (Nat.lt_irrefl _), List.drop_length, List.append_nil]
      rfl

lemma followed_turn_switched {input : Input} (hswitch : input.conversation? ≠ none) :
    (s.turn input).session.Followed (s.screenAfter zone screen input) ∧
      (s.screenAfter zone screen input).below = (s.turn input).session.visibleLines zone := by
  obtain ⟨conversation, hconversation⟩ := Option.ne_none_iff_exists'.1 hswitch
  obtain ⟨discardedDraft, hviews⟩ := s.views_turn_switched hconversation
  unfold screenAfter
  rw [Console.Screen.foldl_after_filter, hviews, List.foldl_cons]
  have hfresh : ¬((screen.after zone (.conversationSwitched conversation discardedDraft)).printer.conversation =
      some (s.turn input).session.conversation ∧
        (screen.after zone (.conversationSwitched conversation discardedDraft)).printer.printed ≤
          (s.turn input).session.visibleMessages.length) := by
    rintro ⟨hc, -⟩
    exact nomatch hc
  show (s.turn input).session.Followed (Console.Screen.after zone _ (.messagesUpdated _ _)) ∧
    (Console.Screen.after zone _ (.messagesUpdated _ _)).below = _
  rw [Console.Screen.after_messagesUpdated_of_fresh zone hfresh]
  exact ⟨⟨Or.inl rfl, length_visibleLines⟩, rfl⟩

/-! ### Runs -/

variable (zone)

def screenOf (inputs : List Input) : Console.Screen := .ofEvents zone (empty.run inputs).events

lemma screenOf_concat (inputs : List Input) (input : Input) :
    screenOf zone (inputs ++ [input]) =
      (empty.run inputs).session.screenAfter zone (screenOf zone inputs) input := by
  unfold screenOf
  rw [run_concat]
  show List.foldl _ _ (_ ++ _) = _
  rw [List.foldl_append]
  rfl

lemma session_run_concat (inputs : List Input) (input : Input) :
    (empty.run (inputs ++ [input])).session = ((empty.run inputs).session.turn input).session := by
  rw [run_concat]
  rfl

theorem followed_run (inputs : List Input) : (empty.run inputs).session.Followed (screenOf zone inputs) := by
  induction inputs using List.reverseRecOn with
  | nil => exact ⟨Or.inr ⟨rfl, rfl⟩, rfl⟩
  | append_singleton inputs input ih =>
    rw [screenOf_concat, session_run_concat]
    by_cases hstays : input.conversation? = none
    · exact (followed_turn ih hstays).1
    · exact (followed_turn_switched hstays).1

/-- What stands below the last header is the visible messages, one line for each, in their order. -/
def ShowsView (inputs : List Input) : Prop :=
  Console.belowHeader (Console.transcript zone (empty.run inputs).events) =
    (empty.run inputs).session.visibleLines zone

lemma showsView_iff {inputs : List Input} :
    ShowsView zone inputs ↔ (screenOf zone inputs).below = (empty.run inputs).session.visibleLines zone := by
  unfold ShowsView screenOf
  rw [Console.Screen.ofEvents_eq]

/-- In any run, there are as many message lines below the last header as there are visible messages. -/
theorem length_below_run (inputs : List Input) :
    (Console.belowHeader (Console.transcript zone (empty.run inputs).events)).length =
      (empty.run inputs).session.visibleMessages.length := by
  have h := (followed_run zone inputs).length_below
  unfold screenOf at h
  rwa [Console.Screen.ofEvents_eq] at h

/-! ### When the console is right -/

/-- The lines of a view can be printed after those of the view before it: they begin with them, or they are fewer and
are printed anew. -/
def Continues (old new : List String) : Prop := new.length < old.length ∨ old <+: new

instance (old new : List String) : Decidable (Continues old new) := by
  unfold Continues; infer_instance

/-- A console that was right stays right exactly if the new view continues the old one, or is that of a conversation to
which the user turned. -/
lemma showsView_concat_iff {inputs : List Input} {input : Input} (h : ShowsView zone inputs) :
    ShowsView zone (inputs ++ [input]) ↔
      input.conversation? ≠ none ∨
        Continues ((empty.run inputs).session.visibleLines zone)
          ((empty.run (inputs ++ [input])).session.visibleLines zone) := by
  have hfollowed := followed_run zone inputs
  have hbelow := (showsView_iff zone).1 h
  rw [showsView_iff, screenOf_concat, session_run_concat]
  by_cases hstays : input.conversation? = none
  · rw [(followed_turn hfollowed hstays).2, hbelow]
    unfold Continues
    by_cases hshorter : (((empty.run inputs).session.turn input).session.visibleLines zone).length <
        ((empty.run inputs).session.visibleLines zone).length
    · simp [hshorter]
    · rw [if_neg hshorter]
      simp only [hstays, hshorter, ne_eq, not_true_eq_false, false_or]
      exact List.prefix_iff_eq_append.symm
  · simp only [(followed_turn_switched hstays).2, hstays, ne_eq, not_false_eq_true, true_or]

/-- If the message log only grows, a view changes in its middle only when the local user becomes known by another
name. -/
lemma prefix_of_identity_eq {inputs : List Input} {input : Input} (hgrows : Store.Grows (answers (inputs ++ [input])))
    (hstays : input.conversation? = none)
    (hidentity : (empty.run (inputs ++ [input])).session.store.identity =
      (empty.run inputs).session.store.identity) :
    (empty.run inputs).session.visibleLines zone <+:
      (empty.run (inputs ++ [input])).session.visibleLines zone := by
  have hconversation : (empty.run (inputs ++ [input])).session.conversation =
      (empty.run inputs).session.conversation := by
    rw [session_run_concat, conversation_turn, hstays]
    rfl
  have hmessages : (empty.run inputs).session.store.messages <+:
      (empty.run (inputs ++ [input])).session.store.messages := by
    rw [store_run, store_run]
    rw [answers_concat] at hgrows ⊢
    cases hcall : input.call? with
    | none => exact List.prefix_refl _
    | some c =>
      rw [hcall] at hgrows
      exact Store.messages_after_prefix hgrows
  unfold visibleLines visibleMessages Conversation.view
  rw [hconversation, hidentity]
  exact (hmessages.filter _).map _

lemma grows_of_begins {inputs earlier : List Input} (hgrows : Store.Grows (answers inputs))
    (hearlier : earlier <+: inputs) : Store.Grows (answers earlier) := by
  obtain ⟨later, rfl⟩ := hearlier
  unfold answers at hgrows ⊢
  rw [List.filterMap_append, List.reverse_append] at hgrows
  exact hgrows.of_suffix (List.suffix_append _ _)

lemma identity_eq_of_switched {inputs : List Input} {input : Input} (hswitch : input.conversation? ≠ none) :
    (empty.run (inputs ++ [input])).session.store.identity = (empty.run inputs).session.store.identity := by
  obtain ⟨conversation, hconversation⟩ := Option.ne_none_iff_exists'.1 hswitch
  have hcall : input.call? = none := by
    unfold Input.conversation? at hconversation
    split at hconversation
    · rfl
    · exact nomatch hconversation
  rw [session_run_concat, store_turn, hcall]
  rfl

/-- **When the console shows the whole conversation, once.** If the message log only grows, what stands below the last
header is the visible messages after every step of a run exactly if at every step at which the local user becomes known
by another name, the view that there is then continues the one before. -/
theorem showsView_iff_continues {inputs : List Input} (hgrows : Store.Grows (answers inputs)) :
    (∀ earlier, earlier <+: inputs → ShowsView zone earlier) ↔
      ∀ earlier input, earlier ++ [input] <+: inputs →
        (empty.run (earlier ++ [input])).session.store.identity ≠ (empty.run earlier).session.store.identity →
          Continues ((empty.run earlier).session.visibleLines zone)
            ((empty.run (earlier ++ [input])).session.visibleLines zone) := by
  constructor
  · intro hshows earlier input hbegins hidentity
    have hbefore : ShowsView zone earlier := hshows earlier ((List.prefix_append _ _).trans hbegins)
    rcases (showsView_concat_iff zone hbefore).1 (hshows _ hbegins) with hswitch | hcontinues
    · exact absurd (identity_eq_of_switched hswitch) hidentity
    · exact hcontinues
  · intro hcontinues earlier hearlier
    induction earlier using List.reverseRecOn with
    | nil => rfl
    | append_singleton earlier input ih =>
      have hbefore : ShowsView zone earlier := ih ((List.prefix_append _ _).trans hearlier)
      refine (showsView_concat_iff zone hbefore).2 ?_
      by_cases hswitch : input.conversation? = none
      · by_cases hidentity : (empty.run (earlier ++ [input])).session.store.identity =
            (empty.run earlier).session.store.identity
        · exact Or.inr (Or.inr (prefix_of_identity_eq zone (grows_of_begins hgrows hearlier) hswitch hidentity))
        · exact Or.inr (hcontinues earlier input hearlier hidentity)
      · exact Or.inl hswitch

/-- The local user becomes known late, while a message to a peer is already printed; the console stays right,
on clocks that are nine hours ahead of UTC. -/
theorem showsView_of_late_identity :
    ∃ zone inputs, Store.Grows (answers inputs) ∧ (empty.run inputs).session.store.identity = some "alice" ∧
      (empty.run inputs).session.visibleMessages.length = 2 ∧ ∀ earlier, earlier <+: inputs → ShowsView zone earlier := by
  let zone : Calendar.Zone := ⟨fun _ => 32400⟩
  let noon : Calendar.Timestamp := ⟨⟨2025, 3, 1, by decide, by decide, by decide⟩, 12, 0, 0, 0, by decide, by decide,
    by decide, by decide⟩
  let sent : Message := ⟨"alice", some "bob", .text "hello", noon, true⟩
  let received : Message := ⟨"bob", some "alice", .text "hi", noon, false⟩
  let inputs : List Input := [.command (.switchConversation (.withPeer "bob")),
    .completion (.fetched 1 false (.messages [sent, received])),
    .completion (.fetched 1 false (.roster ["alice (自己)", "bob"]))]
  have hgrows : Store.Grows (answers inputs) := Store.grows_of_appendOnly ⟨by decide, by decide⟩
  have hcontinues : ∀ taken ∈ inputs.inits,
      (empty.run taken).session.store.identity ≠ (empty.run taken.dropLast).session.store.identity →
        Continues ((empty.run taken.dropLast).session.visibleLines zone)
          ((empty.run taken).session.visibleLines zone) := by
    decide +kernel
  refine ⟨zone, inputs, hgrows, by decide +kernel, by decide +kernel, (showsView_iff_continues zone hgrows).2 ?_⟩
  intro earlier input hbegins hidentity
  have h := hcontinues (earlier ++ [input]) (List.mem_inits _ _ |>.2 hbegins)
  rw [List.dropLast_concat] at h
  exact h hidentity

/-- The console can be wrong: a message of the peer is revealed above one that is printed already, and that one is
printed once more in its stead. -/
theorem late_identity_misprints :
    ¬∀ inputs : List Input, Store.Grows (answers inputs) → ShowsView .utc inputs := by
  intro h
  let noon : Calendar.Timestamp := ⟨⟨2025, 3, 1, by decide, by decide, by decide⟩, 12, 0, 0, 0, by decide, by decide,
    by decide, by decide⟩
  let received : Message := ⟨"bob", some "alice", .text "hi", noon, false⟩
  let sent : Message := ⟨"alice", some "bob", .text "hello", noon, true⟩
  let inputs : List Input := [.command (.switchConversation (.withPeer "bob")),
    .completion (.fetched 1 false (.messages [received, sent])),
    .completion (.fetched 1 false (.roster ["alice (自己)", "bob"]))]
  have hgrows : Store.Grows (answers inputs) := Store.grows_of_appendOnly ⟨by decide, by decide⟩
  have hwrong : ¬ShowsView .utc inputs := by
    unfold ShowsView
    decide +kernel
  exact hwrong (h inputs hgrows)

end Session

end PeerChat
