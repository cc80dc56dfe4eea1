import PeerChat.Proofs.Console.Verbs
import PeerChat.Proofs.Exchange.PlainLines
import PeerChat.Proofs.Text.Cut

/-!
What the lines of a console can ask for, and which line asks for what. A line is blank, or a draft, or begins with a
slash; then the blanks around its verb and around the argument are gone from the command that it asks for.

* `clean_of_asks`: what a verb asks for is clean, if its argument is trimmed and not empty;
* `readLine_words`, `readLine_word`: a verb with an argument, and one without, are read as they are written;
* `readLine_lineOf`: a clean command is what its line asks for;
* `exactImage`: the commands of the lines are nothing, a draft that is submitted, or one clean command.
-/

namespace PeerChat.Console

variable {line verb words lead rest : String} {argument : Option String} {command : Command}

/-! ### Trimmed texts that are not empty -/

/-- A text that a verb can have as its argument. -/
structure IsTidy (s : String) : Prop where
  trimmed : Text.trim s = s
  nonempty : s ≠ ""

namespace IsTidy

variable {s front back : String} {c : Char}

lemma toList_ne_nil (h : IsTidy s) : s.toList ≠ [] := fun hnil => h.nonempty (String.toList_eq_nil_iff.1 hnil)

lemma trimChars_toList (h : IsTidy s) : Text.trimChars s.toList = s.toList := by
  rw [← Text.toList_trim, h.trimmed]

lemma isBlank_head? (h : IsTidy s) (hc : s.toList.head? = some c) : Text.isBlank c = false :=
  (Text.trimChars_eq_self_iff.1 h.trimChars_toList).1 c hc

lemma isBlank_getLast? (h : IsTidy s) (hc : s.toList.getLast? = some c) : Text.isBlank c = false :=
  (Text.trimChars_eq_self_iff.1 h.trimChars_toList).2 c hc

lemma of_word (hne : s ≠ "") (hword : ∀ c ∈ s.toList, Text.isBlank c = false) : IsTidy s :=
  ⟨Text.trim_of_forall hword, hne⟩

lemma isAllBlank (h : IsTidy s) : Text.isAllBlank s = false := by
  rw [Bool.eq_false_iff, ne_eq, Text.isAllBlank_eq_true_iff, h.trimmed]
  exact h.nonempty

/-- What begins with one such text and ends with another is such a text, whatever stands between them. -/
lemma append (hfront : IsTidy front) (hback : IsTidy back) (between : String) : IsTidy (front ++ between ++ back) where
  trimmed := by
    have hlist : (front ++ between ++ back).toList = front.toList ++ (between.toList ++ back.toList) := by
      rw [String.toList_append, String.toList_append, List.append_assoc]
    have hends : Text.trimChars (front ++ between ++ back).toList = (front ++ between ++ back).toList := by
      rw [Text.trimChars_eq_self_iff, hlist]
      constructor
      · intro c hc
        rw [List.head?_append_of_ne_nil _ hfront.toList_ne_nil] at hc
        exact hfront.isBlank_head? hc
      · intro c hc
        rw [← List.append_assoc, List.getLast?_append_of_ne_nil _ hback.toList_ne_nil] at hc
        exact hback.isBlank_getLast? hc
    rw [← String.toList_inj, Text.toList_trim, hends]
  nonempty := by
    intro hnil
    rw [← String.toList_eq_nil_iff, String.toList_append, List.append_eq_nil_iff] at hnil
    exact hback.toList_ne_nil hnil.2

end IsTidy

/-! ### Clean commands -/

/-- The commands that a verb can ask for. -/
inductive IsClean : Command → Prop
  | everyone : IsClean (.switchConversation .everyone)
  | withPeer {peer : Username} (hpeer : IsTidy peer) (hother : peer ≠ Conversation.everyoneId) :
      IsClean (.switchConversation (.withPeer peer))
  | sendEmoji {id : String} (hid : IsTidy id) : IsClean (.sendEmoji id)
  | respondToPrompt (accepted : Bool) : IsClean (.respondToPrompt accepted)
  | respondToOffer {fileId : String} (hfile : IsTidy fileId) (accepted : Bool) :
      IsClean (.respondToOffer ⟨fileId, accepted⟩)
  | toggleBlock {name : Username} (hname : IsTidy name) : IsClean (.toggleBlock name)
  | setBlocked {name : Username} (hname : IsTidy name) (block : Bool) : IsClean (.setBlocked ⟨name, block⟩)
  /-- The target is one word; the path may have blanks in it. -/
  | sendFile {path : String} {target : Username} (hne : target ≠ "")
      (hword : ∀ c ∈ target.toList, Text.isBlank c = false) (hpath : IsTidy path) : IsClean (.sendFile path target)
  | shutdown : IsClean .shutdown

lemma ofId_of_tidy {id : String} (hid : IsTidy id) (hother : id ≠ Conversation.everyoneId) :
    Conversation.ofId id = .withPeer id := by
  unfold Conversation.ofId
  simp only [hid.trimmed, hid.nonempty, hother, or_self, if_false]

lemma clean_ofId {id : String} (hid : IsTidy id) : IsClean (.switchConversation (.ofId id)) := by
  by_cases hall : id = Conversation.everyoneId
  · have heveryone : Conversation.ofId id = .everyone := by
      unfold Conversation.ofId
      rw [hid.trimmed, if_pos (Or.inr hall)]
    rw [heveryone]
    exact .everyone
  · rw [ofId_of_tidy hid hall]
    exact .withPeer hid hall

/-- The two parts of an argument that is trimmed: the blank between them ends neither of them. -/
lemma clean_of_cutAtBlank {target path : String} (hwords : IsTidy words)
    (hcut : Text.cutAtBlank words = some (target, path)) : IsClean (.sendFile (Text.trim path) target) := by
  obtain ⟨c, hc, hword, hlist⟩ := Text.cutAtBlank_eq_some_iff.1 hcut
  have htarget : target ≠ "" := by
    rintro rfl
    rw [hwords.isBlank_head? (by rw [hlist]; rfl)] at hc
    exact nomatch hc
  have hpath : Text.trim path ≠ "" := by
    intro hblank
    rw [← Text.isAllBlank_eq_true_iff] at hblank
    have hall : ∀ d ∈ c :: path.toList, Text.isBlank d = true :=
      List.forall_mem_cons.2 ⟨hc, List.all_eq_true.1 hblank⟩
    have hne : c :: path.toList ≠ [] := List.cons_ne_nil _ _
    have hend : words.toList.getLast? = some ((c :: path.toList).getLast hne) := by
      rw [hlist, List.getLast?_append_of_ne_nil _ hne, List.getLast?_eq_some_getLast hne]
    have hvisible : Text.isBlank ((c :: path.toList).getLast hne) = false := hwords.isBlank_getLast? hend
    rw [hall _ (List.getLast_mem hne)] at hvisible
    exact nomatch hvisible
  exact .sendFile htarget hword ⟨Text.trim_trim path, hpath⟩

theorem clean_of_asks (h : Asks argument command) (hargument : ∀ words, argument = some words → IsTidy words) :
    IsClean command := by
  cases h with
  | shutdown => exact .shutdown
  | switchConversation id => exact clean_ofId (hargument id rfl)
  | sendEmoji id => exact .sendEmoji (hargument id rfl)
  | answer accepted =>
    cases argument with
    | none => exact .respondToPrompt accepted
    | some fileId => exact .respondToOffer (hargument fileId rfl) accepted
  | setBlocked name block => exact .setBlocked (hargument name rfl) block
  | toggleBlock name => exact .toggleBlock (hargument name rfl)
  | sendFile hcut => exact clean_of_cutAtBlank (hargument _ rfl) hcut

/-! ### Reading verbs -/

lemma withoutLineEnd_eq_self_iff : withoutLineEnd line = line ↔
    ∀ c, line.toList.getLast? = some c → (c == '\r' || c == '\n') = false := by
  rw [← String.toList_inj, toList_withoutLineEnd, Text.dropTrailing_eq_self_iff]

lemma withoutLineEnd_of_tidy (h : IsTidy line) : withoutLineEnd line = line := by
  rw [withoutLineEnd_eq_self_iff]
  intro c hc
  have hvisible : Text.isBlank c = false := h.isBlank_getLast? hc
  rw [Bool.eq_false_iff]
  intro hend
  rw [isBlank_of_isLineEnd c hend] at hvisible
  exact nomatch hvisible

lemma readLine_of_slash (hslash : Text.after? "/" (withoutLineEnd line) = some rest) :
    readLine line = readVerb (cutVerb rest).1 (cutVerb rest).2 := by
  have hvisible : Text.isAllBlank (withoutLineEnd line) = false := by
    rw [Text.after?_eq_some_iff.1 hslash, Text.isAllBlank, String.toList_append]
    rfl
  unfold readLine
  simp only [hvisible, hslash]
  rfl

lemma readLine_of_tidy (h : IsTidy ("/" ++ rest)) :
    readLine ("/" ++ rest) = readVerb (cutVerb rest).1 (cutVerb rest).2 := by
  apply readLine_of_slash
  rw [withoutLineEnd_of_tidy h, Text.after?_eq_some_iff]

section Verb

variable (verb) (hverb : verb.toList.all (!Text.isBlank ·) = true)

include hverb

lemma tidy_slash : IsTidy ("/" ++ verb) := by
  apply IsTidy.of_word
  · intro hnil
    rw [← String.toList_eq_nil_iff, String.toList_append] at hnil
    exact nomatch hnil
  · intro c hc
    rw [String.toList_append] at hc
    rcases List.mem_append.1 hc with hc | hc
    · rw [List.mem_singleton.1 hc]
      rfl
    · exact Text.visible_of_all hverb c hc

lemma readLine_word : readLine ("/" ++ verb) = readVerb verb none := by
  have hcut : cutVerb verb = (verb, none) := by
    unfold cutVerb Text.cutAtBlank
    rw [Text.cutWhere_of_forall (Text.visible_of_all hverb)]
    rfl
  rw [readLine_of_tidy (tidy_slash verb hverb), hcut]

lemma readLine_words (hlead : lead = "/" ++ verb ++ " ") (hwords : IsTidy words) :
    readLine (lead ++ words) = readVerb verb (some words) := by
  have hcut : cutVerb (verb ++ " " ++ words) = (verb, some words) := by
    unfold cutVerb
    rw [Text.cutAtBlank_append_space (Text.visible_of_all hverb)]
    simp only [hwords.trimmed, Option.filter_some, hwords.nonempty, ne_eq, not_false_eq_true, decide_true, if_true]
  have hline : lead ++ words = "/" ++ (verb ++ " " ++ words) := by
    rw [hlead]
    simp only [String.append_assoc]
  have htidy : IsTidy (lead ++ words) := by
    rw [hlead]
    exact (tidy_slash verb hverb).append hwords " "
  rw [hline] at htidy ⊢
  rw [readLine_of_tidy htidy, hcut]

end Verb

/-! ### The line of a command -/

lemma readSendFile_words {path target : String} (hword : ∀ c ∈ target.toList, Text.isBlank c = false)
    (hpath : IsTidy path) : readSendFile (some (target ++ " " ++ path)) = .ok (.sendFile path target) := by
  have hcut := Text.cutAtBlank_append_space hword path
  simp only [readSendFile, required, bind, Except.bind, hcut, hpath.trimmed]
  rfl

theorem readLine_lineOf (h : IsClean command) :
    ∃ line, lineOf? command = some line ∧ readLine line = .ok (.commands [command]) := by
  cases h with
  | everyone => exact ⟨_, rfl, by decide +kernel⟩
  | @withPeer peer hpeer hother =>
    have hread : readLine ("/chat " ++ peer) = .ok (.single (.switchConversation (.ofId peer))) :=
      readLine_words "chat" (by decide) rfl hpeer
    rw [ofId_of_tidy hpeer hother] at hread
    exact ⟨_, rfl, hread⟩
  | sendEmoji hid => exact ⟨_, rfl, readLine_words "emoji" (by decide) rfl hid⟩
  | respondToPrompt accepted =>
    cases accepted with
    | true => exact ⟨_, rfl, readLine_word "accept" (by decide)⟩
    | false => exact ⟨_, rfl, readLine_word "reject" (by decide)⟩
  | respondToOffer hfile accepted =>
    cases accepted with
    | true => exact ⟨_, rfl, readLine_words "accept" (by decide) rfl hfile⟩
    | false => exact ⟨_, rfl, readLine_words "reject" (by decide) rfl hfile⟩
  | toggleBlock hname => exact ⟨_, rfl, readLine_words "toggle" (by decide) rfl hname⟩
  | setBlocked hname block =>
    cases block with
    | true => exact ⟨_, rfl, readLine_words "block" (by decide) rfl hname⟩
    | false => exact ⟨_, rfl, readLine_words "unblock" (by decide) rfl hname⟩
  | @sendFile path target hne hword hpath =>
    have hwords : IsTidy (target ++ " " ++ path) := (IsTidy.of_word hne hword).append hpath " "
    have hline : "/sendfile " ++ target ++ " " ++ path = "/sendfile " ++ (target ++ " " ++ path) := by
      simp only [String.append_assoc]
    have hread : readLine ("/sendfile " ++ (target ++ " " ++ path)) =
        (readSendFile (some (target ++ " " ++ path))).map .single :=
      readLine_words "sendfile" (by decide) rfl hwords
    rw [← hline, readSendFile_words hword hpath] at hread
    exact ⟨_, rfl, hread⟩
  | shutdown => exact ⟨_, rfl, by decide +kernel⟩

/-! ### What lines ask for -/

/-- A text that a line sets as the draft and submits. -/
structure IsDraft (text : String) : Prop where
  visible : Text.isAllBlank text = false
  plain : text.toList.head? ≠ some '/'
  ends : ∀ c, text.toList.getLast? = some c → c ≠ '\r' ∧ c ≠ '\n'

/-- What a line asks for, by the way it begins. -/
structure Reads (line : String) : Prop where
  blank : Text.isAllBlank line = true → readLine line = .ok (.commands [])
  /-- The draft is the line without the line ends after it. -/
  plain : Text.isAllBlank line = false → line.toList.head? ≠ some '/' →
    ∃ text ends, IsDraft text ∧ line = text ++ ends ∧ (∀ c ∈ ends.toList, c = '\r' ∨ c = '\n') ∧
      readLine line = .ok (.commands [.updateDraft text, .submitDraft])
  /-- A slash comes before a verb, which asks for one clean command at most. -/
  slash : line.toList.head? = some '/' →
    readLine line = .ok .help ∨ readLine line = .ok .emojiCatalogue ∨ (∃ fault, readLine line = .error fault) ∨
      ∃ command, IsClean command ∧ readLine line = .ok (.commands [command])

lemma readLine_of_blank (hblank : Text.isAllBlank line = true) : readLine line = .ok (.commands []) := by
  unfold readLine
  simp only [isAllBlank_withoutLineEnd, hblank, if_true]

lemma exists_lineEnds (line : String) :
    ∃ ends, line = withoutLineEnd line ++ ends ∧ ∀ c ∈ ends.toList, c = '\r' ∨ c = '\n' := by
  let isEnd : Char → Bool := fun c => c == '\r' || c == '\n'
  refine ⟨String.ofList (line.toList.rtakeWhile isEnd), ?_, ?_⟩
  · rw [← String.toList_inj, String.toList_append, toList_withoutLineEnd, String.toList_ofList]
    exact List.rdropWhile_append_rtakeWhile.symm
  · intro c hc
    rw [String.toList_ofList] at hc
    have hend : isEnd c = true := List.mem_rtakeWhile_imp hc
    simpa [isEnd] using hend

lemma withoutLineEnd_withoutLineEnd (line : String) : withoutLineEnd (withoutLineEnd line) = withoutLineEnd line := by
  rw [← String.toList_inj, toList_withoutLineEnd (withoutLineEnd line), toList_withoutLineEnd]
  exact List.rdropWhile_idempotent _ _

lemma IsDraft.withoutLineEnd_eq {text : String} (h : IsDraft text) : withoutLineEnd text = text := by
  rw [withoutLineEnd_eq_self_iff]
  intro c hc
  obtain ⟨hcr, hlf⟩ := h.ends c hc
  simp [hcr, hlf]

lemma isDraft_withoutLineEnd (hvisible : Text.isAllBlank line = false) (hplain : line.toList.head? ≠ some '/') :
    IsDraft (withoutLineEnd line) where
  visible := by rwa [isAllBlank_withoutLineEnd]
  plain := head?_withoutLineEnd hplain
  ends := by
    intro c hc
    have hend := withoutLineEnd_eq_self_iff.1 (withoutLineEnd_withoutLineEnd line) c hc
    simpa using hend

lemma exists_after_slash (hslash : line.toList.head? = some '/') :
    ∃ rest, Text.after? "/" (withoutLineEnd line) = some rest := by
  have hvisible : Text.isAllBlank (withoutLineEnd line) = false := by
    obtain ⟨cs, hcs⟩ := List.head?_eq_some_iff.1 hslash
    rw [isAllBlank_withoutLineEnd, Text.isAllBlank, hcs]
    rfl
  have hne : (withoutLineEnd line).toList ≠ [] := by
    intro hnil
    rw [Text.isAllBlank, hnil] at hvisible
    exact nomatch hvisible
  rw [← Option.ne_none_iff_exists', ne_eq, Text.after?_slash_eq_none_iff, not_not,
    Text.head?_of_begins (begins_withoutLineEnd line) hne, hslash]

lemma clean_of_slash {commands : List Command} (hslash : Text.after? "/" (withoutLineEnd line) = some rest)
    (h : readLine line = .ok (.commands commands)) : ∃ command, IsClean command ∧ commands = [command] := by
  rw [readLine_of_slash hslash] at h
  obtain ⟨command, rfl, hasks⟩ := asks_of_readVerb h
  refine ⟨command, clean_of_asks hasks ?_, rfl⟩
  intro words hwords
  obtain ⟨htrimmed, hne⟩ := trimmed_of_cutVerb hwords
  exact ⟨htrimmed, hne⟩

theorem reads (line : String) : Reads line where
  blank := readLine_of_blank
  plain := by
    intro hvisible hplain
    obtain ⟨ends, hline, hends⟩ := exists_lineEnds line
    exact ⟨_, ends, isDraft_withoutLineEnd hvisible hplain, hline, hends, readLine_of_plain hvisible hplain⟩
  slash := by
    intro hslash
    obtain ⟨rest, hrest⟩ := exists_after_slash hslash
    cases h : readLine line with
    | error fault => exact Or.inr (Or.inr (Or.inl ⟨fault, rfl⟩))
    | ok input =>
      cases input with
      | help => exact Or.inl rfl
      | emojiCatalogue => exact Or.inr (Or.inl rfl)
      | commands commands =>
        obtain ⟨command, hclean, rfl⟩ := clean_of_slash hrest h
        exact Or.inr (Or.inr (Or.inr ⟨command, hclean, rfl⟩))

theorem exists_readLine_iff (commands : List Command) : (∃ line, readLine line = .ok (.commands commands)) ↔
    commands = [] ∨ (∃ text, IsDraft text ∧ commands = [.updateDraft text, .submitDraft]) ∨
      ∃ command, IsClean command ∧ commands = [command] := by
  constructor
  · rintro ⟨line, h⟩
    by_cases hslash : line.toList.head? = some '/'
    · obtain ⟨rest, hrest⟩ := exists_after_slash hslash
      exact Or.inr (Or.inr (clean_of_slash hrest h))
    · cases hblank : Text.isAllBlank line with
      | true =>
        rw [readLine_of_blank hblank] at h
        exact Or.inl (Input.commands.inj (Except.ok.inj h)).symm
      | false =>
        rw [readLine_of_plain hblank hslash] at h
        refine Or.inr (Or.inl ⟨_, isDraft_withoutLineEnd hblank hslash, ?_⟩)
        exact (Input.commands.inj (Except.ok.inj h)).symm
  · rintro (rfl | ⟨text, htext, rfl⟩ | ⟨command, hclean, rfl⟩)
    · exact ⟨"", readLine_of_blank rfl⟩
    · have hread := readLine_of_plain htext.visible htext.plain
      rw [htext.withoutLineEnd_eq] at hread
      exact ⟨text, hread⟩
    · obtain ⟨line, -, hread⟩ := readLine_lineOf hclean
      exact ⟨line, hread⟩

/-- What the lines of a console can ask for. -/
structure ExactImage : Prop where
  reads (line : String) : Reads line
  /-- A clean command is what its line asks for. -/
  canonical (command : Command) : IsClean command →
    ∃ line, lineOf? command = some line ∧ readLine line = .ok (.commands [command])
  /-- The lists of commands that lines ask for. -/
  commands_iff (commands : List Command) : (∃ line, readLine line = .ok (.commands commands)) ↔
    commands = [] ∨ (∃ text, IsDraft text ∧ commands = [.updateDraft text, .submitDraft]) ∨
      ∃ command, IsClean command ∧ commands = [command]
  /-- No session refuses to send a file to a clean target. -/
  sends (s : Session) (path : String) (target : Username) : IsClean (.sendFile path target) →
    s.command (.sendFile path target) = ⟨s, [], [.sendFile path target]⟩

lemma command_sendFile (s : Session) {path : String} {target : Username} (h : IsClean (.sendFile path target)) :
    s.command (.sendFile path target) = ⟨s, [], [.sendFile path target]⟩ := by
  cases h with
  | sendFile hne hword =>
    have hvisible : Text.isAllBlank target = false := (IsTidy.of_word hne hword).isAllBlank
    simp only [Session.command, hvisible]
    rfl

/-- **A line asks for nothing, for a draft to be submitted or for one clean command, and each clean command has its
line.** -/
theorem exactImage : ExactImage where
  reads := reads
  canonical := fun _ => readLine_lineOf
  commands_iff := exists_readLine_iff
  sends := fun s _ _ => command_sendFile s

end PeerChat.Console
