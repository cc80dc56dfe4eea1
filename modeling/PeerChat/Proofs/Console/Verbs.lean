import Mathlib.Tactic.Lemma
import PeerChat.Console.Line
import PeerChat.Proofs.Text.Trim

/-!
What a line that begins with a verb can ask for: at most one command, and which one goes with the argument.

* `asks_of_readVerb`: the commands that verbs ask for;
* `asked_of_readLine`: a command of a line comes from its verb, with an argument that is trimmed and not empty, or it
  belongs to a message.
-/

namespace PeerChat.Console

variable {verb rest line : String} {argument : Option String} {commands : List Command} {command : Command}

/-- A verb with this argument can ask for this command. -/
inductive Asks : Option String → Command → Prop
  | shutdown (argument : Option String) : Asks argument .shutdown
  | switchConversation (id : String) : Asks (some id) (.switchConversation (.ofId id))
  | sendEmoji (id : String) : Asks (some id) (.sendEmoji id)
  | answer (accepted : Bool) (argument : Option String) : Asks argument (answer accepted argument)
  | setBlocked (name : Username) (block : Bool) : Asks (some name) (.setBlocked ⟨name, block⟩)
  | toggleBlock (name : Username) : Asks (some name) (.toggleBlock name)
  | sendFile {words target path : String} (hwords : Text.cutAtBlank words = some (target, path)) :
      Asks (some words) (.sendFile (Text.trim path) target)

lemma commands_of_single (h : Input.single command = .commands commands) : commands = [command] :=
  (Input.commands.inj h).symm

lemma exists_of_required {usage : String} {ask : String → Input} {input : Input}
    (h : (required usage argument).map ask = .ok input) : ∃ words, argument = some words ∧ ask words = input := by
  cases argument with
  | none => exact nomatch h
  | some words => exact ⟨words, rfl, Except.ok.inj h⟩

lemma asks_of_readSendFile (h : readSendFile argument = .ok command) : Asks argument command := by
  unfold readSendFile at h
  cases argument with
  | none => exact nomatch h
  | some words =>
    cases hwords : Text.cutAtBlank words with
    | none =>
      simp only [required, hwords, bind, Except.bind] at h
      exact nomatch h
    | some cut =>
      simp only [required, hwords, bind, Except.bind] at h
      rw [← Except.ok.inj h]
      exact .sendFile hwords

/-- A verb asks for one command, if for any. -/
theorem asks_of_readVerb (h : readVerb verb argument = .ok (.commands commands)) :
    ∃ command, commands = [command] ∧ Asks argument command := by
  unfold readVerb at h
  -- the cases are the verbs, in the order in which they are read
  split at h
  · exact nomatch h
  · exact ⟨_, commands_of_single (Except.ok.inj h), .shutdown argument⟩
  · exact ⟨_, commands_of_single (Except.ok.inj h), .shutdown argument⟩
  · obtain ⟨id, rfl, hask⟩ := exists_of_required h
    exact ⟨_, commands_of_single hask, .switchConversation id⟩
  · cases argument with
    | none => exact nomatch h
    | some id => exact ⟨_, commands_of_single (Except.ok.inj h), .sendEmoji id⟩
  · exact ⟨_, commands_of_single (Except.ok.inj h), .answer true argument⟩
  · exact ⟨_, commands_of_single (Except.ok.inj h), .answer false argument⟩
  · obtain ⟨name, rfl, hask⟩ := exists_of_required h
    exact ⟨_, commands_of_single hask, .setBlocked name true⟩
  · obtain ⟨name, rfl, hask⟩ := exists_of_required h
    exact ⟨_, commands_of_single hask, .setBlocked name false⟩
  · obtain ⟨name, rfl, hask⟩ := exists_of_required h
    exact ⟨_, commands_of_single hask, .toggleBlock name⟩
  · cases hread : readSendFile argument with
    | error fault =>
      rw [hread] at h
      exact nomatch h
    | ok command =>
      rw [hread] at h
      exact ⟨_, commands_of_single (Except.ok.inj h), asks_of_readSendFile hread⟩
  · exact nomatch h

lemma trimmed_of_cutVerb {words : String} (h : (cutVerb rest).2 = some words) :
    Text.trim words = words ∧ words ≠ "" := by
  unfold cutVerb at h
  cases hcut : Text.cutAtBlank rest with
  | none => rw [hcut] at h; exact nomatch h
  | some cut =>
    obtain ⟨word, argument⟩ := cut
    rw [hcut] at h
    dsimp only at h
    obtain ⟨hwords, hne⟩ := Option.filter_eq_some_iff.1 h
    rw [← Option.some.inj hwords] at hne ⊢
    exact ⟨Text.trim_trim argument, of_decide_eq_true hne⟩

/-- The commands of a line are those of a message, or the one that its verb asks for. -/
theorem asked_of_readLine (h : readLine line = .ok (.commands commands)) (hmem : command ∈ commands) :
    (∃ text, command = .updateDraft text) ∨ command = .submitDraft ∨
      ∃ argument, Asks argument command ∧ ∀ words, argument = some words → Text.trim words = words ∧ words ≠ "" := by
  unfold readLine at h
  dsimp only at h
  split at h
  · rw [← Input.commands.inj (Except.ok.inj h)] at hmem
    exact nomatch hmem
  · split at h
    · rw [← Input.commands.inj (Except.ok.inj h)] at hmem
      rcases List.mem_pair.1 hmem with rfl | rfl
      · exact Or.inl ⟨_, rfl⟩
      · exact Or.inr (Or.inl rfl)
    · next rest _ =>
      obtain ⟨asked, rfl, hasks⟩ := asks_of_readVerb h
      rw [List.mem_singleton.1 hmem]
      exact Or.inr (Or.inr ⟨(cutVerb rest).2, hasks, fun _ hwords => trimmed_of_cutVerb hwords⟩)

end PeerChat.Console
