import PeerChat.Proofs.Console.Verbs
import PeerChat.Proofs.Peer.Orders

/-!
Block commands, from the console to the block list of the peer. The console takes everything after the verb for the
name, and the session sends it on as it is; the peer ends the name at its first space.

* `trimmed_of_readLine`: what the console can take for a name;
* `submit_command`: the peer changes the place of the user that the name is read as, or refuses the command;
* `reblocked_of_readLine`: so a command touches the user that it names or nobody exactly if there is no space in the
  name.
-/

namespace PeerChat

open Calendar (Timestamp)

/-- The user whom a command would block or unblock. -/
def Command.blockTarget? : Command → Option Username
  | setBlocked intent => some intent.username
  | toggleBlock username => some username
  | _ => none

/-! ### The console -/

lemma Console.trimmed_of_readLine {line : String} {commands : List Command} {command : Command} {name : Username}
    (hread : readLine line = .ok (.commands commands)) (hmem : command ∈ commands)
    (hname : command.blockTarget? = some name) : Text.trim name = name ∧ name ≠ "" := by
  rcases asked_of_readLine hread hmem with ⟨_, rfl⟩ | rfl | ⟨argument, hasks, htrimmed⟩
  · exact nomatch hname
  · exact nomatch hname
  · cases hasks with
    | setBlocked username block => exact htrimmed name hname
    | toggleBlock username => exact htrimmed name hname
    | answer accepted argument => cases argument <;> exact nomatch hname
    | shutdown | switchConversation | sendEmoji | sendFile => exact nomatch hname

/-! ### The session -/

/-- The session stays as it is, and asks for one thing: that the command is sent. -/
lemma Session.exists_intent {command : Command} {name : Username} (hname : command.blockTarget? = some name)
    (s : Session) : ∃ intent : BlockIntent, intent.username = name ∧
      s.command command = ⟨s, [], [.sendText intent.command (.block intent)]⟩ := by
  cases command with
  | setBlocked intent => exact ⟨intent, Option.some.inj hname, rfl⟩
  | toggleBlock username => exact ⟨.toggle username s.store.blocked, Option.some.inj hname, rfl⟩
  | _ => exact nomatch hname

/-! ### The peer -/

namespace Peer

/-- Nothing may have changed but the place of one user on the block list. -/
structure Reblocks (username : Username) (before after : Peer) : Prop where
  others (other : Username) : other ≠ username → (other ∈ after.blocked ↔ other ∈ before.blocked)
  rest : after = { before with blocked := after.blocked }

variable (p : Peer) (now : Timestamp) (intent : BlockIntent)

lemma reblocks_carryOut : p.Reblocks intent.username (p.carryOut now (.setBlocked intent)) where
  others other hother := by rw [mem_blocked_carryOut, if_neg hother]
  rest := rfl

/-- The command is carried out on the user that the name is read as, if he is online; if not, it is refused. -/
theorem submit_command (hname : Order.readName intent.username ≠ "") :
    (Order.readName intent.username ∈ p.online ∧ p.submit now intent.command =
        .ok (p.carryOut now (.setBlocked ⟨Order.readName intent.username, intent.block⟩))) ∨
      (Order.readName intent.username ∉ p.online ∧
        p.submit now intent.command = .error (.notOnline (Order.readName intent.username))) :=
  submit_cases (Order.ofText_command intent hname) rfl

end Peer

/-! ### From the line to the block list -/

/-- What becomes of a command that would block or unblock a user when it reaches the peer at a time. -/
structure Reblocked (now : Timestamp) (intent : BlockIntent) : Prop where
  /-- It blocks or unblocks the user that the name is read as, if he is online, and changes nothing else. -/
  carriedOut (p : Peer) : Order.readName intent.username ∈ p.online →
    ∃ q, p.submit now intent.command = .ok q ∧ p.Reblocks (Order.readName intent.username) q ∧
      (Order.readName intent.username ∈ q.blocked ↔ intent.block = true)
  /-- It is refused otherwise, and the peer stays as it is. -/
  refused (p : Peer) : Order.readName intent.username ∉ p.online →
    p.submit now intent.command = .error (.notOnline (Order.readName intent.username)) ∧
      p.does (.submit now intent.command) = p
  /-- That it touches the user that it names or nobody, whatever the peer holds, is so exactly if there is no space in
  the name. -/
  named_iff : (∀ p q : Peer, p.submit now intent.command = .ok q → p.Reblocks intent.username q) ↔
    ' ' ∉ intent.username.toList

lemma reblocked_of_trimmed (now : Timestamp) {intent : BlockIntent}
    (htrimmed : Text.trim intent.username = intent.username) (hne : intent.username ≠ "") : Reblocked now intent := by
  have hread : Order.readName intent.username ≠ "" := Order.readName_ne_empty htrimmed hne
  have hcarried : ∀ p : Peer, Order.readName intent.username ∈ p.online →
      ∃ q, p.submit now intent.command = .ok q ∧ p.Reblocks (Order.readName intent.username) q ∧
        (Order.readName intent.username ∈ q.blocked ↔ intent.block = true) := by
    intro p honline
    rcases p.submit_command now intent hread with ⟨-, hsubmit⟩ | ⟨habsent, -⟩
    · let read : BlockIntent := ⟨Order.readName intent.username, intent.block⟩
      have hafter : read.username ∈ (p.carryOut now (.setBlocked read)).blocked ↔ read.block = true := by
        rw [Peer.mem_blocked_carryOut, if_pos rfl]
      exact ⟨_, hsubmit, p.reblocks_carryOut now read, hafter⟩
    · exact absurd honline habsent
  refine ⟨hcarried, ?_, ?_⟩
  · intro p habsent
    rcases p.submit_command now intent hread with ⟨honline, -⟩ | ⟨-, hsubmit⟩
    · exact absurd honline habsent
    · exact ⟨hsubmit, Peer.does_submit_of_error hsubmit⟩
  · rw [← Order.readName_eq_iff htrimmed]
    constructor
    · intro hnamed
      by_contra hother
      -- a peer at which the command makes a difference to the user that the name is read as
      let p : Peer :=
        { (Peer.start "").join (Order.readName intent.username) with
          blocked := if intent.block then ∅ else NameSet.empty.insert (Order.readName intent.username) }
      obtain ⟨q, hsubmit, -, hafter⟩ := hcarried p (NameSet.mem_insert.2 (Or.inl rfl))
      have hsame := (hnamed p q hsubmit).others _ hother
      rw [hafter] at hsame
      cases hblock : intent.block <;> simp [p, hblock] at hsame
    · intro hsame p q hsubmit
      rcases p.submit_command now intent hread with ⟨-, hcarried⟩ | ⟨-, hrefused⟩
      · rw [hsubmit, hsame] at hcarried
        rw [Except.ok.inj hcarried]
        exact p.reblocks_carryOut now intent
      · rw [hsubmit] at hrefused
        exact nomatch hrefused

/-- **A block command touches the user that its name is read as, or nobody**; that is the user whom the line names
exactly if there is no space in the name. -/
theorem reblocked_of_readLine (now : Timestamp) {line : String} {commands : List Command} {command : Command}
    {name : Username} (hread : Console.readLine line = .ok (.commands commands)) (hmem : command ∈ commands)
    (hname : command.blockTarget? = some name) (s : Session) :
    ∃ intent : BlockIntent, intent.username = name ∧
      s.command command = ⟨s, [], [.sendText intent.command (.block intent)]⟩ ∧ Reblocked now intent := by
  obtain ⟨htrimmed, hne⟩ := Console.trimmed_of_readLine hread hmem hname
  obtain ⟨intent, rfl, hcommand⟩ := s.exists_intent hname
  exact ⟨intent, rfl, hcommand, reblocked_of_trimmed now htrimmed hne⟩

/-- A line with blanks of three kinds around its name, and a space in it. -/
theorem reblocked_of_two_words :
    ∃ (now : Timestamp) (s : Session),
      Console.readLine "/toggle\t bob smith \r\n" = .ok (.commands [.toggleBlock "bob smith"]) ∧
        Command.toggleBlock "bob smith" ∈ [Command.toggleBlock "bob smith"] ∧
          (Command.toggleBlock "bob smith").blockTarget? = some "bob smith" ∧
            ∃ intent : BlockIntent, intent.username = "bob smith" ∧ s.command (.toggleBlock "bob smith") =
              ⟨s, [], [.sendText intent.command (.block intent)]⟩ ∧ Reblocked now intent := by
  have hread : Console.readLine "/toggle\t bob smith \r\n" = .ok (.commands [.toggleBlock "bob smith"]) := by
    decide +kernel
  have hmem : Command.toggleBlock "bob smith" ∈ [Command.toggleBlock "bob smith"] := List.mem_singleton.2 rfl
  exact ⟨.epoch, .empty, hread, hmem, rfl, reblocked_of_readLine .epoch hread hmem rfl .empty⟩

/-- The line that would block `bob smith` blocks `bob`. -/
theorem another_user_is_blocked :
    ¬∀ (line : String) (commands : List Command) (command : Command) (name text : String) (purpose : SendPurpose)
      (s : Session) (p q : Peer) (now : Timestamp), Console.readLine line = .ok (.commands commands) →
        command ∈ commands → command.blockTarget? = some name →
          s.command command = ⟨s, [], [.sendText text purpose]⟩ → p.submit now text = .ok q → p.Reblocks name q := by
  intro h
  let p : Peer := (Peer.start "alice").join "bob"
  let q : Peer := { p with blocked := NameSet.ofList ["bob"] }
  let intent : BlockIntent := ⟨"bob smith", true⟩
  have hread : Console.readLine "/block bob smith" = .ok (.commands [.setBlocked intent]) := by decide +kernel
  have hsubmit : p.submit .epoch "/block bob smith" = .ok q := by decide +kernel
  have hreblocks : p.Reblocks "bob smith" q :=
    h "/block bob smith" _ (.setBlocked intent) "bob smith" "/block bob smith" (.block intent)
      .empty p q .epoch hread (List.mem_singleton.2 rfl) rfl (by decide +kernel) hsubmit
  exact absurd (hreblocks.others "bob" (by decide)) (by decide +kernel)

end PeerChat
