import Mathlib.Data.List.Induction
import PeerChat.Proofs.Session.Fetch
import PeerChat.Proofs.Session.Run
import PeerChat.Session.Picture

/-!
Coherence: what an observer knows from the events alone is at all times what there is to see of the session. Every
handler leads from the picture of the session that it was given to that of the session that it leaves; a snapshot that
is taken without being shown has changed nothing that can be seen.
-/

namespace PeerChat

open Transfer (Offer Prompts)

/-- The events of a turn lead from what there is to see of `s` to what there is to see of the session that the turn
leaves. -/
def Turn.Shows (turn : Turn) (s : Session) : Prop := turn.events.foldl Picture.after s.picture = turn.session.picture

namespace Session

variable (s : Session)

/-! ### Commands -/

lemma shows_tell (level : NoticeLevel) (text : String) : (s.tell level text).Shows s := rfl

lemma shows_send (content : Content) (purpose : SendPurpose) : (s.send content purpose).Shows s := by
  unfold send
  split <;> rfl

lemma shows_switchTo (conversation : Conversation) : (s.switchTo conversation).Shows s := rfl

lemma shows_respondTo (fileId : FileId) (accepted : Bool) : (s.respondTo fileId accepted).Shows s := by
  unfold respondTo Prompts.respondTo
  by_cases hp : s.prompts.state? fileId = some .prompted
  · rw [if_pos hp]
    show List.foldl _ _ _ = Session.picture _
    cases hc : s.prompts.current with
    | none => simp [picture, visibleMessages, users, hc]
    | some prompt =>
      by_cases hid : prompt.fileId = fileId
      · simp [picture, visibleMessages, users, Picture.after, Option.filter_some, hid, hc]
      · simp [picture, visibleMessages, users, Option.filter_some, hid, hc]
  · rw [if_neg hp]
    exact s.shows_tell _ _

theorem shows_command (command : Command) : (s.command command).Shows s := by
  cases command with
  | switchConversation conversation => exact s.shows_switchTo conversation
  | submitDraft => exact s.shows_send _ _
  | sendEmoji id => exact s.shows_send _ _
  | respondToPrompt accepted =>
    unfold Session.command
    cases hc : s.prompts.current with
    | none => exact s.shows_tell _ _
    | some prompt => exact s.shows_respondTo prompt.fileId accepted
  | respondToOffer response => exact s.shows_respondTo _ _
  | sendFile path target =>
    unfold Session.command
    by_cases hb : Text.isAllBlank target
    · simpa only [hb, if_true] using s.shows_tell _ _
    · simp only [hb]
      rfl
  | updateDraft | toggleBlock | setBlocked | shutdown => rfl

/-! ### Snapshots -/

/-- The prompts that a look at the queue raises and withdraws are opened and closed before the user. -/
lemma shows_scan (p : Prompts) (queue : List Offer) (picture : Picture) (hc : picture.current = p.current) :
    ((p.scan queue).2.map .ofPromptUpdate).foldl Picture.after picture =
      { picture with current := (p.scan queue).1.current } := by
  have hnext : ∀ (q : Prompts) (seen : Picture), seen.current = q.current →
      ((q.raiseNext queue).2.map .ofPromptUpdate).foldl Picture.after seen =
        { seen with current := (q.raiseNext queue).1.current } := by
    intro q seen hq
    unfold Prompts.raiseNext
    split
    · rfl
    · rw [← hq]; rfl
  unfold Prompts.scan
  split
  · exact hnext p picture hc
  · next prompt hprompt =>
    split
    · rw [← hc]; rfl
    · exact hnext (p.withdraw prompt.fileId) { picture with current := none } rfl

section Stored

variable {s} {seq : Nat} {forced : Bool} {snapshot : Snapshot}

lemma shows_nothing (hm : (s.stored seq forced snapshot).visibleMessages = s.visibleMessages)
    (hu : (s.stored seq forced snapshot).users = s.users) : Turn.Shows ⟨s.stored seq forced snapshot, [], []⟩ s := by
  unfold Turn.Shows picture
  rw [hm, hu]
  rfl

lemma shows_messagesEvent (hu : (s.stored seq forced snapshot).users = s.users) :
    Turn.Shows ⟨s.stored seq forced snapshot, [(s.stored seq forced snapshot).messagesEvent], []⟩ s := by
  unfold Turn.Shows picture
  rw [hu]
  rfl

lemma shows_rosterEvent (hm : (s.stored seq forced snapshot).visibleMessages = s.visibleMessages) :
    Turn.Shows ⟨s.stored seq forced snapshot, [(s.stored seq forced snapshot).rosterEvent], []⟩ s := by
  unfold Turn.Shows picture
  rw [hm]
  rfl

lemma shows_fetched_messages {log : List Message} (h : s.store.isStale .messages seq = false) :
    (s.fetched seq forced (.messages log)).Shows s := by
  have hu : (s.stored seq forced (.messages log)).users = s.users := by
    unfold users
    rw [store_stored_messages h]
  rw [fetched_messages h]
  split
  · exact shows_messagesEvent hu
  · next hk =>
    refine shows_nothing ?_ hu
    unfold visibleMessages
    rw [store_stored_messages h, Store.pick_of_not_keeps hk]
    rfl

lemma shows_fetched_roster {entries : List String} (h : s.store.isStale .roster seq = false) :
    (s.fetched seq forced (.roster entries)).Shows s := by
  have hm : (s.stored seq forced (.roster entries)).store.identity = s.store.identity →
      (s.stored seq forced (.roster entries)).visibleMessages = s.visibleMessages := by
    intro hi
    unfold visibleMessages
    rw [hi, store_stored_roster h]
    rfl
  have hu : ¬((Roster.users entries).length ≠ s.store.roster.length ∨ forced) →
      (s.stored seq forced (.roster entries)).users = s.users := by
    intro hk
    unfold users
    rw [store_stored_roster h, Store.pick_of_not_keeps hk]
  rw [fetched_roster h]
  by_cases hi : (s.stored seq forced (.roster entries)).store.identity = s.store.identity
  · rw [if_pos hi, List.append_nil]
    split
    · exact shows_rosterEvent (hm hi)
    · next hk => exact shows_nothing (hm hi) (hu hk)
  · rw [if_neg hi]
    split
    · rfl
    · next hk => exact shows_messagesEvent (hu hk)

lemma shows_fetched_blockList {names : BlockList} (h : s.store.isStale .blockList seq = false) :
    (s.fetched seq forced (.blockList names)).Shows s := by
  have hm : (s.stored seq forced (.blockList names)).visibleMessages = s.visibleMessages := by
    unfold visibleMessages
    rw [store_stored_blockList h]
    rfl
  rw [fetched_blockList h]
  split
  · exact shows_rosterEvent hm
  · next hk =>
    refine shows_nothing hm ?_
    have hn : names = s.store.blocked := Decidable.not_not.1 (not_or.1 hk).1
    unfold users
    rw [store_stored_blockList h, hn]

lemma shows_fetched_transfers {queue : List Offer} (h : s.store.isStale .transfers seq = false) :
    (s.fetched seq forced (.transfers queue)).Shows s := by
  rw [fetched_transfers h]
  unfold Turn.Shows
  rw [shows_scan s.prompts queue s.picture rfl]
  unfold picture visibleMessages users
  rw [store_stored_transfers h]
  rfl

end Stored

theorem shows_fetched (seq : Nat) (forced : Bool) (snapshot : Snapshot) : (s.fetched seq forced snapshot).Shows s := by
  cases h : s.store.isStale snapshot.resource seq with
  | true => rw [fetched_of_stale h]; rfl
  | false =>
    cases snapshot with
    | messages log => exact shows_fetched_messages h
    | roster entries => exact shows_fetched_roster h
    | transfers queue => exact shows_fetched_transfers h
    | blockList names => exact shows_fetched_blockList h

/-! ### Other ends of requests -/

lemma shows_observe (reachable : Bool) : (s.observe reachable).Shows s := by
  unfold observe
  split <;> rfl

lemma shows_fetchFailed (resource : Resource) (failure : Failure) : (s.fetchFailed resource failure).Shows s := by
  unfold fetchFailed
  split
  · exact s.shows_observe false
  · rfl

lemma shows_sent (purpose : SendPurpose) (failure : Option Failure) : (s.sent purpose failure).Shows s := by
  unfold sent
  split <;> rfl

lemma shows_fileOffered (path : String) (target : Username) (failure : Option Failure) :
    (s.fileOffered path target failure).Shows s := by
  unfold fileOffered
  split <;> rfl

/-- The end of an answer never touches the open prompt. -/
lemma shows_responded (response : Transfer.Response) (failure : Option Failure) :
    (s.responded response failure).Shows s := by
  have hc : (s.prompts.complete response.fileId failure.isNone).current = s.prompts.current := by
    unfold Prompts.complete
    split <;> rfl
  unfold responded
  split <;> exact congrArg (fun current => { s.picture with current := current }) hc.symm

theorem shows_complete (completion : Completion) : (s.complete completion).Shows s := by
  cases completion with
  | fetched seq forced snapshot => exact s.shows_fetched seq forced snapshot
  | fetchFailed resource failure => exact s.shows_fetchFailed resource failure
  | probed failure => exact s.shows_observe failure.isNone
  | sent purpose failure => exact s.shows_sent purpose failure
  | fileOffered path target failure => exact s.shows_fileOffered path target failure
  | responded response failure => exact s.shows_responded response failure

/-! ### Runs -/

/-- One turn leads the picture on. -/
theorem shows_turn (input : Input) : (s.turn input).Shows s := by
  cases input with
  | command command => exact s.shows_command command
  | completion completion => exact s.shows_complete completion

/-- **The observer is never behind.** After any run, of any commands and any ends of requests in any order, the picture
that the events give is what there is to see of the session. -/
theorem picture_ofEvents_run (inputs : List Input) :
    Picture.ofEvents (empty.run inputs).events = (empty.run inputs).session.picture := by
  induction inputs using List.reverseRecOn with
  | nil => rfl
  | append_singleton inputs input ih =>
    have hturn := shows_turn (empty.run inputs).session input
    unfold Turn.Shows at hturn
    rw [run_concat]
    show Picture.ofEvents (_ ++ _) = _
    unfold Picture.ofEvents at ih ⊢
    rw [List.foldl_append, ih, hturn]
    rfl

end Session

end PeerChat
