import Mathlib.Tactic.Lemma
import PeerChat.Transfer.Prompts

/-!
Acts: the single things that can happen to an offer before the user. An offer is raised, withdrawn or answered, and its
answer is settled. Every call on the prompts is a row of at most two acts on different offers, so that what an act keeps
is kept by every run of calls.

* `sound_act`: the raised ids are those that stand somewhere, and the open prompt is the one prompted id;
* `moves_act`: an act moves its own offer along one edge of the life of an offer;
* `path_ranks`: the acts on one offer go up in rank, so that none of them happens twice.
-/

namespace PeerChat.Transfer

/-- One thing that happens to one offer. -/
inductive Act
  | raise (prompt : Prompt)
  | withdraw (fileId : FileId)
  | answer (response : Response)
  /-- The answer arrived, or did not. -/
  | settle (response : Response) (succeeded : Bool)
deriving DecidableEq, Repr

namespace Act

def fileId : Act → FileId
  | raise prompt => prompt.fileId
  | withdraw fileId => fileId
  | answer response => response.fileId
  | settle response _ => response.fileId

/-- Where the offer stands afterwards. -/
def target : Act → PromptState
  | raise _ => .prompted
  | withdraw _ => .withdrawn
  | answer response => .answered response.accepted
  | settle response succeeded => Prompts.settled response.accepted succeeded

/-- What the user sees of it. -/
def update? : Act → Option PromptUpdate
  | raise prompt => some (.raised prompt)
  | withdraw fileId => some (.withdrawn fileId)
  | answer _ | settle _ _ => none

/-- What the peer is told of it. -/
def response? : Act → Option Response
  | answer response => some response
  | raise _ | withdraw _ | settle _ _ => none

def raised? : Act → Option Prompt
  | raise prompt => some prompt
  | withdraw _ | answer _ | settle _ _ => none

end Act

/-- The life of an offer: an offer that was never raised is raised, then withdrawn or answered, and an answer arrives
or fails. Nothing leads on from there. -/
inductive Moves : Option PromptState → Option PromptState → Prop
  | raised : Moves none (some .prompted)
  | withdrawn : Moves (some .prompted) (some .withdrawn)
  | answered (accepted : Bool) : Moves (some .prompted) (some (.answered accepted))
  | failed (accepted : Bool) : Moves (some (.answered accepted)) (some .failed)
  | accepted : Moves (some (.answered true)) (some .accepted)
  | rejected : Moves (some (.answered false)) (some .rejected)

/-- The states that no offer leaves. -/
def PromptState.isFinal : PromptState → Bool
  | accepted | rejected | failed | withdrawn => true
  | prompted | answered _ => false

lemma Moves.isFinal_eq_false {state : PromptState} {after : Option PromptState} (h : Moves (some state) after) :
    state.isFinal = false := by
  cases h <;> rfl

/-- How far a state is along the life of an offer. -/
def PromptState.rank : PromptState → Nat
  | prompted => 1
  | answered _ | withdrawn => 2
  | accepted | rejected | failed => 3

/-- The rank of where an offer stands; none is the lowest. -/
def rankOf (state : Option PromptState) : Nat := state.elim 0 PromptState.rank

lemma Moves.rank_lt {before after : Option PromptState} (h : Moves before after) : rankOf before < rankOf after := by
  cases h <;> exact Nat.lt_succ_self _

namespace Prompts

/-- The prompts after an act. -/
def act (p : Prompts) : Act → Prompts
  | .raise prompt => p.raise prompt
  | .withdraw fileId => p.withdraw fileId
  | .answer response =>
    { p.setState response.fileId (.answered response.accepted) with
      current := p.current.filter (·.fileId ≠ response.fileId) }
  | .settle response succeeded => p.setState response.fileId (settled response.accepted succeeded)

/-- Whether an act can happen. -/
def Allows (p : Prompts) : Act → Prop
  | .raise prompt => p.current = none ∧ p.wasPrompted prompt.fileId = false
  | .withdraw fileId => p.current.map (·.fileId) = some fileId
  | .answer response => p.state? response.fileId = some .prompted
  | .settle response _ => p.state? response.fileId = some (.answered response.accepted)

/-- The acts can happen in this order, and lead from one to the other. -/
inductive Path (p : Prompts) : List Act → Prompts → Prop
  | nil : Path p [] p
  | concat {acts : List Act} {q : Prompts} {a : Act} : Path p acts q → q.Allows a → Path p (acts ++ [a]) (q.act a)

/-! ### Where offers stand -/

lemma lookup_filter_ne (states : List (FileId × PromptState)) {x fileId : FileId} (h : x ≠ fileId) :
    (states.filter (·.1 ≠ fileId)).lookup x = states.lookup x := by
  induction states with
  | nil => rfl
  | cons entry states ih =>
    by_cases he : entry.1 = fileId
    · rw [List.filter_cons_of_neg (by simpa using he), ih, List.lookup_cons]
      have : (x == entry.1) = false := by simpa using he ▸ h
      rw [this]
    · rw [List.filter_cons_of_pos (by simpa using he), List.lookup_cons, List.lookup_cons, ih]

lemma state?_setState (p : Prompts) (fileId x : FileId) (state : PromptState) :
    (p.setState fileId state).state? x = if x = fileId then some state else p.state? x := by
  unfold state? setState
  rw [List.lookup_cons]
  by_cases h : x = fileId
  · simp [h]
  · have hx : (x == fileId) = false := by simpa using h
    rw [hx, if_neg h]
    exact lookup_filter_ne _ h

variable (p : Prompts) (a : Act)

/-- An act says where its own offer stands, and leaves all others where they are. -/
lemma state?_act (x : FileId) : (p.act a).state? x = if x = a.fileId then some a.target else p.state? x := by
  cases a <;> exact p.state?_setState _ x _

lemma state?_act_self : (p.act a).state? a.fileId = some a.target := by rw [state?_act, if_pos rfl]

lemma state?_act_of_ne {x : FileId} (h : x ≠ a.fileId) : (p.act a).state? x = p.state? x := by
  rw [state?_act, if_neg h]

/-! ### What every act keeps -/

/-- The raised ids are those that stand somewhere, and the open prompt is the one prompted id. -/
structure Sound (p : Prompts) : Prop where
  raised_iff : ∀ fileId, p.wasPrompted fileId = true ↔ (p.state? fileId).isSome = true
  prompted_iff : ∀ fileId, p.state? fileId = some .prompted ↔ p.current.map (·.fileId) = some fileId

lemma sound_empty : Sound empty where
  raised_iff fileId := by
    show (∅ : NameSet).contains fileId = true ↔ _
    rw [NameSet.contains_iff]
    simp [state?, empty]
  prompted_iff _ := by simp [state?, empty]

variable {p a}

lemma Sound.state?_eq_none (hp : p.Sound) {fileId : FileId} (h : p.wasPrompted fileId = false) :
    p.state? fileId = none := by
  rw [← Option.not_isSome_iff_eq_none, ← hp.raised_iff, h]
  decide

/-- An act that can happen moves its offer along an edge. -/
theorem moves_act (hp : p.Sound) (ha : p.Allows a) : Moves (p.state? a.fileId) (some a.target) := by
  cases a with
  | raise prompt =>
    show Moves (p.state? prompt.fileId) (some .prompted)
    rw [hp.state?_eq_none ha.2]
    exact .raised
  | withdraw fileId =>
    show Moves (p.state? fileId) (some .withdrawn)
    rw [(hp.prompted_iff fileId).2 ha]
    exact .withdrawn
  | answer response =>
    show Moves (p.state? response.fileId) (some (.answered response.accepted))
    rw [show p.state? response.fileId = some .prompted from ha]
    exact .answered _
  | settle response succeeded =>
    show Moves (p.state? response.fileId) (some (settled response.accepted succeeded))
    rw [show p.state? response.fileId = some (.answered response.accepted) from ha]
    unfold settled
    cases succeeded with
    | false => exact .failed _
    | true =>
      cases response.accepted with
      | true => exact .accepted
      | false => exact .rejected

lemma settled_ne_prompted (accepted succeeded : Bool) : settled accepted succeeded ≠ .prompted := by
  cases accepted <;> cases succeeded <;> decide

lemma wasPrompted_act (hp : p.Sound) (ha : p.Allows a) (x : FileId) :
    (p.act a).wasPrompted x = true ↔ x = a.fileId ∨ p.wasPrompted x = true := by
  -- only raising adds an id; the other acts happen to offers that stand somewhere
  have hknown : ∀ {fileId : FileId} {state : PromptState}, p.state? fileId = some state →
      (p.wasPrompted x = true ↔ x = fileId ∨ p.wasPrompted x = true) := by
    intro fileId state hstate
    refine ⟨Or.inr, ?_⟩
    rintro (rfl | h)
    · exact (hp.raised_iff x).2 (by rw [hstate]; rfl)
    · exact h
  cases a with
  | raise prompt =>
    show (p.raised.insert prompt.fileId).contains x = true ↔ _ ∨ p.raised.contains x = true
    rw [NameSet.contains_iff, NameSet.contains_iff, NameSet.mem_insert]
    rfl
  | withdraw fileId => exact hknown ((hp.prompted_iff fileId).2 ha)
  | answer response => exact hknown ha
  | settle response succeeded => exact hknown ha

/-- The open prompt after an act: the one just raised, or the one from before unless the act was on it. -/
lemma current_act (hp : p.Sound) (ha : p.Allows a) (x : FileId) :
    (p.act a).current.map (·.fileId) = some x ↔
      if x = a.fileId then a.target = .prompted else p.current.map (·.fileId) = some x := by
  -- closing the open prompt leaves none
  have hclosed : ∀ {fileId : FileId} {state : PromptState}, p.current.map (·.fileId) = some fileId →
      state ≠ .prompted →
      (none = some x ↔ if x = fileId then state = .prompted else p.current.map (·.fileId) = some x) := by
    intro fileId state hopen hstate
    rw [hopen]
    split
    · simpa using hstate
    · next h => simpa using Ne.symm h
  cases a with
  | raise prompt =>
    show some prompt.fileId = some x ↔ if x = prompt.fileId then _ else _
    rw [ha.1]
    split
    · next h => simp [h, Act.target]
    · next h => simpa using Ne.symm h
  | withdraw fileId => exact hclosed ha nofun
  | answer response =>
    have hopen := (hp.prompted_iff response.fileId).1 ha
    have hnone : (p.act (.answer response)).current = none := by
      obtain ⟨prompt, hprompt, hid⟩ := Option.map_eq_some_iff.1 hopen
      show p.current.filter _ = none
      rw [hprompt, Option.filter_some, if_neg (by simpa using hid)]
    rw [hnone]
    exact hclosed hopen nofun
  | settle response succeeded =>
    show p.current.map (·.fileId) = some x ↔ if x = response.fileId then settled _ _ = _ else _
    split
    · next h =>
      rw [h, ← hp.prompted_iff, show p.state? response.fileId = some (.answered response.accepted) from ha]
      simp [settled_ne_prompted]
    · exact Iff.rfl

theorem sound_act (hp : p.Sound) (ha : p.Allows a) : (p.act a).Sound where
  raised_iff x := by
    rw [wasPrompted_act hp ha, state?_act, hp.raised_iff]
    by_cases h : x = a.fileId
    · simp [h]
    · simp [h]
  prompted_iff x := by
    rw [current_act hp ha, state?_act]
    by_cases h : x = a.fileId
    · rw [if_pos h, if_pos h, Option.some_inj]
    · rw [if_neg h, if_neg h, hp.prompted_iff]

theorem sound_path {acts : List Act} {q : Prompts} (h : Path p acts q) (hp : p.Sound) : q.Sound := by
  induction h with
  | nil => exact hp
  | concat _ ha ih => exact sound_act ih ha

/-! ### How often something happens -/

/-- An act on an offer leads to a higher rank than all acts on it before, and no further than where the offer stands. -/
theorem path_ranks {acts : List Act} {q : Prompts} (h : Path empty acts q) :
    acts.Pairwise (fun a b => a.fileId = b.fileId → a.target.rank < b.target.rank) ∧
      ∀ a ∈ acts, a.target.rank ≤ rankOf (q.state? a.fileId) := by
  induction h with
  | nil => exact ⟨List.Pairwise.nil, fun a ha => absurd ha List.not_mem_nil⟩
  | @concat acts q b hpath hb ih =>
    obtain ⟨hpairs, hbound⟩ := ih
    have hlt : rankOf (q.state? b.fileId) < b.target.rank := (moves_act (sound_path hpath sound_empty) hb).rank_lt
    refine ⟨List.pairwise_append.2 ⟨hpairs, List.pairwise_singleton _ _, ?_⟩, ?_⟩
    · intro a ha c hc hac
      obtain rfl := List.mem_singleton.1 hc
      have hle := hbound a ha
      rw [hac] at hle
      exact Nat.lt_of_le_of_lt hle hlt
    · intro a ha
      rcases List.mem_append.1 ha with ha | ha
      · by_cases hab : a.fileId = b.fileId
        · have hle := hbound a ha
          rw [hab] at hle ⊢
          rw [state?_act_self]
          exact Nat.le_of_lt (Nat.lt_of_le_of_lt hle hlt)
        · rw [state?_act_of_ne _ _ hab]
          exact hbound a ha
      · obtain rfl := List.mem_singleton.1 ha
        rw [state?_act_self]
        exact Nat.le_refl _

/-! ### What a row of acts on different offers does -/

lemma state?_path_of_not_mem {acts : List Act} {q : Prompts} (h : Path p acts q) {x : FileId}
    (hx : x ∉ acts.map Act.fileId) : q.state? x = p.state? x := by
  induction h with
  | nil => rfl
  | concat _ _ ih =>
    rw [List.map_append, List.mem_append, not_or] at hx
    rw [state?_act_of_ne _ _ (by simpa using hx.2)]
    exact ih hx.1

/-- A row of acts on different offers moves each offer along one edge or not at all. -/
theorem moves_path {acts : List Act} {q : Prompts} (h : Path p acts q) (hp : p.Sound)
    (hnodup : (acts.map Act.fileId).Nodup) (x : FileId) :
    q.state? x = p.state? x ∨ Moves (p.state? x) (q.state? x) := by
  induction h with
  | nil => exact Or.inl rfl
  | @concat acts q b hpath hb ih =>
    rw [List.map_append, List.nodup_append] at hnodup
    by_cases hx : x = b.fileId
    · subst hx
      have hmem : b.fileId ∉ acts.map Act.fileId := fun hmem => hnodup.2.2 _ hmem b.fileId (by simp) rfl
      rw [state?_act_self, ← state?_path_of_not_mem hpath hmem]
      exact Or.inr (moves_act (sound_path hpath hp) hb)
    · rw [state?_act_of_ne _ _ hx]
      exact ih hnodup.1

end Prompts

end PeerChat.Transfer
