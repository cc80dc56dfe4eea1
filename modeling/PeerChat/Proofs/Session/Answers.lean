import PeerChat.Proofs.Session.Connection
import PeerChat.Proofs.Session.Frame

/-!
Runs in which a session is told nothing but answers of the peer: they ask for nothing, and leave all but the store and
the prompts as it was.
-/

namespace PeerChat.Session

/-- The input that brings an answer. -/
def Input.ofCall (c : Store.Call) : Input := .completion (.fetched c.seq c.forced c.snapshot)

/-- The run that brings these answers, the first one first. -/
def answered (s : Session) (calls : List Store.Call) : Turn := s.run (calls.map .ofCall)

variable (s : Session) (calls : List Store.Call) (c : Store.Call)

lemma answered_concat : s.answered (calls ++ [c]) = next (s.answered calls) (.ofCall c) := by
  unfold answered
  rw [List.map_append]
  exact s.run_concat _ _

lemma session_answered_concat :
    (s.answered (calls ++ [c])).session =
      ((s.answered calls).session.fetched c.seq c.forced c.snapshot).session := by
  rw [answered_concat]
  rfl

/-- Answers ask for nothing. -/
theorem requests_answered : (s.answered calls).requests = [] := by
  induction calls using List.reverseRecOn with
  | nil => rfl
  | append_singleton calls c ih =>
    rw [answered_concat]
    show (s.answered calls).requests ++ (fetched _ c.seq c.forced c.snapshot).requests = []
    rw [ih, requests_fetched, List.append_nil]

/-- Answers touch the store and the prompts alone. -/
theorem exists_session_answered :
    ∃ store prompts, (s.answered calls).session = { s with store := store, prompts := prompts } := by
  induction calls using List.reverseRecOn with
  | nil => exact ⟨s.store, s.prompts, rfl⟩
  | append_singleton calls c ih =>
    obtain ⟨store, prompts, hsession⟩ := ih
    obtain ⟨prompts', hfetched⟩ := (s.answered calls).session.session_fetched c.seq c.forced c.snapshot
    refine ⟨((s.answered calls).session.stored c.seq c.forced c.snapshot).store, prompts', ?_⟩
    rw [session_answered_concat, hfetched]
    unfold stored
    rw [hsession]

end PeerChat.Session
