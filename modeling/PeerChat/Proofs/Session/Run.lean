import Mathlib.Tactic.Lemma
import PeerChat.Session.Basic

/-!
Runs of a session: any commands of the user and any ends of requests, in any order. A run is again a turn; it leaves
a session, and has shown and asked for what its turns showed and asked for.
-/

namespace PeerChat.Session

/-- What a session is told in one turn. -/
inductive Input
  | command (command : Command)
  | completion (completion : Completion)
deriving DecidableEq, Repr

def turn (s : Session) : Input → Turn
  | .command command => s.command command
  | .completion completion => s.complete completion

/-- One more turn after those that were taken together. -/
def next (taken : Turn) (input : Input) : Turn :=
  let turn := taken.session.turn input
  ⟨turn.session, taken.events ++ turn.events, taken.requests ++ turn.requests⟩

/-- The run of a session that is told these inputs, the first one first. -/
def run (s : Session) (inputs : List Input) : Turn := inputs.foldl next ⟨s, [], []⟩

lemma run_concat (s : Session) (inputs : List Input) (input : Input) :
    s.run (inputs ++ [input]) = next (s.run inputs) input := by
  unfold run
  rw [List.foldl_append]
  rfl

end PeerChat.Session
