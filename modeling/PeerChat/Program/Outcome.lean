import PeerChat.Flags.Basic

/-!
What a run of a program leaves behind.
-/

namespace PeerChat.Program

/-- The end of a run. -/
structure Outcome where
  exitCode : Nat
  /-- The lines that were printed. -/
  output : List String
  /-- The errors that were logged. -/
  errors : List String
deriving DecidableEq, Repr

namespace Outcome

/-- The end of a run whose command line could not be followed. Asking for help is no mistake. -/
def ofFlagFault : Flags.Fault → Outcome
  | .helpWanted => ⟨0, [], []⟩
  | _ => ⟨2, [], []⟩

def failed (exitCode : Nat) (error : String) : Outcome := ⟨exitCode, [], [error]⟩

end Outcome

end PeerChat.Program
