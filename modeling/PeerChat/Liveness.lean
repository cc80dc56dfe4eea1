/-!
Liveness: whether the peer service can be reached, reported only when it changes.
-/

namespace PeerChat

/-- Whether the service could be reached at the last try. -/
inductive Liveness
  | connected
  | disconnected
deriving DecidableEq, Repr

namespace Liveness

def label : Liveness → String
  | connected => "Connected"
  | disconnected => "Disconnected"

/-- The liveness that a try shows. -/
def ofReachable (reachable : Bool) : Liveness := if reachable then connected else disconnected

/-- A change of liveness; at the first try there is none to change from. -/
structure Transition where
  before : Option Liveness
  after : Liveness
deriving DecidableEq, Repr

/-- The service came back after it could not be reached. -/
def Transition.isReconnect (t : Transition) : Bool := t.before == some disconnected && t.after == connected

/-- The change that a try brings, if any. -/
def observe (current : Option Liveness) (reachable : Bool) : Option Transition :=
  let next := ofReachable reachable
  if current = some next then none else some ⟨current, next⟩

end Liveness

end PeerChat
