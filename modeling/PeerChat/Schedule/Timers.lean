import PeerChat.Session.Basic

/-!
The four timers of a schedule. Each one first fires a period after the start and then a period after every time that it
fired, and asks for what its resource needs.
-/

namespace PeerChat.Schedule

inductive Timer
  | messages
  | roster
  | transfers
  | liveness
deriving DecidableEq, Repr

namespace Timer

def all : List Timer := [messages, roster, transfers, liveness]

/-- What a timer asks for when it fires. The roster and the block list are looked at together. -/
def requests : Timer → List Request
  | messages => [.fetch .messages false]
  | roster => [.fetch .roster false, .fetch .blockList false]
  | transfers => [.fetch .transfers false]
  | liveness => [.probe]

end Timer

/-- One value for each timer. -/
structure PerTimer (α : Type) where
  messages : α
  roster : α
  transfers : α
  liveness : α
deriving DecidableEq, Repr

namespace PerTimer

def get (p : PerTimer α) : Timer → α
  | .messages => p.messages
  | .roster => p.roster
  | .transfers => p.transfers
  | .liveness => p.liveness

def set (p : PerTimer α) (timer : Timer) (a : α) : PerTimer α :=
  match timer with
  | .messages => { p with messages := a }
  | .roster => { p with roster := a }
  | .transfers => { p with transfers := a }
  | .liveness => { p with liveness := a }

@[simp] theorem get_set_self (p : PerTimer α) (timer : Timer) (a : α) : (p.set timer a).get timer = a := by
  cases timer <;> rfl

@[simp] theorem get_set_of_ne (p : PerTimer α) {timer other : Timer} (a : α) (h : other ≠ timer) :
    (p.set timer a).get other = p.get other := by
  cases timer <;> cases other <;> first | rfl | exact absurd rfl h

end PerTimer

/-- How many milliseconds lie between two looks at each of the things that are polled. -/
abbrev Periods := PerTimer Nat

/-- When each timer fires next. -/
abbrev Timers := PerTimer Nat

/-- The time at which the first of the timers fires. -/
def Timers.next (t : Timers) : Nat := min (min t.messages t.roster) (min t.transfers t.liveness)

end PeerChat.Schedule
