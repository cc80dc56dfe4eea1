import PeerChat.Service.Basic

/-!
Scripted services: a service that follows a list of timed changes and a list of delays, to rehearse a session.
-/

namespace PeerChat

open Transfer (Offer)

namespace Script

/-- What a scripted service holds at one time. -/
structure Scene where
  messages : List Message
  roster : List String
  transfers : List Offer
  blocked : BlockList
  /-- The code with which every call is refused, if any. -/
  down : Option Nat
  /-- The kinds of calls that are answered with a body that cannot be read. -/
  garbled : List CallKind
deriving DecidableEq, Repr

/-- Nothing is there, and every call is answered. -/
def Scene.empty : Scene := ⟨[], [], [], ∅, none, []⟩

/-- A change of the scene; what is `none` stays. -/
structure Change where
  messages : Option (List Message)
  roster : Option (List String)
  transfers : Option (List Offer)
  blocked : Option BlockList
  down : Option (Option Nat)
  garbled : Option (List CallKind)
deriving DecidableEq, Repr

def Scene.after (s : Scene) (c : Change) : Scene :=
  ⟨c.messages.getD s.messages, c.roster.getD s.roster, c.transfers.getD s.transfers, c.blocked.getD s.blocked,
    c.down.getD s.down, c.garbled.getD s.garbled⟩

/-- The scene at a time, after all changes up to then. -/
def sceneAt (changes : List (Nat × Change)) (time : Nat) : Scene :=
  changes.foldl (fun scene (start, change) => if start ≤ time then scene.after change else scene) .empty

end Script

/-- A script: the changes with their times, and the delays of the calls of each kind, taken in turn. -/
structure Script where
  changes : List (Nat × Script.Change)
  delays : CallKind → List Nat

namespace Script

/-- The delay of a call, given how many of its kind came before. -/
def delay (script : Script) (kind : CallKind) (nth : Nat) : Nat :=
  let delays := script.delays kind
  delays.getD (nth % delays.length) 0

/-- The reaction to a call: the scene at its start decides. -/
def react (script : Script) (kind : CallKind) (answer : Scene → α) (nth time : Nat) : Reaction α :=
  let scene := sceneAt script.changes time
  let result := match scene.down with
    | some code => .error (.status kind.path code)
    | none =>
      if scene.garbled.contains kind then .error (.malformed kind.path "unexpected shape") else .ok (answer scene)
  some (script.delay kind nth, result)

def service (script : Script) : Service where
  messages := script.react (.fetch .messages) (·.messages)
  roster := script.react (.fetch .roster) (·.roster)
  transfers := script.react (.fetch .transfers) (·.transfers)
  blockList := script.react (.fetch .blockList) (·.blocked)
  probe := script.react .probe fun _ => ()
  sendText := fun _ => script.react .sendText fun _ => ()
  sendFile := fun _ => script.react .sendFile fun _ => ()
  respond := fun _ => script.react .respond fun _ => ()

end Script

end PeerChat
