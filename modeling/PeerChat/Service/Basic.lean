import PeerChat.Service.Call

/-!
Peer services, as a client sees them: what they answer to each call, and after how long.
-/

namespace PeerChat

open Transfer (Offer Response)

/-- What comes of a call: the milliseconds that pass before the answer, and the answer. `none` stands for an answer
that never comes. -/
abbrev Reaction (α : Type) := Option (Nat × Except Failure α)

/-- A peer service. Each reaction can depend on the number of calls of the same kind that came before and on the time
of the call. -/
structure Service where
  messages : (nth time : Nat) → Reaction (List Message)
  /-- The display texts of the roster. -/
  roster : (nth time : Nat) → Reaction (List String)
  transfers : (nth time : Nat) → Reaction (List Offer)
  blockList : (nth time : Nat) → Reaction BlockList
  probe : (nth time : Nat) → Reaction Unit
  sendText : (text : String) → (nth time : Nat) → Reaction Unit
  sendFile : (upload : Upload) → (nth time : Nat) → Reaction Unit
  respond : (response : Response) → (nth time : Nat) → Reaction Unit

namespace Service

/-- The reaction with what it answers turned into something else. -/
def Reaction.map (f : α → β) (reaction : Reaction α) : Reaction β :=
  Option.map (fun (delay, result) => (delay, result.map f)) reaction

/-- The reaction to a fetch, as a snapshot of the resource. -/
def fetch (service : Service) (resource : Resource) (nth time : Nat) : Reaction Snapshot :=
  match resource with
  | .messages => Reaction.map .messages (service.messages nth time)
  | .roster => Reaction.map .roster (service.roster nth time)
  | .transfers => Reaction.map .transfers (service.transfers nth time)
  | .blockList => Reaction.map .blockList (service.blockList nth time)

/-- The service that never answers. -/
def silent : Service where
  messages := fun _ _ => none
  roster := fun _ _ => none
  transfers := fun _ _ => none
  blockList := fun _ _ => none
  probe := fun _ _ => none
  sendText := fun _ _ _ => none
  sendFile := fun _ _ _ => none
  respond := fun _ _ _ => none

end Service

end PeerChat
