import PeerChat.NameSet
import PeerChat.SizeLabel
import PeerChat.Transfer.Offer

/-!
Prompts: how inbound file offers are put to the user, each at most once and one at a time.

An offer is prompted when it is raised and never again. While a prompt is open no other is raised; it closes when
the user answers, or when its offer is no longer pending at the peer.
-/

namespace PeerChat.Transfer

/-- What the user is asked about one offer. -/
structure Prompt where
  fileId : FileId
  fileName : String
  fileSize : UInt64
  sizeLabel : String
  peerName : Username
deriving DecidableEq, Repr

def Offer.prompt (o : Offer) : Prompt where
  fileId := o.fileId
  fileName := o.fileName
  fileSize := o.fileSize
  sizeLabel := sizeText o.fileSize.toNat
  peerName := o.peerName

/-- How far an offer has come with the user. -/
inductive PromptState
  | prompted
  /-- The user chose, and the answer is on its way. -/
  | answered (accepted : Bool)
  | accepted
  | rejected
  /-- The answer did not arrive. -/
  | failed
  /-- The offer stopped pending before the user chose. -/
  | withdrawn
deriving DecidableEq, Repr

/-- Why an answer is refused. -/
inductive PromptRefusal
  | noOpenPrompt
  | notAwaitingResponse (fileId : FileId)
deriving DecidableEq, Repr

def PromptRefusal.message : PromptRefusal → String
  | noOpenPrompt => "no file transfer prompt is open"
  | notAwaitingResponse fileId => "file transfer " ++ fileId ++ " is not awaiting a response"

/-- What a look at the transfer queue brings. -/
inductive PromptUpdate
  | raised (prompt : Prompt)
  | withdrawn (fileId : FileId)
deriving DecidableEq, Repr

/-- The offers that were put to the user so far. -/
structure Prompts where
  /-- The ids ever raised. -/
  raised : NameSet
  /-- Where each raised offer stands; the first entry of an id counts. -/
  states : List (FileId × PromptState)
  /-- The prompt that the user sees. -/
  current : Option Prompt
deriving DecidableEq, Repr

namespace Prompts

def empty : Prompts := ⟨∅, [], none⟩

instance : Inhabited Prompts := ⟨empty⟩

/-- Where an offer stands. -/
def state? (p : Prompts) (fileId : FileId) : Option PromptState := p.states.lookup fileId

/-- Whether an offer was ever raised. -/
def wasPrompted (p : Prompts) (fileId : FileId) : Bool := p.raised.contains fileId

def setState (p : Prompts) (fileId : FileId) (state : PromptState) : Prompts :=
  { p with states := (fileId, state) :: p.states.filter (·.1 ≠ fileId) }

/-- Closes the prompt of an offer that is no longer pending. -/
def withdraw (p : Prompts) (fileId : FileId) : Prompts := { p.setState fileId .withdrawn with current := none }

def raise (p : Prompts) (prompt : Prompt) : Prompts :=
  { p.setState prompt.fileId .prompted with
    raised := p.raised.insert prompt.fileId
    current := some prompt }

/-- Raises the first pending inbound offer of the queue that was never raised. -/
def raiseNext (p : Prompts) (queue : List Offer) : Prompts × List PromptUpdate :=
  match queue.find? fun offer => offer.isPendingInbound && !p.wasPrompted offer.fileId with
  | some offer => (p.raise offer.prompt, [.raised offer.prompt])
  | none => (p, [])

/-- Looks at the transfer queue. -/
def scan (p : Prompts) (queue : List Offer) : Prompts × List PromptUpdate :=
  match p.current with
  | none => p.raiseNext queue
  | some prompt =>
    if queue.any fun offer => offer.fileId == prompt.fileId && offer.isPendingInbound then (p, [])
    else
      let (after, updates) := (p.withdraw prompt.fileId).raiseNext queue
      (after, .withdrawn prompt.fileId :: updates)

/-- Answers one raised offer, and closes its prompt if that is the open one. -/
def respondTo (p : Prompts) (fileId : FileId) (accepted : Bool) : Except PromptRefusal (Prompts × Response) :=
  if p.state? fileId = some .prompted then
    .ok ({ p.setState fileId (.answered accepted) with
        current := p.current.filter (·.fileId ≠ fileId) }, ⟨fileId, accepted⟩)
  else .error (.notAwaitingResponse fileId)

/-- Answers the open prompt. -/
def respond (p : Prompts) (accepted : Bool) : Except PromptRefusal (Prompts × Response) :=
  match p.current with
  | some prompt => p.respondTo prompt.fileId accepted
  | none => .error .noOpenPrompt

/-- Where an answered offer stands once its answer is through. -/
def settled (accepted succeeded : Bool) : PromptState :=
  if succeeded then (if accepted then .accepted else .rejected) else .failed

/-- Records whether the answer to an offer arrived. -/
def complete (p : Prompts) (fileId : FileId) (succeeded : Bool) : Prompts :=
  match p.state? fileId with
  | some (.answered accepted) => p.setState fileId (settled accepted succeeded)
  | _ => p

end Prompts

end PeerChat.Transfer
