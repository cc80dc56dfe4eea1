import PeerChat.Outgoing
import PeerChat.Roster
import PeerChat.Transfer.Offer

/-!
A peer: the service that a client talks to. It keeps who is online, who is blocked, a log of messages and a queue of
file offers, and takes texts, answers and files from its own user.
-/

namespace PeerChat

open Transfer (Offer Response)
open Calendar (Timestamp)

/-- A peer. -/
structure Peer where
  /-- The name of its user. -/
  name : Username
  online : NameSet
  blocked : BlockList
  /-- The last messages, the oldest first. -/
  log : List WireMessage
  /-- All offers ever made, the oldest first. -/
  transfers : List Offer
  /-- The number of the next offer. -/
  nextOffer : UInt64
deriving DecidableEq, Repr

/-- Why a peer does not do what it is asked for. -/
inductive Refusal
  /-- The verb needs more than was given. -/
  | usage (verb : String)
  | unknownVerb (verb : String)
  | notOnline (username : Username)
  | unknownOffer (fileId : FileId)
  | notAwaitingResponse (fileId : FileId)
  | missingFile
  | missingTarget
  | uploadTooLarge (size : Nat)
deriving DecidableEq, Repr

namespace Refusal

def message : Refusal → String
  | usage verb => "usage: " ++ verb ++ " <user> ..."
  | unknownVerb verb => "unknown command " ++ verb
  | notOnline username => "user " ++ username ++ " is not online"
  | unknownOffer fileId => "unknown file transfer " ++ fileId
  | notAwaitingResponse fileId => "file transfer " ++ fileId ++ " is not awaiting a response"
  | missingFile => "missing file"
  | missingTarget => "missing target"
  | uploadTooLarge size => toString size ++ " bytes exceeds the upload limit"

def status : Refusal → Nat
  | usage _ => 400
  | unknownVerb _ => 400
  | notOnline _ => 404
  | unknownOffer _ => 404
  | notAwaitingResponse _ => 409
  | missingFile => 400
  | missingTarget => 400
  | uploadTooLarge _ => 413

end Refusal

/-! ### What a text asks for -/

/-- What the user of a peer asks for by a text. -/
inductive Order
  /-- A message to everyone. -/
  | say (text : String)
  /-- A message to one user. -/
  | whisper (target : Username) (text : String)
  | setBlocked (intent : BlockIntent)
deriving DecidableEq, Repr

namespace Order

/-- The user that has to be online for it. -/
def target? : Order → Option Username
  | say _ => none
  | whisper target _ => some target
  | setBlocked intent => some intent.username

/-- The text before the first space, and the text after it if there is one. -/
def cutAtSpace (text : String) : String × Option String :=
  match Text.cutWhere (· == ' ') text.toList with
  | some (before, after) => (String.ofList before, some (String.ofList after))
  | none => (text, none)

/-- What a verb with a target and a text asks for. -/
def ofVerb (verb : String) (target : Username) (text : Option String) : Except Refusal Order :=
  if verb = privateVerb then
    match text.filter (!Text.isAllBlank ·) with
    | some text => if target = "" then .error (.usage verb) else .ok (whisper target text)
    | none => .error (.usage verb)
  else if verb = BlockIntent.blockVerb ∨ verb = BlockIntent.unblockVerb then
    if target = "" then .error (.usage verb) else .ok (setBlocked ⟨target, verb = BlockIntent.blockVerb⟩)
  else .error (.unknownVerb verb)

/-- What a text asks for. A text that begins with a slash is a verb, a target and a text, with one space between them;
any other is a message to everyone. -/
def ofText (text : String) : Except Refusal Order :=
  if (Text.after? "/" text).isNone then .ok (say text)
  else
    let (verb, rest) := cutAtSpace text
    let (target, words) := (rest.map cutAtSpace).getD ("", none)
    ofVerb verb (Text.trim target) words

end Order

/-! ### Peers -/

namespace Peer

def start (name : Username) : Peer := ⟨name, ∅, ∅, [], [], 1⟩

def join (p : Peer) (username : Username) : Peer := { p with online := p.online.insert username }

def leave (p : Peer) (username : Username) : Peer := { p with online := p.online.erase username }

def logCap : Nat := 100

/-- Adds a message to the log; only the last ones are kept. -/
def record (p : Peer) (m : WireMessage) : Peer :=
  let log := p.log ++ [m]
  { p with log := log.drop (log.length - logCap) }

def roster (p : Peer) : List String := Roster.entries p.name p.online p.blocked

/-! ### Messages -/

/-- A message of the user of this peer, to one user or to everyone. -/
def ownMessage (p : Peer) (now : Timestamp) (recipient : Option Username) (text : String) : WireMessage :=
  ⟨p.name, recipient.getD Message.everyone, text, now, true, recipient.isSome⟩

def carryOut (p : Peer) (now : Timestamp) : Order → Peer
  | .say text => p.record (p.ownMessage now none text)
  | .whisper target text => p.record (p.ownMessage now (some target) text)
  | .setBlocked intent =>
    { p with blocked := if intent.block then p.blocked.insert intent.username else p.blocked.erase intent.username }

/-- Takes a text of the user. A refused text changes nothing. -/
def submit (p : Peer) (now : Timestamp) (text : String) : Except Refusal Peer := do
  let order ← Order.ofText text
  match order.target?.filter (!p.online.contains ·) with
  | some absent => throw (.notOnline absent)
  | none => return p.carryOut now order

/-- Takes a message from someone else, unless the sender is blocked; the flag tells whether it was recorded. -/
def receive (p : Peer) (now : Timestamp) (sender : Username) (text : String) (isPrivate : Bool) : Peer × Bool :=
  if p.blocked.contains sender then (p, false)
  else (p.record ⟨sender, if isPrivate then p.name else Message.everyone, text, now, false, isPrivate⟩, true)

/-! ### File offers -/

def offerId (number : UInt64) : FileId := "file-" ++ toString number.toNat

/-- The next id, and the peer that has given it away. -/
def allocate (p : Peer) : FileId × Peer := (offerId p.nextOffer, { p with nextOffer := p.nextOffer + 1 })

def offer (p : Peer) (sender : Username) (fileName : String) (fileSize : UInt64) : FileId × Peer :=
  let (fileId, p) := p.allocate
  (fileId, { p with transfers := p.transfers ++ [⟨fileId, fileName, fileSize, 0, .pending, .receive, sender⟩] })

/-- The offers with the status of the first one under an id replaced. -/
def replaceStatus (fileId : FileId) (status : Transfer.Status) : List Offer → List Offer
  | [] => []
  | o :: os => if o.fileId = fileId then { o with status := status } :: os else o :: replaceStatus fileId status os

/-- The offer under an id. -/
def offer? (p : Peer) (fileId : FileId) : Option Offer := p.transfers.find? (·.fileId == fileId)

/-- Moves an offer to a status; the flag tells whether there is one under the id. -/
def setStatus (p : Peer) (fileId : FileId) (status : Transfer.Status) : Peer × Bool :=
  ({ p with transfers := replaceStatus fileId status p.transfers }, (p.offer? fileId).isSome)

/-- Takes the answer of the user to an offer that waits for it. -/
def respond (p : Peer) (response : Response) : Except Refusal Peer :=
  match p.offer? response.fileId with
  | none => .error (.unknownOffer response.fileId)
  | some o =>
    if o.isPendingInbound then
      .ok (p.setStatus response.fileId (if response.accepted then .transferring else .rejected)).1
    else .error (.notAwaitingResponse response.fileId)

/-- The largest file that is taken. -/
def maxUploadBytes : Nat := 10 * 1024 * 1024

/-- A file that the user would send: its name and size, and whom it is for. -/
structure Parcel where
  file : Option (String × Nat)
  target : Option Username
deriving DecidableEq, Repr

/-- Queues an offer of the user. The id is given away even if the target turns out not to be online. -/
def upload (p : Peer) (parcel : Parcel) : Except Refusal Unit × Peer :=
  match parcel.file, parcel.target.filter (· ≠ "") with
  | none, _ => (.error .missingFile, p)
  | some _, none => (.error .missingTarget, p)
  | some (fileName, size), some target =>
    if maxUploadBytes < size then (.error (.uploadTooLarge size), p)
    else
      let (fileId, p) := p.allocate
      if p.online.contains target then
        (.ok (), { p with transfers := p.transfers ++
          [⟨fileId, fileName, UInt64.ofNat size, 0, .pending, .send, target⟩] })
      else (.error (.notOnline target), p)

end Peer

end PeerChat
