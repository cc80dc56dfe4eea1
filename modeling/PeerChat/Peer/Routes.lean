import PeerChat.Charset.Basic
import PeerChat.Http.FormData
import PeerChat.Peer.Basic
import PeerChat.Service.Client

/-!
The routes of a peer: which request asks for what, and the reply to it.
-/

namespace PeerChat.Peer

open Http (Body MediaType Part Reply)
open Calendar (Timestamp)

/-! ### Routes -/

/-- What a path offers. -/
inductive Route
  | read (kind : CallKind)
  | write (kind : CallKind)
deriving DecidableEq, Repr

namespace Route

/-- The kinds of calls that only look. -/
def reads : List CallKind :=
  .probe :: Resource.all.map .fetch

/-- The kinds of calls that change something. -/
def writes : List CallKind := [.sendText, .sendFile, .respond]

def ofPath? (path : String) : Option Route :=
  match reads.find? (·.path == path), writes.find? (·.path == path) with
  | some kind, _ => some (read kind)
  | none, some kind => some (write kind)
  | none, none => none

def methods : Route → List String
  | read _ => ["GET", "HEAD"]
  | write _ => ["POST"]

end Route

/-! ### Bodies -/

/-- The largest body of a request: a file of the largest size, and some space around it. -/
def maxBodyBytes : Nat := maxUploadBytes + 64 * 1024

def mediaType? (body : Body) : Option MediaType := body.mediaType.bind MediaType.ofText?

/-- The value of the wanted kind in a JSON body, or the reply that refuses the body. -/
def readJson (kind : Json → Except JsonFault α) (body : Body) : Except Reply α :=
  if (mediaType? body).any (·.isJson) then
    if maxBodyBytes < body.content.size then .error (.bare 413)
    else
      match Json.decodeBytes kind body.content with
      | .ok value => .ok value
      | .error .mismatched => .error (.bare 422)
      | .error .malformed => .error (.bare 400)
  else .error (.bare 415)

/-- The reply to a form that breaks off, or is larger than the limit. -/
def brokenForm : Reply := .text 400 "Error parsing \x60multipart/form-data\x60 request"

/-- The parts of a form, or the reply that refuses it. -/
def readForm (body : Body) : Except Reply (List Part) :=
  match (mediaType? body).bind (·.boundary?) with
  | none => .error (.bare 400)
  | some boundary =>
    if maxBodyBytes < body.content.size then .error brokenForm
    else
      match Http.FormData.read? boundary body.content with
      | some parts => .ok parts
      | none => .error brokenForm

/-- The text that a part holds, in the encoding that its media type names or else in UTF-8. -/
def partText (part : Part) : String :=
  let label := (part.mediaType.bind MediaType.ofText?).bind (·.charset?)
  ((label.bind Charset.ofLabel?).getD .utf8).decode part.content

/-- The name of a file that is sent without one. -/
def unnamedFile : String := "upload"

/-- Takes one part of a form: the last file and the last target count. -/
def Parcel.take (parcel : Parcel) (part : Part) : Parcel :=
  if part.name = some Client.fileField then
    { parcel with file := some (part.fileName.getD unnamedFile, part.content.size) }
  else if part.name = some Client.targetField then
    { parcel with target := some (Text.trim (partText part)) }
  else parcel

/-- The parcel that a form makes. -/
def Parcel.ofParts (parts : List Part) : Parcel := parts.foldl Parcel.take ⟨none, none⟩

/-! ### Replies -/

def refused (refusal : Refusal) : Reply := .text refusal.status refusal.message

def shown (p : Peer) : CallKind → Reply
  | .fetch .messages => .json (Wire.ofMessages p.log)
  | .fetch .roster => .json (Wire.ofUsers p.roster)
  | .fetch .transfers => .json (Wire.ofTransfers p.transfers)
  | .fetch .blockList => .json (Wire.ofBlocked p.blocked.names)
  | _ => .bare 200

/-- The reply to a change that was carried out or refused, and the peer after it. -/
def concluded (p : Peer) : Except Refusal Peer → Reply × Peer
  | .ok p => (.bare 200, p)
  | .error refusal => (refused refusal, p)

/-- The reply to a form with these parts, and the peer after it. -/
def answerForm (p : Peer) (parts : List Part) : Reply × Peer :=
  match p.upload (Parcel.ofParts parts) with
  | (.ok (), p) => (.bare 200, p)
  | (.error refusal, p) => (refused refusal, p)

/-- The reply to a request that would change something, and the peer after it. -/
def changed (p : Peer) (now : Timestamp) (body : Body) : CallKind → Reply × Peer
  | .sendText =>
    match readJson Wire.asSubmission body with
    | .ok text => p.concluded (p.submit now text)
    | .error reply => (reply, p)
  | .respond =>
    match readJson Wire.asResponse body with
    | .ok response => p.concluded (p.respond response)
    | .error reply => (reply, p)
  | .sendFile =>
    match readForm body with
    | .ok parts => p.answerForm parts
    | .error reply => (reply, p)
  | _ => (.bare 405, p)

/-- The reply to a request, and the peer after it. -/
def handle (p : Peer) (now : Timestamp) (request : Http.Request) : Reply × Peer :=
  match request.path?.bind Route.ofPath? with
  | none => (.bare 404, p)
  | some route =>
    if route.methods.contains request.method then
      match route with
      | .read kind => (p.shown kind, p)
      | .write kind => p.changed now request.body kind
    else (.bare 405, p)

end PeerChat.Peer
