import PeerChat.Http.FormData
import PeerChat.Service.Basic
import PeerChat.Url.Reader
import PeerChat.Wire

/-!
The client of a peer service: the request that each call makes, and what a reply to it means.
-/

namespace PeerChat

open Http (Body Part Reply)

/-- A client of the service at an address. -/
structure Client where
  base : Url
deriving DecidableEq, Repr

/-- What a call brings if it succeeds. -/
inductive Answer
  | snapshot (snapshot : Snapshot)
  | done
deriving DecidableEq, Repr

namespace Client

/-- The client of the service at the address that a text writes. -/
def ofText (url : String) : Except Failure Client :=
  match Url.ofText url with
  | .ok base => .ok ⟨base⟩
  | .error fault => .error (.invalidUrl fault.message)

/-! ### Requests -/

def method : Call → String
  | .fetch _ => "GET"
  | .probe => "GET"
  | .sendText _ => "POST"
  | .sendFile _ => "POST"
  | .respond _ => "POST"

def fileField : String := "file"

/-- The part of a form that names whom the file is for. -/
def targetField : String := "targetName"

def form (upload : Upload) : List Part := [
  ⟨some fileField, some upload.fileName, none, upload.payload⟩,
  ⟨some targetField, none, none, upload.target.toUTF8⟩]

/-- What the request of a call carries. -/
def body : Call → Body
  | .fetch _ => .empty
  | .probe => .empty
  | .sendText text => .json (Wire.ofSubmission text)
  | .sendFile upload => .form (form upload)
  | .respond response => .json (Wire.ofResponse response)

/-- Schemes of addresses that requests can be made to. -/
def isReachable (scheme : List Char) : Bool := scheme == "http".toList || scheme == "https".toList

/-- The request of a call, and the address that it goes to. The path of the call takes the place of that of the base. -/
def request (client : Client) (call : Call) : Except Failure (Url × Http.Request) := do
  match client.base.withPath call.path with
  | .error fault => throw (.invalidUrl fault.message)
  | .ok url =>
    if isReachable url.scheme then return (url, ⟨method call, String.ofList url.path.text, body call⟩)
    else throw (.transport "builder error")

/-! ### Replies -/

/-- The value of the wanted kind in the body of a reply. -/
def readBody (path : String) (kind : Json → Except JsonFault α) (reply : Reply) : Except Failure α :=
  match Json.decodeBytes kind reply.body with
  | .ok value => .ok value
  | .error .malformed => .error (.malformed path "not JSON")
  | .error .mismatched => .error (.malformed path "unexpected shape")

/-- The snapshot in the body of a reply. -/
def readSnapshot (path : String) (reply : Reply) : Resource → Except Failure Snapshot
  | .messages => (readBody path Wire.asMessages reply).map fun log => .messages (log.map .ofWire)
  | .roster => (readBody path Wire.asUsers reply).map .roster
  | .transfers => (readBody path Wire.asTransfers reply).map .transfers
  | .blockList => (readBody path Wire.asBlocked reply).map fun names => .blockList (NameSet.ofList names)

/-- What a reply to a call means. The body counts for fetches alone. -/
def readReply (call : Call) (reply : Reply) : Except Failure Answer :=
  if reply.isSuccess then
    match call with
    | .fetch resource => (readSnapshot call.path reply resource).map .snapshot
    | _ => .ok .done
  else .error (.status call.path reply.status)

/-- Makes a call over a transport, which brings the reply to a request or tells why there is none. -/
def exchange (client : Client) (transport : Url → Http.Request → Except String Reply) (call : Call) :
    Except Failure Answer := do
  let (url, request) ← client.request call
  match transport url request with
  | .ok reply => readReply call reply
  | .error reason => throw (.transport reason)

end Client

end PeerChat
