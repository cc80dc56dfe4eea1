import PeerChat.Store
import PeerChat.Upload

/-!
Calls of the peer service: the eight things that a client can ask a peer, and the path under which each is asked.
-/

namespace PeerChat

open Transfer (Response)

/-- The kinds of calls. -/
inductive CallKind
  | fetch (resource : Resource)
  | probe
  | sendText
  | sendFile
  | respond
deriving DecidableEq, Repr

/-- The path under which calls of a kind are made. -/
def CallKind.path : CallKind → String
  | fetch .messages => "/messages"
  | fetch .roster => "/users"
  | fetch .transfers => "/filetransfers"
  | fetch .blockList => "/acl"
  | probe => "/ping"
  | sendText => "/send"
  | sendFile => "/sendfile"
  | respond => "/fileresponse"

/-- A call with what it carries. -/
inductive Call
  | fetch (resource : Resource)
  | probe
  | sendText (text : String)
  | sendFile (upload : Upload)
  | respond (response : Response)
deriving DecidableEq

namespace Call

def kind : Call → CallKind
  | fetch resource => .fetch resource
  | probe => .probe
  | sendText _ => .sendText
  | sendFile _ => .sendFile
  | respond _ => .respond

def path (call : Call) : String := call.kind.path

end Call

end PeerChat
