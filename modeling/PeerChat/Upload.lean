import PeerChat.Disk
import PeerChat.Message
import PeerChat.Service.Failure

/-!
Uploads: files of the disk, made ready to be offered to a peer.
-/

namespace PeerChat

-- bytes are compared as the core library does
attribute [local instance (high)] ByteArray.instDecidableEq

/-- A file that is offered to a peer. -/
structure Upload where
  fileName : String
  payload : ByteArray
  target : Username
deriving DecidableEq

namespace Upload

/-- The name under which a file is offered whose path ends in no name. -/
def fallbackName : String := "file"

/-- Reads the file at a path, to be offered to `target`. The size that the system tells is checked against the limit
before anything is read. -/
def ofPath (disk : Disk) (limit : Nat) (path : String) (target : Username) : Except Failure Upload :=
  match disk.find path with
  | .error fault => .error (.unreadable path fault.message)
  | .ok node =>
    if limit < node.size then .error (.fileTooLarge node.size limit)
    else
      match node.content with
      | .error fault => .error (.unreadable path fault.message)
      | .ok payload => .ok ⟨(Disk.fileName? path).getD fallbackName, payload, target⟩

end Upload

end PeerChat
