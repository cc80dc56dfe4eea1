import PeerChat.Json.Reader
import PeerChat.Json.Printer
import PeerChat.Transfer.Offer

/-!
The JSON bodies that travel between client and peer: for each, the value that writes it and the reader that takes
it back. Records are written as objects; a reader takes an array of the fields in their order as well.
-/

namespace PeerChat

open Transfer (Direction Status Offer Response)

namespace Wire

/-! ### Kinds of values -/

def asTimestamp (j : Json) : Except JsonFault Calendar.Timestamp := do
  match Calendar.Timestamp.ofText? (← j.asText) with
  | some t => return t
  | none => throw .mismatched

/-- A word: a text, or an object of one entry whose key is the word and whose value is null. -/
def asTag : Json → Except JsonFault String
  | .object [(some word, .null)] => .ok word
  | j => j.asText

def asDirection (j : Json) : Except JsonFault Direction := do
  match Direction.ofWord? (← asTag j) with
  | some d => return d
  | none => throw .mismatched

def asStatus (j : Json) : Except JsonFault Status := return Status.ofWord (← asTag j)

/-! ### Messages -/

def messageFields : List Json.Field := [
  .required "sender" Json.asText,
  .required "recipient" Json.asText,
  .required "content" Json.asText,
  .required "timestamp" asTimestamp,
  .required "isOwn" Json.asFlag,
  .required "isPrivate" Json.asFlag]

def asMessage (j : Json) : Except JsonFault WireMessage := do
  match ← j.asRecord messageFields with
  | [sender, recipient, content, timestamp, isOwn, isPrivate] =>
    return {
      sender := ← sender.asText
      recipient := ← recipient.asText
      content := ← content.asText
      timestamp := ← asTimestamp timestamp
      isOwn := ← isOwn.asFlag
      isPrivate := ← isPrivate.asFlag }
  | _ => throw .mismatched

def ofMessage (m : WireMessage) : Json := .record [
  ("sender", .str m.sender),
  ("recipient", .str m.recipient),
  ("content", .str m.content),
  ("timestamp", .str m.timestamp.text),
  ("isOwn", .flag m.isOwn),
  ("isPrivate", .flag m.isPrivate)]

/-! ### File offers -/

/-- The fields of a file offer; the progress may be left out. -/
def offerFields : List Json.Field := [
  .required "fileId" Json.asText,
  .required "fileName" Json.asText,
  .required "fileSize" Json.asWord,
  .optional "progress" Json.asWord (.nat 0),
  .required "status" asStatus,
  .required "direction" asDirection,
  .required "peerName" Json.asText]

def asOffer (j : Json) : Except JsonFault Offer := do
  match ← j.asRecord offerFields with
  | [fileId, fileName, fileSize, progress, status, direction, peerName] =>
    return {
      fileId := ← fileId.asText
      fileName := ← fileName.asText
      fileSize := ← fileSize.asWord
      progress := ← progress.asWord
      status := ← asStatus status
      direction := ← asDirection direction
      peerName := ← peerName.asText }
  | _ => throw .mismatched

def ofOffer (o : Offer) : Json := .record [
  ("fileId", .str o.fileId),
  ("fileName", .str o.fileName),
  ("fileSize", .nat o.fileSize.toNat),
  ("progress", .nat o.progress.toNat),
  ("status", .str o.status.word),
  ("direction", .str o.direction.word),
  ("peerName", .str o.peerName)]

/-! ### Bodies -/

/-- Reads a body of one field. -/
def asBody (key : String) (kind : Json → Except JsonFault α) (j : Json) : Except JsonFault α := do
  match ← j.asRecord [.required key kind] with
  | [value] => kind value
  | _ => throw .mismatched

def asMessages : Json → Except JsonFault (List WireMessage) := asBody "messages" (Json.asList asMessage)

def ofMessages (log : List WireMessage) : Json := .record [("messages", .array (log.map ofMessage))]

def asUsers : Json → Except JsonFault (List String) := asBody "users" (Json.asList Json.asText)

def ofUsers (entries : List String) : Json := .record [("users", .array (entries.map .str))]

def asTransfers : Json → Except JsonFault (List Offer) := asBody "transfers" (Json.asList asOffer)

def ofTransfers (queue : List Offer) : Json := .record [("transfers", .array (queue.map ofOffer))]

def asBlocked : Json → Except JsonFault (List String) := asBody "blocked" (Json.asList Json.asText)

def ofBlocked (names : List String) : Json := .record [("blocked", .array (names.map .str))]

def asSubmission : Json → Except JsonFault String := asBody "message" Json.asText

def ofSubmission (text : String) : Json := .record [("message", .str text)]

def responseFields : List Json.Field := [.required "fileId" Json.asText, .required "accepted" Json.asFlag]

def asResponse (j : Json) : Except JsonFault Response := do
  match ← j.asRecord responseFields with
  | [fileId, accepted] => return ⟨← fileId.asText, ← accepted.asFlag⟩
  | _ => throw .mismatched

def ofResponse (r : Response) : Json := .record [("fileId", .str r.fileId), ("accepted", .flag r.accepted)]

end Wire

end PeerChat
