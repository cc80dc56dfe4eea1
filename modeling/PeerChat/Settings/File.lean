import PeerChat.Json.Reader
import PeerChat.Settings.Basic

/-!
Settings files: a JSON record in which every field may be left out, of a limited size; and how the settings of a
program come from its file, what was given by hand and the defaults.
-/

namespace PeerChat.Settings

/-- The largest settings file that is read. -/
def maxFileBytes : Nat := 64 * 1024

def fields : List Json.Field :=
  let word (key : String) (value : Settings → UInt64) : Json.Field :=
    .optional key Json.asWord (.nat (value default).toNat)
  [.optional "server_url" Json.asText (.str default.serverUrl),
    word "messages_ms" messagesMs,
    word "roster_ms" rosterMs,
    word "transfers_ms" transfersMs,
    word "liveness_ms" livenessMs,
    word "request_timeout_ms" requestTimeoutMs,
    word "max_offer_bytes" maxOfferBytes]

def ofJson (j : Json) : Except JsonFault Settings := do
  match ← j.asRecord fields with
  | [serverUrl, messages, roster, transfers, liveness, requestTimeout, maxOffer] =>
    return {
      serverUrl := ← serverUrl.asText
      messagesMs := ← messages.asWord
      rosterMs := ← roster.asWord
      transfersMs := ← transfers.asWord
      livenessMs := ← liveness.asWord
      requestTimeoutMs := ← requestTimeout.asWord
      maxOfferBytes := ← maxOffer.asWord }
  | _ => throw .mismatched

def ofText (text : String) : Except JsonFault Settings := Json.decode ofJson text.toList

/-- The settings in a file at a path that was told to be of a size before its content is read. No more is read than
shows that the content is over the limit after all. -/
def ofFile (path : String) (told : Nat) (content : Except Disk.Fault ByteArray) : Except Fault Settings :=
  if maxFileBytes < told then .error (.tooLarge path told maxFileBytes)
  else
    match content with
    | .error fault => .error (.unreadable path fault)
    | .ok bytes =>
      let taken := bytes.extract 0 (maxFileBytes + 1)
      match String.fromUTF8? taken with
      | none => .error (.unreadable path .notUtf8)
      | some text =>
        if maxFileBytes < taken.size then .error (.tooLarge path taken.size maxFileBytes)
        else
          match ofText text with
          | .error _ => .error (.unparsable path)
          | .ok settings => .ok settings

def load (disk : Disk) (path : String) : Except Fault Settings :=
  match disk.find path with
  | .error fault => .error (.unreadable path fault)
  | .ok node => ofFile path node.size node.content

/-- The settings of a program: those of its file, or the defaults without one, with those given by hand in their place.
Only settings that are fit to be used come out. -/
def resolve (disk : Disk) (path : Option String) (overrides : Overrides) : Except Fault Settings := do
  let base ← match path with
    | some path => load disk path
    | none => .ok default
  let settings := overrides.apply base
  match settings.fault? with
  | some fault => throw fault
  | none => return settings

end PeerChat.Settings
