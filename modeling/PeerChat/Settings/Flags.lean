import PeerChat.Flags.Basic
import PeerChat.Settings.Basic

/-!
The flags that give settings by hand.
-/

namespace PeerChat.Settings.Overrides

open Flags (Flag Given word?)

/-- One flag for each setting. -/
def flags : List Flag := [
  ⟨"server-url", .text, false⟩,
  ⟨"messages-ms", .word, false⟩,
  ⟨"roster-ms", .word, false⟩,
  ⟨"transfers-ms", .word, false⟩,
  ⟨"liveness-ms", .word, false⟩,
  ⟨"request-timeout-ms", .word, false⟩,
  ⟨"max-offer-bytes", .word, false⟩]

def ofGiven (given : Given) : Overrides :=
  let word (name : String) : Option UInt64 := (given.value? name).bind word?
  { serverUrl := given.value? "server-url"
    messagesMs := word "messages-ms"
    rosterMs := word "roster-ms"
    transfersMs := word "transfers-ms"
    livenessMs := word "liveness-ms"
    requestTimeoutMs := word "request-timeout-ms"
    maxOfferBytes := word "max-offer-bytes" }

/-- Reads a line of these flags alone. -/
def ofWords (words : List String) : Except Flags.Fault Overrides := (Flags.read flags words).map ofGiven

end PeerChat.Settings.Overrides
