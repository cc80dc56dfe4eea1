import PeerChat.Program.Client
import PeerChat.Program.Peer

/-!
The command line. The first word `peer` asks for the peer program; otherwise the words are those of the client program,
which talks to the console.
-/

namespace PeerChat

/-- The disk as far as a settings file is concerned. -/
def readDisk (path : Option String) : IO Disk := do
  match path with
  | none => return .ofEntries []
  | some path =>
    try
      return .ofFile (← IO.FS.readBinFile path) path
    catch _ => return .ofEntries []

def report (outcome : Program.Outcome) : IO UInt32 := do
  outcome.output.forM IO.println
  outcome.errors.forM fun error => IO.eprintln ("ERROR " ++ error)
  return UInt32.ofNat outcome.exitCode

def runClient (words : List String) : IO UInt32 := do
  let given := (Flags.read Program.Client.flags words).toOption.getD []
  let disk ← readDisk (given.value? Program.Client.configFlag)
  let input ← (← IO.getStdin).readBinToEnd
  -- no message is printed before the service answers, so that the time zone does not matter
  report (Program.Client.run .utc disk words input)

def runPeer (words : List String) : IO UInt32 := do
  match Program.Peer.start words with
  | .error outcome => report outcome
  | .ok peer =>
    peer.roster.forM IO.println
    return 0

end PeerChat

/-- Runs the program that the command line asks for. -/
def main (words : List String) : IO UInt32 :=
  match words with
  | "peer" :: words => PeerChat.runPeer words
  | words => PeerChat.runClient words
