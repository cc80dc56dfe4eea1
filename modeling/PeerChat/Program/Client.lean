import PeerChat.Console.Dialogue
import PeerChat.Program.Outcome
import PeerChat.Service.Client
import PeerChat.Settings.File
import PeerChat.Settings.Flags

/-!
The client program: from its command line, its settings file and the lines that the user types to what it prints.
-/

namespace PeerChat.Program

open Flags (Flag)

namespace Client

def configFlag : String := "config"

def logFlag : String := "log-file"

def flags : List Flag := [⟨configFlag, .path, false⟩, ⟨logFlag, .path, false⟩] ++ Settings.Overrides.flags

def logged (text : String) : String := "lanshare: " ++ text

/-- What a schedule of the program runs with. -/
def setting (settings : Settings) (service : Service) (disk : Disk) : Schedule.Setting where
  periods := settings.periods
  maxOfferBytes := settings.maxOfferBytes.toNat
  service := service
  disk := disk

/-- Runs the program, in a time zone, against a service that does not answer before the input ends. -/
def run (zone : Calendar.Zone) (disk : Disk) (words : List String) (input : ByteArray) : Outcome :=
  match Flags.read flags words with
  | .error fault => .ofFlagFault fault
  | .ok given =>
    let disk := (given.value? logFlag).elim disk disk.opened
    match Settings.resolve disk (given.value? configFlag) (.ofGiven given) with
    | .error fault => .failed 2 (logged ("invalid configuration: " ++ fault.message))
    | .ok settings =>
      match PeerChat.Client.ofText settings.serverUrl with
      | .error failure => .failed 1 (logged ("cannot create peer client: " ++ failure.message))
      | .ok _ =>
        let setting := setting settings .silent disk
        let answers := (Console.Dialogue.start setting).answerAll zone setting (Console.readLines input)
        ⟨0, Console.linesOf Console.help ++ answers, []⟩

end Client

end PeerChat.Program
