import PeerChat.Console.Line
import PeerChat.Console.Printer
import PeerChat.Schedule.Basic

/-!
Dialogues: the lines that the user types and the lines that the console answers, while the peer service has not answered
anything yet.
-/

namespace PeerChat.Console

open Schedule (Setting Run)

def linesOf (text : String) : List String := (Text.splitAtChar '\n' text.toList).map String.ofList

/-- A dialogue on its way. -/
structure Dialogue where
  run : Run
  printer : Printer

namespace Dialogue

/-- The dialogue before the first line, with its first requests started. -/
def start (setting : Setting) : Dialogue := ⟨(Run.opening setting []).settle setting, .empty⟩

/-- The events among the first entries of a log that has its newest entry first, the oldest first. -/
def newEvents (count : Nat) (log : List (Nat × Schedule.Entry)) : List Event :=
  (log.take count).reverse.filterMap fun
    | (_, .shown event) => some event
    | _ => none

variable (zone : Calendar.Zone)

/-- Carries out the commands of a line, and prints what they show. -/
def obey (setting : Setting) (d : Dialogue) (commands : List Command) : Dialogue × List String :=
  let run := commands.foldl (fun run command => (run.obey command).settle setting) d.run
  let (printer, lines) := d.printer.printAll zone (newEvents (run.log.length - d.run.log.length) run.log)
  (⟨run, printer⟩, lines.flatten)

def answer (setting : Setting) (d : Dialogue) (line : String) : Dialogue × List String :=
  match readLine line with
  | .ok (.commands commands) => d.obey zone setting commands
  | .ok .help => (d, linesOf help)
  | .ok .emojiCatalogue => (d, linesOf Emoji.listing)
  | .error fault => (d, ["! " ++ fault.message])

/-- Answers lines until the user leaves. -/
def answerAll (setting : Setting) (d : Dialogue) : List String → List String
  | [] => []
  | line :: lines =>
    if d.run.ended then []
    else
      let (d, printed) := d.answer zone setting line
      printed ++ d.answerAll setting lines

end Dialogue

/-- The bytes between line ends; nothing after the last line end does not count as a line. -/
def cutLines (bytes : List UInt8) : List (List UInt8) :=
  let lines := bytes.foldr (fun b lines =>
    if b = 10 then [] :: lines else (b :: lines.headD []) :: lines.tail) [[]]
  if lines.getLast? = some [] then lines.dropLast else lines

/-- The lines of an input, up to the first one that is no text. -/
def readLines (input : ByteArray) : List String :=
  ((cutLines input.toList).map fun line => String.fromUTF8? ⟨line.toArray⟩).takeWhile (·.isSome) |>.filterMap id

end PeerChat.Console
