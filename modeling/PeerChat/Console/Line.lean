import PeerChat.Session.Basic

/-!
Console lines: what the user types, as commands. A line that does not begin with a slash is a message; one that
does is a verb with an argument.
-/

namespace PeerChat.Console

open Transfer (Response)

def help : String := "\n".intercalate [
  "commands:",
  "  <text>                    send to the current conversation",
  "  /chat all | /chat <peer>  switch conversation",
  "  /emoji [id]               send an emoji, or list them",
  "  /sendfile <peer> <path>   offer a file",
  "  /accept [fileId]          accept the open (or given) file offer",
  "  /reject [fileId]          reject the open (or given) file offer",
  "  /block <user>             block a user",
  "  /unblock <user>           unblock a user",
  "  /toggle <user>            flip a user's block state",
  "  /help                     show this text",
  "  /quit                     exit"]

/-- What a line asks for. -/
inductive Input
  | commands (commands : List Command)
  | help
  | emojiCatalogue
deriving DecidableEq, Repr

/-- Why a line cannot be followed. -/
inductive LineFault
  /-- The verb needs more than was given; the usage tells what. -/
  | usage (form : String)
  | unknownVerb (verb : String)
deriving DecidableEq, Repr

def LineFault.message : LineFault → String
  | .usage form => "usage: " ++ form
  | .unknownVerb verb => "unknown command /" ++ verb ++ "; try /help"

def Input.single (command : Command) : Input := commands [command]

/-- The argument of a verb that needs one. -/
def required (usage : String) : Option String → Except LineFault String
  | some argument => .ok argument
  | none => .error (.usage usage)

/-- Accepts or rejects the given offer, or the one that is open. -/
def answer (accepted : Bool) : Option String → Command
  | some fileId => .respondToOffer ⟨fileId, accepted⟩
  | none => .respondToPrompt accepted

def sendFileUsage : String := "/sendfile <peer> <path>"

/-- Offers a file: the peer is the first word of the argument, the path is the rest. -/
def readSendFile (argument : Option String) : Except LineFault Command := do
  match Text.cutAtBlank (← required sendFileUsage argument) with
  | some (target, path) => return .sendFile (Text.trim path) target
  | none => throw (.usage sendFileUsage)

/-- What a verb with its argument asks for; the argument is trimmed and not empty. -/
def readVerb (verb : String) (argument : Option String) : Except LineFault Input :=
  match verb with
  | "help" => .ok .help
  | "quit" => .ok (.single .shutdown)
  | "exit" => .ok (.single .shutdown)
  | "chat" => (required "/chat all | /chat <peer>" argument).map fun id =>
      .single (.switchConversation (.ofId id))
  | "emoji" => .ok <| match argument with
      | some id => .single (.sendEmoji id)
      | none => .emojiCatalogue
  | "accept" => .ok (.single (answer true argument))
  | "reject" => .ok (.single (answer false argument))
  | "block" => (required "/block <user>" argument).map fun name => .single (.setBlocked ⟨name, true⟩)
  | "unblock" => (required "/block <user>" argument).map fun name => .single (.setBlocked ⟨name, false⟩)
  | "toggle" => (required "/toggle <user>" argument).map fun name => .single (.toggleBlock name)
  | "sendfile" => (readSendFile argument).map .single
  | verb => .error (.unknownVerb verb)

/-- The verb and the argument of a line after its slash: the verb ends at the first blank, and an argument of
blanks counts as none. -/
def cutVerb (rest : String) : String × Option String :=
  match Text.cutAtBlank rest with
  | some (verb, argument) => (verb, some (Text.trim argument) |>.filter (· ≠ ""))
  | none => (rest, none)

/-- The line without the line ends after it. -/
def withoutLineEnd (line : String) : String :=
  String.ofList (Text.dropTrailing (fun c => c == '\r' || c == '\n') line.toList)

/-- What a line asks for. -/
def readLine (line : String) : Except LineFault Input :=
  let line := withoutLineEnd line
  if Text.isAllBlank line then .ok (.commands [])
  else
    match Text.after? "/" line with
    | none => .ok (.commands [.updateDraft line, .submitDraft])
    | some rest =>
      let (verb, argument) := cutVerb rest
      readVerb verb argument

/-- The line that asks for a command; none for the commands that a message gives and those that no line gives. -/
def lineOf? : Command → Option String
  | .switchConversation conversation => some ("/chat " ++ conversation.id)
  | .updateDraft _ => none
  | .submitDraft => none
  | .sendEmoji id => some ("/emoji " ++ id)
  | .respondToPrompt accepted => some (if accepted then "/accept" else "/reject")
  | .respondToOffer response => some ((if response.accepted then "/accept " else "/reject ") ++ response.fileId)
  | .toggleBlock username => some ("/toggle " ++ username)
  | .setBlocked intent => some intent.command
  | .sendFile path target => some ("/sendfile " ++ target ++ " " ++ path)
  | .shutdown => some "/quit"

end PeerChat.Console
