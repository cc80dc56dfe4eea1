import PeerChat.Session.Basic

/-!
The console printer: the lines that show the events of a session. It remembers what it printed of the current
conversation, so that of a log that has grown only the new messages are printed. Messages bear the time of day of the
user's time zone.
-/

namespace PeerChat.Console

open Calendar (Zone)

variable (zone : Zone)

/-! ### Lines -/

/-- The content of a message: the glyph of an emoji, if the catalogue has it. -/
def contentText : Content → String
  | .text words => words
  | .emoji id =>
    match Emoji.find? id with
    | some emoji => emoji.glyph
    | none => (Content.emoji id).encode

def messageLine (m : Message) : String :=
  let sender := if m.isOwn then "you" else m.sender
  let route := match m.recipient with
    | some recipient => sender ++ " -> " ++ recipient
    | none => sender
  "[" ++ String.ofList (zone.clockText m.timestamp) ++ "] " ++ route ++ ": " ++ contentText m.content

/-- The line above the messages of a conversation. -/
def headerLine (conversation : Conversation) : String := "== " ++ conversation.title ++ " =="

/-- The name of a user, marked if blocked. -/
def userText (user : UserView) : String := if user.isBlocked then user.username ++ " [blocked]" else user.username

def rosterLine (users : List UserView) : String :=
  "peers: " ++ if users.isEmpty then "(none)" else ", ".intercalate (users.map userText)

def noticeMark : NoticeLevel → String
  | .info => "*"
  | .success => "+"
  | .warning => "!"
  | .error => "!"

/-! ### The printer -/

/-- What was printed of which conversation. -/
structure Printer where
  conversation : Option Conversation
  /-- How many messages of the conversation are printed. -/
  printed : Nat
deriving DecidableEq, Repr

namespace Printer

def empty : Printer := ⟨none, 0⟩

instance : Inhabited Printer := ⟨empty⟩

/-- Prints the messages of a conversation: the new ones, or all of them under a header when the conversation is
another one or its log has become shorter. -/
def printMessages (p : Printer) (conversation : Conversation) (messages : List Message) : Printer × List String :=
  let sameView := p.conversation = some conversation
  let start := if sameView ∧ p.printed ≤ messages.length then p.printed else 0
  let header := if ¬sameView ∨ (start = 0 ∧ 0 < p.printed) then [headerLine conversation] else []
  (⟨some conversation, messages.length⟩, header ++ (messages.drop start).map (messageLine zone))

def print (p : Printer) : Event → Printer × List String
  | .messagesUpdated conversation messages => p.printMessages zone conversation messages
  | .rosterUpdated users => (p, [rosterLine users])
  | .conversationSwitched conversation discardedDraft =>
    (empty, ("* now chatting in " ++ conversation.title) ::
      if discardedDraft then ["* unsent draft discarded"] else [])
  | .draftCleared => (p, [])
  | .promptOpened prompt =>
    (p, ["? " ++ prompt.peerName ++ " wants to send you " ++ prompt.fileName ++ " (" ++ prompt.sizeLabel ++
      "). /accept or /reject"])
  | .promptClosed fileId => (p, ["* file offer " ++ fileId ++ " closed"])
  | .connectionChanged liveness => (p, ["* peer service " ++ liveness.label])
  | .resourceUnreachable resource reason => (p, ["! could not refresh " ++ resource.label ++ ": " ++ reason])
  | .notice level text => (p, [noticeMark level ++ " " ++ text])

/-- Prints a list of events; the lines of each event stand together. -/
def printAll (p : Printer) : List Event → Printer × List (List String)
  | [] => (p, [])
  | event :: events =>
    let (p, lines) := p.print zone event
    let (p, rest) := p.printAll events
    (p, lines :: rest)

end Printer

end PeerChat.Console
