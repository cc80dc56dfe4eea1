import PeerChat.Draft
import PeerChat.Liveness
import PeerChat.Outgoing
import PeerChat.Service.Failure
import PeerChat.Store
import PeerChat.Transfer.Prompts

/-!
The session of a client: what it holds, what it is told, what it asks for, and what it shows.

A session is told commands of the user and completions of its requests. Each of them is handled in one turn, which
leaves a session, shows events and asks for further requests.
-/

namespace PeerChat

open Transfer (Prompt PromptUpdate Prompts Response)

/-! ### What a session is told, asks for and shows -/

/-- What the user wants. -/
inductive Command
  | switchConversation (conversation : Conversation)
  | updateDraft (text : String)
  | submitDraft
  | sendEmoji (id : String)
  /-- Answers the open prompt. -/
  | respondToPrompt (accepted : Bool)
  /-- Answers one offer. -/
  | respondToOffer (response : Response)
  | toggleBlock (username : Username)
  | setBlocked (intent : BlockIntent)
  | sendFile (path : String) (target : Username)
  | shutdown
deriving DecidableEq, Repr

/-- What a text is sent for. -/
inductive SendPurpose
  | compose
  | emoji
  | block (intent : BlockIntent)
deriving DecidableEq, Repr

/-- What a session asks the peer service for. -/
inductive Request
  /-- A forced fetch is published even if nothing changed. -/
  | fetch (resource : Resource) (forced : Bool)
  | probe
  | sendText (text : String) (purpose : SendPurpose)
  | sendFile (path : String) (target : Username)
  | respond (response : Response)
deriving DecidableEq, Repr

/-- How a request ended; without a failure it succeeded. -/
inductive Completion
  | fetched (seq : Nat) (forced : Bool) (snapshot : Snapshot)
  | fetchFailed (resource : Resource) (failure : Failure)
  | probed (failure : Option Failure)
  | sent (purpose : SendPurpose) (failure : Option Failure)
  | fileOffered (path : String) (target : Username) (failure : Option Failure)
  | responded (response : Response) (failure : Option Failure)
deriving DecidableEq, Repr

/-- How much weight a notice has. -/
inductive NoticeLevel
  | info
  | success
  | warning
  | error
deriving DecidableEq, Repr

/-- What a session shows. -/
inductive Event
  | messagesUpdated (conversation : Conversation) (messages : List Message)
  | rosterUpdated (users : List UserView)
  | conversationSwitched (conversation : Conversation) (discardedDraft : Bool)
  | draftCleared
  | promptOpened (prompt : Prompt)
  | promptClosed (fileId : FileId)
  | connectionChanged (liveness : Liveness)
  | resourceUnreachable (resource : Resource) (reason : String)
  | notice (level : NoticeLevel) (text : String)
deriving DecidableEq, Repr

/-- What a look at the transfer queue shows. -/
def Event.ofPromptUpdate : PromptUpdate → Event
  | .raised prompt => promptOpened prompt
  | .withdrawn fileId => promptClosed fileId

/-! ### Sessions -/

/-- What a client holds. -/
structure Session where
  store : Store
  prompts : Prompts
  conversation : Conversation
  draft : Draft
  liveness : Option Liveness
deriving DecidableEq, Repr

/-- What handling one command or completion brings. -/
structure Turn where
  session : Session
  events : List Event
  requests : List Request
deriving DecidableEq, Repr

namespace Session

def empty : Session := ⟨.empty, .empty, .everyone, .empty, none⟩

instance : Inhabited Session := ⟨empty⟩

/-- The messages of the current conversation. -/
def visibleMessages (s : Session) : List Message := s.conversation.view s.store.identity s.store.messages

/-- The users of the roster apart from the local one. -/
def users (s : Session) : List UserView := userViews s.store.roster s.store.blocked

def messagesEvent (s : Session) : Event := .messagesUpdated s.conversation s.visibleMessages

def rosterEvent (s : Session) : Event := .rosterUpdated s.users

/-- The turn that only tells the user something. -/
def tell (s : Session) (level : NoticeLevel) (text : String) : Turn := ⟨s, [.notice level text], []⟩

/-! ### Commands -/

/-- Sends a content into the current conversation, if the gate lets it out. -/
def send (s : Session) (content : Content) (purpose : SendPurpose) : Turn :=
  match gate s.conversation s.store.blocked content with
  | .ok text => ⟨s, [], [.sendText text purpose]⟩
  | .error refusal => s.tell .warning refusal.message

/-- Answers one offer; the user sees its prompt close if that is the open one. -/
def respondTo (s : Session) (fileId : FileId) (accepted : Bool) : Turn :=
  match s.prompts.respondTo fileId accepted with
  | .ok (prompts, response) =>
    let wasOpen := s.prompts.current.any (·.fileId == fileId)
    ⟨{ s with prompts := prompts }, if wasOpen then [.promptClosed fileId] else [], [.respond response]⟩
  | .error refusal => s.tell .warning refusal.message

def askBlock (s : Session) (intent : BlockIntent) : Turn := ⟨s, [], [.sendText intent.command (.block intent)]⟩

/-- Moves to a conversation; the draft is thrown away. -/
def switchTo (s : Session) (conversation : Conversation) : Turn :=
  let (text, draft) := s.draft.take
  let after := { s with conversation := conversation, draft := draft }
  ⟨after, [.conversationSwitched conversation (text ≠ ""), after.messagesEvent], []⟩

def command (s : Session) : Command → Turn
  | .switchConversation conversation => s.switchTo conversation
  | .updateDraft text => ⟨{ s with draft := s.draft.set text }, [], []⟩
  | .submitDraft => s.send (.text s.draft.text) .compose
  | .sendEmoji id => s.send (.emoji id) .emoji
  | .respondToPrompt accepted =>
    match s.prompts.current with
    | some prompt => s.respondTo prompt.fileId accepted
    | none => s.tell .warning Transfer.PromptRefusal.noOpenPrompt.message
  | .respondToOffer response => s.respondTo response.fileId response.accepted
  | .toggleBlock username => s.askBlock (.toggle username s.store.blocked)
  | .setBlocked intent => s.askBlock intent
  | .sendFile path target =>
    if Text.isAllBlank target then s.tell .warning "choose a peer to send the file to"
    else ⟨s, [], [.sendFile path target]⟩
  | .shutdown => ⟨s, [], []⟩

/-! ### Completions -/

/-- What a taken snapshot shows: the view that it feeds, if it changed or was asked for by force, and the
conversation too if the local user became known by another name. -/
def published (before after : Session) (resource : Resource) (publish : Bool) : List Event :=
  match resource with
  | .messages => if publish then [after.messagesEvent] else []
  | .roster =>
    (if publish then [after.rosterEvent] else []) ++
      if after.store.identity = before.store.identity then [] else [after.messagesEvent]
  | .blockList => if publish then [after.rosterEvent] else []
  | .transfers => []

/-- Takes a snapshot that the peer answered. -/
def fetched (s : Session) (seq : Nat) (forced : Bool) (snapshot : Snapshot) : Turn :=
  let (store, signal) := s.store.applyInOrder seq snapshot forced
  if signal = .stale then ⟨s, [], []⟩
  else
    let after := { s with store := store }
    match snapshot.resource with
    | .transfers =>
      let (prompts, updates) := s.prompts.scan store.transfers
      ⟨{ after with prompts := prompts }, updates.map .ofPromptUpdate, []⟩
    | resource => ⟨after, published s after resource (signal = .changed || forced), []⟩

/-- Notes whether the service could be reached. When it comes back, messages and roster are asked for by
force. -/
def observe (s : Session) (reachable : Bool) : Turn :=
  match Liveness.observe s.liveness reachable with
  | none => ⟨s, [], []⟩
  | some transition =>
    ⟨{ s with liveness := some transition.after }, [.connectionChanged transition.after],
      if transition.isReconnect then [.fetch .messages true, .fetch .roster true] else []⟩

/-- Keeps what is known of a resource that could not be fetched. -/
def fetchFailed (s : Session) (resource : Resource) (failure : Failure) : Turn :=
  let turn := if failure.isUnreachable then s.observe false else ⟨s, [], []⟩
  { turn with events := .resourceUnreachable resource failure.message :: turn.events }

/-- Handles the end of sending a text. -/
def sent (s : Session) (purpose : SendPurpose) (failure : Option Failure) : Turn :=
  match failure, purpose with
  | none, .compose => ⟨{ s with draft := s.draft.take.2 }, [.draftCleared], []⟩
  | none, .emoji => ⟨s, [], []⟩
  | none, .block _ => ⟨s, [], [.fetch .blockList true, .fetch .roster true]⟩
  | some failure, .block intent =>
    let verb := if intent.block then "block" else "unblock"
    s.tell .error ("could not " ++ verb ++ " " ++ intent.username ++ ": " ++ failure.message)
  | some failure, _ => s.tell .error ("message not sent: " ++ failure.message)

/-- Handles the end of offering a file. -/
def fileOffered (s : Session) (path : String) (target : Username) (failure : Option Failure) : Turn :=
  match failure with
  | none => s.tell .success ("file offer sent to " ++ target)
  | some failure => s.tell .error ("could not offer " ++ path ++ " to " ++ target ++ ": " ++ failure.message)

/-- Handles the end of answering an offer. -/
def responded (s : Session) (response : Response) (failure : Option Failure) : Turn :=
  let after := { s with prompts := s.prompts.complete response.fileId failure.isNone }
  match failure with
  | none => after.tell .success ("file transfer " ++ if response.accepted then "accepted" else "rejected")
  | some failure => after.tell .error ("could not send transfer response: " ++ failure.message)

/-- Handles the end of a request. -/
def complete (s : Session) : Completion → Turn
  | .fetched seq forced snapshot => s.fetched seq forced snapshot
  | .fetchFailed resource failure => s.fetchFailed resource failure
  | .probed failure => s.observe failure.isNone
  | .sent purpose failure => s.sent purpose failure
  | .fileOffered path target failure => s.fileOffered path target failure
  | .responded response failure => s.responded response failure

end Session

end PeerChat
