import PeerChat.Disk
import PeerChat.Schedule.Timers

/-!
Settings of the client: where its peer is, how often it looks, how long it waits and how large a file it offers; and
which settings are fit to be used.
-/

namespace PeerChat

/-- The settings of a client; times are in milliseconds. -/
structure Settings where
  serverUrl : String
  messagesMs : UInt64
  rosterMs : UInt64
  transfersMs : UInt64
  livenessMs : UInt64
  requestTimeoutMs : UInt64
  maxOfferBytes : UInt64
deriving DecidableEq, Repr

namespace Settings

/-- The settings where nothing else is said. -/
def default : Settings where
  serverUrl := "http://127.0.0.1:8080"
  messagesMs := 2000
  rosterMs := 3000
  transfersMs := 3000
  livenessMs := 5000
  requestTimeoutMs := 4000
  maxOfferBytes := 10 * 1024 * 1024

instance : Inhabited Settings := ⟨default⟩

def periods (s : Settings) : Schedule.Periods :=
  ⟨s.messagesMs.toNat, s.rosterMs.toNat, s.transfersMs.toNat, s.livenessMs.toNat⟩

/-! ### Fitness -/

/-- The times among the settings. -/
inductive Period
  | messages
  | roster
  | transfers
  | liveness
  | requestTimeout
deriving DecidableEq, Repr

namespace Period

/-- All times, in the order in which they are checked. -/
def all : List Period := [messages, roster, transfers, liveness, requestTimeout]

def label : Period → String
  | messages => "messages"
  | roster => "roster"
  | transfers => "transfers"
  | liveness => "liveness"
  | requestTimeout => "request timeout"

def value (s : Settings) : Period → UInt64
  | messages => s.messagesMs
  | roster => s.rosterMs
  | transfers => s.transfersMs
  | liveness => s.livenessMs
  | requestTimeout => s.requestTimeoutMs

end Period

/-- Why there are no settings to use. -/
inductive Fault
  | unreadable (path : String) (fault : Disk.Fault)
  | tooLarge (path : String) (size limit : Nat)
  /-- The file is not JSON, or of another shape. -/
  | unparsable (path : String)
  | emptyServerUrl
  | zeroPeriod (period : Period)
  | zeroOfferLimit
deriving DecidableEq, Repr

def Fault.message : Fault → String
  | unreadable path fault => "cannot read config " ++ path ++ ": " ++ fault.message
  | tooLarge path size limit =>
    "config " ++ path ++ " is " ++ toString size ++ " bytes, over the " ++ toString limit ++ " byte limit"
  | unparsable path => "config " ++ path ++ ": parse failed"
  | emptyServerUrl => "server url must not be empty"
  | zeroPeriod period => period.label ++ " period must be greater than zero"
  | zeroOfferLimit => "max offer size must be greater than zero"

/-- What keeps settings from being used, if anything: an address of blanks, then a time of zero, then a limit of
zero. -/
def fault? (s : Settings) : Option Fault :=
  if Text.isAllBlank s.serverUrl then some .emptyServerUrl
  else
    match Period.all.find? (·.value s == 0) with
    | some period => some (.zeroPeriod period)
    | none => if s.maxOfferBytes = 0 then some .zeroOfferLimit else none

/-! ### Overrides -/

/-- Settings that were given by hand; what is `none` was not given. -/
structure Overrides where
  serverUrl : Option String
  messagesMs : Option UInt64
  rosterMs : Option UInt64
  transfersMs : Option UInt64
  livenessMs : Option UInt64
  requestTimeoutMs : Option UInt64
  maxOfferBytes : Option UInt64
deriving DecidableEq, Repr

def Overrides.none : Overrides := ⟨.none, .none, .none, .none, .none, .none, .none⟩

/-- The settings with those replaced that were given by hand. -/
def Overrides.apply (o : Overrides) (s : Settings) : Settings where
  serverUrl := o.serverUrl.getD s.serverUrl
  messagesMs := o.messagesMs.getD s.messagesMs
  rosterMs := o.rosterMs.getD s.rosterMs
  transfersMs := o.transfersMs.getD s.transfersMs
  livenessMs := o.livenessMs.getD s.livenessMs
  requestTimeoutMs := o.requestTimeoutMs.getD s.requestTimeoutMs
  maxOfferBytes := o.maxOfferBytes.getD s.maxOfferBytes

end Settings

end PeerChat
