import PeerChat.Schedule.Timers
import PeerChat.Service.Basic

/-!
Schedules: a session against a peer service, on a clock that jumps from one moment to the next.

Requests are started together, in the order in which they are asked for, and then each of them makes its call, which is
answered at once, later or never. What falls on one moment can happen in any order: timers fire, calls are made, answers
and commands are handled. Time goes on when nothing more can happen, except that files may take time to be read.

* `Move`, `Step`, `Reachable`: all ways in which a schedule can go on;
* `run`: one of them, in a fixed order.
-/

namespace PeerChat.Schedule

open Transfer (Response)

/-! ### Setting and state -/

/-- What a schedule runs with. -/
structure Setting where
  periods : Periods
  /-- The largest file that is offered. -/
  maxOfferBytes : Nat
  service : Service
  disk : Disk

/-- A request that was started. Each fetch of a resource has the next number. -/
inductive Job
  | fetch (resource : Resource) (seq : UInt64) (forced : Bool)
  | probe
  | sendText (text : String) (purpose : SendPurpose)
  | sendFile (path : String) (target : Username)
  | respond (response : Response)
deriving DecidableEq

namespace Job

def request : Job → Request
  | fetch resource _ forced => .fetch resource forced
  | probe => .probe
  | sendText text purpose => .sendText text purpose
  | sendFile path target => .sendFile path target
  | respond response => .respond response

/-- A file has to be read before the call is made. -/
def reads : Job → Bool
  | sendFile _ _ => true
  | _ => false

end Job

/-- What the log tells of one moment. -/
inductive Entry
  | started (job : Job)
  | called (call : Call)
  | shown (event : Event)
deriving DecidableEq

/-- How many calls of each kind were made. -/
structure Tally where
  fetches : PerResource Nat
  probes : Nat
  texts : Nat
  files : Nat
  responses : Nat
deriving DecidableEq, Repr

namespace Tally

def empty : Tally := ⟨.const 0, 0, 0, 0, 0⟩

def get (t : Tally) : CallKind → Nat
  | .fetch resource => t.fetches.get resource
  | .probe => t.probes
  | .sendText => t.texts
  | .sendFile => t.files
  | .respond => t.responses

/-- One more call of a kind. -/
def count (t : Tally) : CallKind → Tally
  | .fetch resource => { t with fetches := t.fetches.set resource (t.fetches.get resource + 1) }
  | .probe => { t with probes := t.probes + 1 }
  | .sendText => { t with texts := t.texts + 1 }
  | .sendFile => { t with files := t.files + 1 }
  | .respond => { t with responses := t.responses + 1 }

end Tally

/-- A schedule on its way. -/
structure Run where
  now : Nat
  session : Session
  timers : Timers
  /-- The numbers that were given out last; they go round after 64 bits. -/
  sequences : PerResource UInt64
  tally : Tally
  /-- What was started and has not made its call. -/
  queue : List Job
  /-- The answers that are under way, with the time at which each one comes. -/
  waiting : List (Nat × Completion)
  /-- The commands that are still to come, each with its time. -/
  commands : List (Nat × Command)
  /-- The user has left. -/
  ended : Bool
  /-- What happened, the newest first. -/
  log : List (Nat × Entry)

namespace Run

/-- Before anything was started. -/
def initial (setting : Setting) (commands : List (Nat × Command)) : Run :=
  ⟨0, .empty, setting.periods, .const 0, .empty, [], [], commands, false, []⟩

/-- What happened, the oldest first. -/
def trace (r : Run) : List (Nat × Entry) := r.log.reverse

def note (r : Run) (entry : Entry) : Run := { r with log := (r.now, entry) :: r.log }

/-! ### Requests and calls -/

def enqueue (r : Run) (job : Job) : Run := { r.note (.started job) with queue := r.queue ++ [job] }

def start (r : Run) : Request → Run
  | .fetch resource forced =>
    let seq := r.sequences.get resource + 1
    { r with sequences := r.sequences.set resource seq }.enqueue (.fetch resource seq forced)
  | .probe => r.enqueue .probe
  | .sendText text purpose => r.enqueue (.sendText text purpose)
  | .sendFile path target => r.enqueue (.sendFile path target)
  | .respond response => r.enqueue (.respond response)

def startAll (r : Run) (requests : List Request) : Run := requests.foldl start r

/-- Takes over a turn of the session: what it leaves, shows and asks for. -/
def take (r : Run) (turn : Turn) : Run :=
  let r := turn.events.foldl (fun r event => r.note (.shown event)) { r with session := turn.session }
  r.startAll turn.requests

/-- An answer that comes after a delay. -/
def expect (r : Run) (delay : Nat) (completion : Completion) : Run :=
  { r with waiting := r.waiting ++ [(r.now + delay, completion)] }

def ask (r : Run) (call : Call) (reaction : Reaction α) (finish : Except Failure α → Completion) : Run :=
  let r := { r.note (.called call) with tally := r.tally.count call.kind }
  match reaction with
  | none => r
  | some (delay, result) => r.expect delay (finish result)

def failureOf? : Except Failure α → Option Failure
  | .ok _ => none
  | .error failure => some failure

/-- Makes the call of a job. A file that cannot be offered ends its job without one. -/
def perform (setting : Setting) (r : Run) (job : Job) : Run :=
  match job with
  | .fetch resource seq forced =>
    r.ask (.fetch resource) (setting.service.fetch resource (r.tally.get (.fetch resource)) r.now) fun
      | .ok snapshot => .fetched seq.toNat forced snapshot
      | .error failure => .fetchFailed resource failure
  | .probe =>
    r.ask .probe (setting.service.probe (r.tally.get .probe) r.now) fun result => .probed (failureOf? result)
  | .sendText text purpose =>
    r.ask (.sendText text) (setting.service.sendText text (r.tally.get .sendText) r.now) fun result =>
      .sent purpose (failureOf? result)
  | .sendFile path target =>
    match Upload.ofPath setting.disk setting.maxOfferBytes path target with
    | .ok upload =>
      r.ask (.sendFile upload) (setting.service.sendFile upload (r.tally.get .sendFile) r.now) fun result =>
        .fileOffered path target (failureOf? result)
    | .error failure => r.expect 0 (.fileOffered path target (some failure))
  | .respond response =>
    r.ask (.respond response) (setting.service.respond response (r.tally.get .respond) r.now) fun result =>
      .responded response (failureOf? result)

/-! ### What can happen -/

/-- A timer fires, and is set to fire again a period later. -/
def tick (setting : Setting) (r : Run) (timer : Timer) : Run :=
  { r with timers := r.timers.set timer (r.now + setting.periods.get timer) }.startAll timer.requests

/-- Handles a command of the user; after the user has left nothing is handled. -/
def obey (r : Run) (command : Command) : Run :=
  if r.ended then r
  else if command = .shutdown then { r with ended := true }
  else r.take (r.session.command command)

/-- Nothing happens before a time, unless a file was read. -/
structure IdleUntil (r : Run) (later : Nat) : Prop where
  queue : ∀ job ∈ r.queue, job.reads = true
  timers (timer : Timer) : later ≤ r.timers.get timer
  waiting : ∀ answer ∈ r.waiting, later ≤ answer.1
  commands : ∀ command ∈ r.commands, later ≤ command.1

end Run

/-- One of the things happens that can happen at this moment. -/
inductive Move (setting : Setting) (r : Run) : Run → Prop
  | tick (timer : Timer) (due : r.timers.get timer ≤ r.now) : Move setting r (r.tick setting timer)
  | call {before after : List Job} {job : Job} (queue : r.queue = before ++ job :: after) :
    Move setting r ({ r with queue := before ++ after }.perform setting job)
  | answer {before after : List (Nat × Completion)} {time : Nat} {completion : Completion}
    (waiting : r.waiting = before ++ (time, completion) :: after) (due : time ≤ r.now) :
    Move setting r ({ r with waiting := before ++ after }.take (r.session.complete completion))
  /-- Commands of one moment are handled in their order. -/
  | command {before after : List (Nat × Command)} {time : Nat} {command : Command}
    (commands : r.commands = before ++ (time, command) :: after) (first : ∀ earlier ∈ before, r.now < earlier.1)
    (due : time ≤ r.now) : Move setting r ({ r with commands := before ++ after }.obey command)

/-- Something happens, or time goes on. -/
inductive Step (setting : Setting) (r : Run) : Run → Prop
  | move {r' : Run} (move : Move setting r r') : Step setting r r'
  | pass {later : Nat} (lt : r.now < later) (idle : r.IdleUntil later) : Step setting r { r with now := later }

/-- What is asked for at the start: every resource by force, and whether the service can be reached. -/
def openingRequests : List Request := Resource.all.map (.fetch · true) ++ [.probe]

/-- A schedule at its start. -/
def Run.opening (setting : Setting) (commands : List (Nat × Command)) : Run :=
  (Run.initial setting commands).startAll openingRequests

/-- All that a schedule can come to before the user leaves, and when they do. -/
inductive Reachable (setting : Setting) (commands : List (Nat × Command)) : Run → Prop
  | opening : Reachable setting commands (.opening setting commands)
  | step {r r' : Run} : Reachable setting commands r → r.ended = false → Step setting r r' →
    Reachable setting commands r'

/-! ### A fixed order -/

/-- The session may fetch two resources when it is told this. -/
def bringsFetches : Completion → Bool
  | .fetched _ _ _ | .fetchFailed _ _ => false
  | .probed _ | .sent _ _ | .fileOffered _ _ _ | .responded _ _ => true

/-- And so it may when it is told the answer to this. -/
def Job.bringsFetches : Job → Bool
  | fetch _ _ _ => false
  | probe | sendText _ _ | sendFile _ _ | respond _ => true

namespace Run

/-- How much can happen at most before time goes on: the calls and their answers, and those of the fetches that answers
bring. A timer or a command brings no more than one such job and itself. -/
def load (r : Run) : Nat :=
  2 * r.queue.length + 4 * r.queue.countP Job.bringsFetches +
    (r.waiting.countP (·.1 ≤ r.now) + 4 * r.waiting.countP fun answer => answer.1 ≤ r.now ∧ bringsFetches answer.2) +
    7 * (Timer.all.countP (r.timers.get · ≤ r.now) + r.commands.countP (·.1 ≤ r.now))

/-- What happens first at this moment: answers are handled before calls are made, calls are made before timers fire,
and commands come last. -/
def move? (setting : Setting) (r : Run) : Option Run :=
  match r.waiting.find? (·.1 ≤ r.now) with
  | some (_, completion) =>
    some ({ r with waiting := r.waiting.eraseP (·.1 ≤ r.now) }.take (r.session.complete completion))
  | none =>
    match r.queue with
    | job :: queue => some ({ r with queue := queue }.perform setting job)
    | [] =>
      match Timer.all.find? (r.timers.get · ≤ r.now) with
      | some timer => some (r.tick setting timer)
      | none =>
        (r.commands.find? (·.1 ≤ r.now)).map fun (_, command) =>
          { r with commands := r.commands.eraseP (·.1 ≤ r.now) }.obey command

/-- Lets happen what can happen at this moment, but no more than so many things. -/
def settleWithin (setting : Setting) : Nat → Run → Run
  | 0, r => r
  | n + 1, r => if r.ended then r else (r.move? setting).elim r (settleWithin setting n)

def settle (setting : Setting) (r : Run) : Run := r.settleWithin setting r.load

def next (r : Run) : Nat :=
  (r.commands.map (·.1)).foldl min <| (r.waiting.map (·.1)).foldl min r.timers.next

/-- Goes from moment to moment, `n` of them at most, as long as they come before the end. -/
def go (setting : Setting) (stop : Nat) : Nat → Run → Run
  | 0, r => r
  | n + 1, r =>
    if r.ended ∨ stop ≤ r.next ∨ r.next ≤ r.now then r
    else go setting stop n ({ r with now := r.next }.settle setting)

end Run

/-- Runs a session up to `stop`, or until the user leaves. Time moves on at every moment, so no more than `stop` of them
come before the end. -/
def run (setting : Setting) (commands : List (Nat × Command)) (stop : Nat) : Run :=
  ((Run.opening setting commands).settle setting).go setting stop stop

end PeerChat.Schedule
