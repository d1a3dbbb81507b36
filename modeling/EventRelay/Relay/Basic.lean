import EventRelay.Notice.Bus
import EventRelay.Occurrence
import EventRelay.Table
import EventRelay.Task

namespace EventRelay

/-- What the world outside decides: the readings of the steady clock, the numbers drawn for jitter, and which
of two things that happened to a waiting fetch it sees first. -/
structure Surroundings where
  reading : Nat → Instant
  draw : Nat → Nat
  arrivalFirst : Nat → Bool

/-- `now` is the clock of pauses. `readings`, `draws` and `choices` count what was taken from the
surroundings. `past` holds what happened so far, the latest first. -/
structure Relay (σ : Type) where
  settings : Settings
  source : σ
  surroundings : Surroundings
  handles : Nat
  registry : Registry
  slot : Option PollerSlot
  cursor : Cursor
  subscribers : Table Subscriber
  tasks : Table Task
  tokens : Nat
  cancelled : List TokenId
  bus : Bus
  now : Nat
  readings : Nat
  draws : Nat
  choices : Nat
  past : List Occurrence

/-- Why no relay comes about. -/
inductive BuildError
  | refused (cause : CallFault)
  | busTooLarge
deriving DecidableEq

/-- Tasks can be run on the surrounding runtime only from inside one. -/
def currentRuntime (inside : Bool) : Except UnitFault Unit := if inside then .ok () else .error .noRuntime

namespace Relay

variable {σ : Type}

/-- A relay with one handle and nobody registered. Its bus must hold the configured number of notices. -/
def create? (settings : Settings) (source : σ) (subscribers : List Subscriber) (surroundings : Surroundings) :
    Option (Relay σ) :=
  (Bus.create? settings.busRoom).map fun bus =>
    { settings, source, surroundings, handles := 1, registry := .empty, slot := none, cursor := .unset,
      subscribers := .ofList subscribers, tasks := .empty, tokens := 0, cancelled := [], bus, now := 0,
      readings := 0, draws := 0, choices := 0, past := [] }

/-- Builds a relay that runs its tasks on an executor, if one is given, or on the surrounding runtime. -/
def build (executor runtime : Bool) (settings : Settings) (source : σ) (subscribers : List Subscriber)
    (surroundings : Surroundings) : Except BuildError (Relay σ) :=
  match if executor then .ok () else currentRuntime runtime with
  | .error cause => .error (.refused (.unit cause))
  | .ok () =>
    match create? settings source subscribers surroundings with
    | some relay => .ok relay
    | none => .error .busTooLarge

/-- What happened so far, in order. -/
def story (r : Relay σ) : List Occurrence := r.past.reverse

/-- Records a fact and publishes its notice. -/
def note (r : Relay σ) (o : Occurrence) : Relay σ :=
  { r with
    past := o :: r.past
    bus := match o.notice? with
      | some body => r.bus.publish body
      | none => r.bus }

def hasController (r : Relay σ) : Bool := r.handles != 0

def isCancelled (r : Relay σ) (token : TokenId) : Bool := r.cancelled.contains token

def cancelToken (r : Relay σ) (token : TokenId) : Relay σ := { r with cancelled := token :: r.cancelled }

/-- The number of the token issued next. -/
def issueToken (r : Relay σ) : TokenId × Relay σ := (r.tokens, { r with tokens := r.tokens + 1 })

/-- The steady clock is read anew each time. -/
def readClock (r : Relay σ) : Instant × Relay σ :=
  (r.surroundings.reading r.readings, { r with readings := r.readings + 1 })

def updateSubscriber (r : Relay σ) (sub : SubId) (f : Subscriber → Subscriber) : Relay σ :=
  { r with subscribers := r.subscribers.update sub f }

def party (r : Relay σ) (sub : SubId) : Party :=
  ⟨sub, ((r.subscribers.get? sub).map Subscriber.name).getD ""⟩

def setWork (r : Relay σ) (id : TaskId) (work : Work) : Relay σ :=
  { r with tasks := r.tasks.update id (fun t => { t with work }) }

def endTask (r : Relay σ) (id : TaskId) (ending : Ending) : Relay σ :=
  { r with tasks := r.tasks.update id (fun t => { t with ending := some ending }) }

/-- A new task takes the next number and is runnable. -/
def spawn (r : Relay σ) (name : String) (work : Work) : TaskId × Relay σ :=
  (r.tasks.size, { r with tasks := r.tasks.add ⟨name, work, none⟩ }.note (.spawned r.tasks.size name))

def taskEnded (r : Relay σ) (id : TaskId) : Bool := (r.tasks.get? id).any Task.hasEnded

/-- A poller is there and has not ended, even if it was asked to stop. -/
def isPolling (r : Relay σ) : Bool := r.slot.any (fun s => !r.taskEnded s.task)

end Relay

end EventRelay
