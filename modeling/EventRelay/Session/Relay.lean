import EventRelay.Relay.Schedule

namespace EventRelay

inductive RelayStep
  | command (c : Command)
  | run
  | poll (task : TaskId)
  | sleep (d : Duration)
  | cloneHandle
  | dropHandle
  | notices
  | renewReceiver

inductive RelayAnswer
  | reply (r : Reply)
  | poll (r : Relay.PollReply)
  | handles (n : Nat)
  | notices (received : List Received)
  | noReceiver
  | flag (b : Bool)
  | nothing

/-- One line of what handlers report. -/
inductive HandlerEntry
  | entered (sub : SubId) (event : Event)
  | reacted (sub : SubId) (command : Command) (reply : Reply)
  | completed (sub : SubId) (event : Event)

/-- Where the controller stands. The cursor's time is given as the step in which it was stamped. -/
structure Standing where
  polling : Bool
  since : Option Nat
  last : Option Nat
  names : List String

/-- What is seen of a subscriber. -/
structure Figures where
  pending : Nat
  served : Bool
  tally : Tally

/-- What is seen after a step. -/
structure Report (σ : Type) where
  answer : RelayAnswer
  entries : List HandlerEntry
  notices : List Received
  spawned : List String
  fetches : List (Option Nat)
  log : List LogLine
  interrupts : Nat
  standing : Option Standing
  figures : List Figures
  source : σ

namespace Occurrence

def spawnedName? : Occurrence → Option String
  | .spawned _ name => some name
  | _ => none

def fetchFrom? : Occurrence → Option (Option Nat)
  | .fetchStarted _ cursor => some cursor.last
  | _ => none

def isInterrupt : Occurrence → Bool
  | .interruptCalled _ => true
  | _ => false

/-- Handlers that write to the log report nothing else. -/
def handlerEntry? (silent : SubId → Bool) : Occurrence → Option HandlerEntry
  | .entered party d => if silent party.id then none else some (.entered party.id d.event)
  | .reacted party command reply => some (.reacted party.id command reply)
  | .completed party d => if silent party.id then none else some (.completed party.id d.event)
  | _ => none

end Occurrence

/-- `starts` holds the number of clock readings before each step so far, the latest first. Notices are collected
after every step, unless the observer asks for them. -/
structure RelaySession (σ : Type) where
  relay : Relay σ
  manual : Bool
  starts : List Nat
  interrupts : Nat

namespace RelaySession

variable {σ : Type} [EventSource σ]

def observer : String := "observer"

def withBus (r : Relay σ) (bus : Bus) : Relay σ := { r with bus }

/-- The receiver is made before anything else happens. -/
def create (relay : Relay σ) (manual : Bool) : RelaySession σ :=
  ⟨withBus relay (relay.bus.subscribe observer), manual, [], 0⟩

/-- The clock tells the number of the reading. -/
def counting : Surroundings := ⟨id, fun _ => 0, fun _ => true⟩

/-- The last step that began before reading `n`. -/
def stepOf : List Nat → Instant → Nat
  | [], _ => 0
  | start :: earlier, n => if start ≤ n then earlier.length else stepOf earlier n

/-- Notices without an event or a subscriber come before those with one. -/
def noticeKey : Received → String × String
  | .notice n => (n.body.event.getD "", n.body.subscriber.getD "")
  | _ => ("", "")

def keyLe (a b : String × String) : Bool := decide (a.1 < b.1) || (a.1 == b.1 && decide (a.2 ≤ b.2))

/-- In a shutdown the order of the subscribers means nothing, so the notices are put in order. -/
def arrange (shutdown : Bool) (received : List Received) : List Received :=
  if shutdown then received.mergeSort (fun a b => keyLe (noticeKey a) (noticeKey b)) else received

def isShutdown : RelayStep → Bool
  | .command (.call .shutdown) => true
  | _ => false

/-- A receiver is renewed by the controller. Without one the old receiver is gone and no new one comes. -/
def perform (r : Relay σ) : RelayStep → RelayAnswer × Relay σ
  | .command c =>
    let (reply, r) := r.perform c
    (.reply reply, r)
  | .run => (.nothing, r.run)
  | .poll task =>
    let (reply, r) := r.poll task
    (.poll reply, r)
  | .sleep d => (.nothing, r.sleep d)
  | .cloneHandle => (.handles r.cloneHandle.handles, r.cloneHandle)
  | .dropHandle => (.handles r.dropHandle.handles, r.dropHandle)
  | .notices =>
    if (r.bus.receiver? observer).isNone then (.noReceiver, r)
    else
      let (received, bus) := r.bus.receiveAll observer
      (.notices received, withBus r bus)
  | .renewReceiver =>
    if r.hasController then (.flag true, withBus r (r.bus.subscribe observer))
    else (.flag false, withBus r (r.bus.unsubscribe observer))

def standing (starts : List Nat) (r : Relay σ) : Option Standing :=
  if r.hasController then
    some ⟨r.isPolling, r.cursor.since.map (stepOf starts), r.cursor.last, r.registry.names⟩
  else none

def figures (s : Subscriber) : Figures := ⟨s.pending.length, s.isServed, s.tally⟩

def isSilent (r : Relay σ) (sub : SubId) : Bool :=
  ((r.subscribers.get? sub).map (fun s => s.handler.writesLog)).getD false

def step (s : RelaySession σ) (x : RelayStep) : Report σ × RelaySession σ :=
  let starts := s.relay.readings :: s.starts
  let before := s.relay.past.length
  let (answer, r) := perform s.relay x
  let (received, bus) := if s.manual then ([], r.bus) else r.bus.receiveAll observer
  let r := withBus r bus
  let fresh := (r.past.take (r.past.length - before)).reverse
  let interrupts := s.interrupts + fresh.countP Occurrence.isInterrupt
  ({ answer
     entries := fresh.filterMap (Occurrence.handlerEntry? (isSilent r))
     notices := arrange (isShutdown x) received
     spawned := fresh.filterMap Occurrence.spawnedName?
     fetches := fresh.filterMap Occurrence.fetchFrom?
     log := fresh.filterMap Occurrence.logLine?
     interrupts
     standing := standing starts r
     figures := r.subscribers.rows.map figures
     source := r.source },
   { s with relay := r, starts, interrupts })

/-- The reports of all steps, in order. -/
def reports (s : RelaySession σ) : List RelayStep → List (Report σ)
  | [] => []
  | x :: rest =>
    let (report, s) := s.step x
    report :: s.reports rest

end RelaySession

end EventRelay
