import EventRelay.Relay.Control

namespace EventRelay

/-- What a task says after one step: it goes on, it waits, or it has ended. -/
inductive Turn
  | going
  | blocked
  | ended (ending : Ending)
deriving DecidableEq

namespace Relay

variable {σ : Type} [EventSource σ]

def finish (r : Relay σ) (id : TaskId) (ending : Ending) : Turn × Relay σ :=
  (.ended ending, r.endTask id ending)

/-- Nobody is registered: the cursor is reset and the slot emptied in one go. -/
def exitPoller (r : Relay σ) (id : TaskId) : Turn × Relay σ :=
  ({ r with slot := none }.resetCursor.note (.pollerStopped r.sourceName)).finish id .finished

/-- Failures are counted in 32 bits and stay at the last number. -/
def maxFailures : Nat := Nat.pow 2 32 - 1

/-- Hands a fetched event on, stamped with its index. -/
def passOn (r : Relay σ) (id : TaskId) (f : Fetched) : Turn × Relay σ :=
  let skipped := r.cursor.skipped f.index
  let r := { r with cursor := r.cursor.moveTo f.index }
  let r := if skipped = 0 then r else r.note (.eventsSkipped f.event.name f.index skipped)
  let targets := r.registry.membersOf f.event.name
  let r := if targets.isEmpty then r.note (.unclaimed f.event.name f.index)
    else r.dispatch targets ⟨f.event.indexed f.index, id⟩
  (.going, r.setWork id (.poller 0 .ready))

/-- Pauses after a failure. A delay that cannot be computed ends the task where it stands. -/
def pauseAfter (r : Relay σ) (id : TaskId) (failures : Nat) (token : TokenId) (fault : FetchFault) :
    Turn × Relay σ :=
  match r.settings.backoff.delay? failures (r.surroundings.draw r.draws) with
  | none => r.finish id .panicked
  | some delay =>
    let failures := min (failures + 1) maxFailures
    let r := { r with draws := r.draws + 1 }.note (.fetchFailed id r.sourceName fault failures delay)
    (.going, r.setWork id (.poller failures (.pausing token (r.now + delay.nanos))))

/-- An interrupt or a timeout only leads to the next fetch. -/
def takeFault (r : Relay σ) (id : TaskId) (failures : Nat) (token : TokenId) (fault : FetchFault) :
    Turn × Relay σ :=
  if fault.isFailure then r.pauseAfter id failures token fault
  else (.going, (r.note (.nothingFetched fault)).setWork id (.poller failures .ready))

/-- A source that panics counts as one that failed. -/
def takeResult (r : Relay σ) (id : TaskId) (failures : Nat) (token : TokenId) (result : FetchResult) :
    Turn × Relay σ :=
  if !r.hasController then r.finish id .finished
  else if r.registry.isEmpty then r.exitPoller id
  else
    let r := r.note (.resultTaken id result)
    match result with
    | .fetched f => r.passOn id f
    | .failed fault => r.takeFault id failures token fault
    | .panicked message => r.takeFault id failures token (.failed ("source panicked: " ++ message))

/-- Takes the answer of the source to a fetch. -/
def afterFetch (r : Relay σ) (id : TaskId) (failures : Nat) (token : TokenId) :
    FetchReply × σ → Turn × Relay σ
  | (.ready result, source) => { r with source }.takeResult id failures token result
  | (.pending ticket, source) =>
    (.blocked, { r with source }.setWork id (.poller failures (.fetching token ticket)))

/-- Begins a fetch at the controller's cursor, unless the poller was asked to stop. -/
def beginFetch (r : Relay σ) (id : TaskId) (failures : Nat) (token : TokenId) : Turn × Relay σ :=
  if r.isCancelled token then r.takeResult id failures token (.failed .interrupted)
  else
    let r := r.note (.fetchStarted id r.cursor)
    r.afterFetch id failures token (EventSource.fetch r.source r.cursor)

def prepareFetch (r : Relay σ) (id : TaskId) (failures : Nat) : Turn × Relay σ :=
  if !r.hasController then r.finish id .finished
  else if r.registry.isEmpty then r.exitPoller id
  else match r.slot with
    | none => r.finish id .finished
    | some s => r.beginFetch id failures s.token

/-- A stop request comes before anything that the source says. -/
def resumeFetch (r : Relay σ) (id : TaskId) (failures : Nat) (token : TokenId) (ticket : Ticket) :
    Turn × Relay σ :=
  if r.isCancelled token then
    { r with source := EventSource.cancel r.source ticket }.takeResult id failures token (.failed .interrupted)
  else if EventSource.isAwake r.source ticket then
    { r with choices := r.choices + 1 }.afterFetch id failures token
      (EventSource.resume r.source ticket (r.surroundings.arrivalFirst r.choices))
  else (.blocked, r)

def pollerTurn (r : Relay σ) (id : TaskId) (failures : Nat) : PollerStage → Turn × Relay σ
  | .ready => r.prepareFetch id failures
  | .fetching token ticket => r.resumeFetch id failures token ticket
  | .pausing token deadline =>
    if r.isCancelled token || decide (deadline ≤ r.now) then
      (.going, r.setWork id (.poller failures .ready))
    else (.blocked, r)

end Relay

end EventRelay
