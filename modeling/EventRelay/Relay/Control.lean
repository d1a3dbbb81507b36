import EventRelay.Relay.Queue

namespace EventRelay

namespace Relay

variable {σ : Type} [EventSource σ]

def sourceName (r : Relay σ) : String := EventSource.name r.source

def interruptSource (r : Relay σ) (caller : Caller) : Relay σ :=
  { r with source := EventSource.interrupt r.source }.note (.interruptCalled caller)

/-- Changes the registry, and records when it becomes empty or ceases to be. -/
def withRegistry (r : Relay σ) (registry : Registry) : Relay σ :=
  let changed := { r with registry }
  match r.registry.isEmpty, registry.isEmpty with
  | true, false => changed.note .registryFilled
  | false, true => changed.note .registryEmptied
  | _, _ => changed

def resetCursor (r : Relay σ) : Relay σ := { r with cursor := .unset }.note .cursorReset

/-- Empties the slot of a poller that ended without doing so itself. -/
def reclaim (r : Relay σ) : Relay σ :=
  match r.slot with
  | none => r
  | some s =>
    if r.taskEnded s.task then
      let emptied := { r with slot := none }.note (.pollerReclaimed r.sourceName)
      if r.registry.isEmpty then emptied.resetCursor else emptied
    else r

/-- The cursor is stamped before the caller goes on, so what is posted next is past it. -/
def startPoller (r : Relay σ) : Relay σ :=
  let (now, r) := r.readClock
  let r := { r with cursor := r.cursor.stamp now }
  let (task, r) := r.spawn r.settings.pollerName (.poller 0 .ready)
  let (token, r) := r.issueToken
  { r with slot := some ⟨task, token⟩ }.note (.pollerStarted r.sourceName task now)

/-- A poller that was asked to stop goes on with a fresh token. -/
def revivePoller (r : Relay σ) (s : PollerSlot) : Relay σ :=
  let (token, r) := r.issueToken
  { r with slot := some { s with token } }.note .pollerRevived

/-- Asks the poller to stop, and ends the fetch that it may be waiting for. -/
def stopPoller (r : Relay σ) (s : PollerSlot) : Relay σ :=
  ((r.cancelToken s.token).interruptSource .controller).note (.pollerInterrupted r.sourceName)

def alignPoller (r : Relay σ) : Relay σ :=
  match r.slot, r.registry.isEmpty with
  | none, true => r
  | none, false => r.startPoller
  | some s, true => if r.isCancelled s.token then r else r.stopPoller s
  | some s, false => if r.isCancelled s.token then r.revivePoller s else r

/-- Done after every change of the registry. -/
def followRegistry (r : Relay σ) : Relay σ := r.reclaim.alignPoller

def addSubscriber (r : Relay σ) (name : String) (sub : SubId) : Relay σ :=
  let (added, registry) := r.registry.insert name sub
  let r := r.withRegistry registry
  (if added then r.note (.subscriberAdded name (r.party sub)) else r).followRegistry

/-- Unregisters a subscriber from `name` and says whether it was registered there. -/
def removeSubscriber (r : Relay σ) (name : String) (sub : SubId) : Bool × Relay σ :=
  let (removed, registry) := r.registry.remove name sub
  let r := (r.withRegistry registry).followRegistry
  (removed,
    if removed then (r.discardPending (.unregistered name) sub).note (.subscriberRemoved name (r.party sub)) else r)

/-- Unregisters everybody from `name` and says how many they were. -/
def removeSubscribers (r : Relay σ) (name : String) : Nat × Relay σ :=
  let (removed, registry) := r.registry.removeName name
  let r := ((r.withRegistry registry).followRegistry).discardAll (.unregistered name) removed
  (removed.length, if removed.isEmpty then r else r.note (.subscribersRemoved name removed.length))

def firingName : String := "rtevent-fire"

/-- Hands an event to those registered under its name now, past the source. A task of its own does so. -/
def fireEvent (r : Relay σ) (event : Event) : Nat × Relay σ :=
  let targets := r.registry.membersOf event.name
  let r := r.note (.fired event targets)
  (targets.length, if targets.isEmpty then r else (r.spawn firingName (.firing event targets)).2)

/-- Gives an event to the source, which stamps it with the time and an index. -/
def postToSource (r : Relay σ) (event : Event) : Except SourceFault (Nat × Relay σ) :=
  let (now, read) := r.readClock
  match EventSource.post r.source now event with
  | .error cause => .error cause
  | .ok (index, source) => .ok (index, { read with source }.note (.posted index now event))

/-- Discards what is pending of the subscribers of each entry in turn. One that has several names loses it under
the first. -/
def discardEnrolments (r : Relay σ) (enrolments : List Enrolment) : Relay σ :=
  enrolments.foldl (fun r e => r.discardAll (.unregistered e.1) e.2) r

/-- Unregisters everybody, going through the registrations in the order given. -/
def shutdownInOrder (r : Relay σ) (enrolments : List Enrolment) : Nat × Relay σ :=
  ((enrolments.flatMap Prod.snd).length,
    ((r.withRegistry r.registry.clear.2).followRegistry).discardEnrolments enrolments)

/-- Unregisters everybody and says how many registrations there were. -/
def shutdown (r : Relay σ) : Nat × Relay σ := r.shutdownInOrder r.registry.clear.1

/-- The last handle is gone: the poller is asked to stop and nothing stays pending. No notice is published. -/
def tearDown (r : Relay σ) : Relay σ :=
  let stopped := match r.slot with
    | none => r
    | some s => ({ r with slot := none }.cancelToken s.token).interruptSource .controller
  let (enrolments, registry) := r.registry.clear
  (stopped.withRegistry registry).discardAll .abandoned (enrolments.flatMap Prod.snd)

def cloneHandle (r : Relay σ) : Relay σ := if r.hasController then { r with handles := r.handles + 1 } else r

def dropHandle (r : Relay σ) : Relay σ :=
  let dropped := { r with handles := r.handles - 1 }
  if r.handles = 1 then dropped.tearDown else dropped

end Relay

end EventRelay
