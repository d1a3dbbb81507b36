import EventRelay.Notice
import EventRelay.Source
import EventRelay.Subscriber

namespace EventRelay

/-- A subscriber as it is named in the facts. -/
structure Party where
  id : SubId
  name : String
deriving DecidableEq

/-- Who called a source's interrupt. -/
inductive Caller
  | controller
  | client
deriving DecidableEq

/-- Why pending events are discarded: their subscriber was unregistered from a name, or the last handle of the
controller is gone. -/
inductive DiscardReason
  | unregistered (name : String)
  | abandoned
deriving DecidableEq

/-- What happens in the relay. The log lines and the notices that observers see are read off these facts. -/
inductive Occurrence
  | registryFilled
  | registryEmptied
  | cursorReset
  | subscriberAdded (event : String) (party : Party)
  | subscriberRemoved (event : String) (party : Party)
  | subscribersRemoved (event : String) (count : Nat)
  | spawned (task : TaskId) (name : String)
  | pollerStarted (source : String) (task : TaskId) (time : Instant)
  | pollerRevived
  | pollerInterrupted (source : String)
  | pollerReclaimed (source : String)
  | pollerStopped (source : String)
  | interruptCalled (caller : Caller)
  | posted (index : Nat) (time : Instant) (event : Event)
  | fetchStarted (task : TaskId) (cursor : Cursor)
  | resultTaken (task : TaskId) (result : FetchResult)
  | nothingFetched (fault : FetchFault)
  | fetchFailed (task : TaskId) (source : String) (fault : FetchFault) (failures : Nat) (delay : Duration)
  | eventsSkipped (event : String) (index : Nat) (count : Nat)
  | unclaimed (event : String) (index : Nat)
  | fired (event : Event) (targets : List SubId)
  | queued (party : Party) (delivery : Delivery)
  | dropped (party : Party) (delivery : Delivery)
  | discarded (party : Party) (deliveries : List Delivery) (reason : DiscardReason)
  | entered (party : Party) (delivery : Delivery)
  | reacted (party : Party) (command : Command) (reply : Reply)
  | written (event : Event)
  | completed (party : Party) (delivery : Delivery)
  | handlerPanicked (party : Party) (delivery : Delivery) (message : String)
deriving DecidableEq

inductive Level
  | trace
  | debug
  | info
  | warn
  | error
deriving DecidableEq

inductive FieldValue
  | text (s : String)
  | number (n : Nat)
deriving DecidableEq

/-- A line of the log. -/
structure LogLine where
  level : Level
  message : String
  fields : List (String × FieldValue)
deriving DecidableEq

namespace Occurrence

/-- Delays are logged in 64 bits of milliseconds. -/
def loggedMillis (d : Duration) : Nat := d.millis % Nat.pow 2 64

/-- The line that a fact leaves in the log. -/
def logLine? : Occurrence → Option LogLine
  | .subscriberAdded event party =>
    some ⟨.debug, "subscriber added", [("event", .text event), ("subscriber", .text party.name)]⟩
  | .subscriberRemoved event party =>
    some ⟨.debug, "subscriber removed", [("event", .text event), ("subscriber", .text party.name)]⟩
  | .subscribersRemoved event count =>
    some ⟨.debug, "subscribers removed", [("event", .text event), ("count", .number count)]⟩
  | .spawned _ name => some ⟨.trace, "spawning execution unit", [("unit", .text name)]⟩
  | .pollerStarted source _ _ => some ⟨.debug, "poller started", [("source", .text source)]⟩
  | .pollerRevived => some ⟨.debug, "poller revived before exit", []⟩
  | .pollerInterrupted source =>
    some ⟨.debug, "poller interrupted: no subscribers left", [("source", .text source)]⟩
  | .pollerReclaimed source =>
    some ⟨.warn, "poller ended abnormally, slot reclaimed", [("source", .text source)]⟩
  | .pollerStopped source => some ⟨.debug, "poller stopped", [("source", .text source)]⟩
  | .nothingFetched fault => some ⟨.debug, "fetch returned no event", [("error", .text fault.message)]⟩
  | .fetchFailed _ source fault failures delay =>
    some ⟨.warn, "fetch failed",
      [("source", .text source), ("error", .text fault.message), ("failures", .number failures),
       ("delay_ms", .number (loggedMillis delay))]⟩
  | .eventsSkipped event index count =>
    some ⟨.warn, "source skipped events",
      [("event", .text event), ("index", .number index), ("skipped", .number count)]⟩
  | .unclaimed event index =>
    some ⟨.trace, "no subscribers for event", [("event", .text event), ("index", .number index)]⟩
  | .dropped party delivery =>
    some ⟨.warn, "queue full, event dropped",
      [("subscriber", .text party.name), ("event", .text delivery.event.name)]⟩
  | .discarded party deliveries _ =>
    some ⟨.debug, "pending events discarded",
      [("subscriber", .text party.name), ("discarded", .number deliveries.length)]⟩
  | .written event =>
    some ⟨.info, "event",
      [("name", .text event.name), ("index", .text (Text.optional (event.index.map toString))),
       ("payload_len", .number (event.payload.getD []).length)]⟩
  | .handlerPanicked party delivery message =>
    some ⟨.error, "handler panicked",
      [("subscriber", .text party.name), ("event", .text delivery.event.name), ("panic", .text message)]⟩
  | _ => none

/-- The notice that a fact gives rise to. -/
def notice? : Occurrence → Option NoticeBody
  | .pollerStarted .. => some { kind := .pollerStarted }
  | .pollerInterrupted _ => some { kind := .pollerInterrupted }
  | .pollerStopped _ => some { kind := .pollerStopped }
  | .fetchFailed _ _ fault failures _ =>
    some { kind := .fetchFailed, reason := some fault.label, count := some failures }
  | .eventsSkipped event _ count => some { kind := .eventsSkipped, event := some event, count := some count }
  | .fired event targets =>
    some { kind := .eventFired, event := some event.name, count := some targets.length }
  | .dropped party delivery =>
    some
      { kind := .eventDropped
        event := some delivery.event.name
        subscriber := some party.name
        reason := some "queue full" }
  | .discarded party deliveries (.unregistered name) =>
    some
      { kind := .queueDiscarded
        event := some name
        subscriber := some party.name
        count := some deliveries.length }
  | .handlerPanicked party delivery message =>
    some
      { kind := .handlerPanicked
        event := some delivery.event.name
        subscriber := some party.name
        reason := some message }
  | _ => none

end Occurrence

end EventRelay
