import EventRelay.Source
import EventRelay.Subscriber

namespace EventRelay

/-- Identifies one stop flag. -/
abbrev TokenId := Nat

/-- Where a poller is: about to look at the controller, waiting for a fetch, or pausing after a failure. The
token is the one it read before the fetch. -/
inductive PollerStage
  | ready
  | fetching (token : TokenId) (ticket : Ticket)
  | pausing (token : TokenId) (deadline : Nat)
deriving DecidableEq

/-- Where a worker is: about to take an event, or waiting for a permit inside the handler. -/
inductive WorkerStage
  | idle
  | inside (delivery : Delivery)
deriving DecidableEq

inductive Work
  | poller (failures : Nat) (stage : PollerStage)
  | worker (sub : SubId) (stage : WorkerStage)
  | firing (event : Event) (targets : List SubId)
deriving DecidableEq

inductive Ending
  | finished
  | panicked
deriving DecidableEq

structure Task where
  name : String
  work : Work
  ending : Option Ending
deriving DecidableEq

def Task.hasEnded (t : Task) : Bool := t.ending.isSome

/-- The poller that the controller knows of, and the flag by which it asks it to stop. -/
structure PollerSlot where
  task : TaskId
  token : TokenId
deriving DecidableEq

end EventRelay
