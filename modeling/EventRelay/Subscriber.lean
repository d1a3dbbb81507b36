import EventRelay.Command

namespace EventRelay

/-- Identifies one task. -/
abbrev TaskId := Nat

/-- How a handler behaves on an event: it may panic at once, wait for a permit, and panic after the wait. -/
structure Conduct where
  early : Option String
  waits : Bool
  late : Option String
deriving DecidableEq

/-- `writesLog`: the handler writes each event it is given to the log. -/
structure Handler where
  name : String
  capacity : Option Nat
  conduct : Event → Conduct
  writesLog : Bool

/-- A request that a handler makes when it is given an event named `on`, as long as uses are left. -/
structure Reaction where
  on : String
  command : Command
  left : Nat

/-- An event in a queue, and the task that put it there. -/
structure Delivery where
  event : Event
  carrier : TaskId
deriving DecidableEq

/-- What became of the events handed to a subscriber. -/
structure Tally where
  delivered : Nat
  panicked : Nat
  dropped : Nat
  discarded : Nat
deriving DecidableEq

/-- The worker is there exactly while somebody serves the queue. -/
structure Subscriber where
  handler : Handler
  reactions : List Reaction
  pending : List Delivery
  worker : Option TaskId
  permits : Nat
  tally : Tally

namespace Subscriber

def create (handler : Handler) (reactions : List Reaction) : Subscriber :=
  ⟨handler, reactions, [], none, 0, ⟨0, 0, 0, 0⟩⟩

def name (s : Subscriber) : String := s.handler.name

/-- A bounded queue holds at least one event. -/
def capacity (s : Subscriber) : Option Nat := s.handler.capacity.map (max 1)

def isFull (s : Subscriber) : Bool := s.capacity.any (fun c => decide (c ≤ s.pending.length))

def isServed (s : Subscriber) : Bool := s.worker.isSome

def append (s : Subscriber) (d : Delivery) : Subscriber := { s with pending := s.pending ++ [d] }

def countDropped (s : Subscriber) : Subscriber :=
  { s with tally := { s.tally with dropped := s.tally.dropped + 1 } }

def countDelivered (s : Subscriber) : Subscriber :=
  { s with tally := { s.tally with delivered := s.tally.delivered + 1 } }

def countPanicked (s : Subscriber) : Subscriber :=
  { s with tally := { s.tally with panicked := s.tally.panicked + 1 } }

/-- Empties the queue; an event inside the handler is not in it. -/
def discard (s : Subscriber) : Subscriber :=
  { s with
    pending := []
    tally := { s.tally with discarded := s.tally.discarded + s.pending.length } }

/-- The requests that the handler makes on an event of that name, in order. -/
def due (s : Subscriber) (name : String) : List Command :=
  (s.reactions.filter (fun x => x.on == name && x.left != 0)).map Reaction.command

/-- Uses up one use of each reaction to that name. -/
def spend (s : Subscriber) (name : String) : Subscriber :=
  { s with reactions := s.reactions.map (fun x => if x.on == name then { x with left := x.left - 1 } else x) }

def profile (s : Subscriber) : Profile := ⟨s.name, s.capacity, s.handler.name, s.handler.capacity⟩

def inspect (s : Subscriber) : String :=
  Text.record "Subscriber"
    [("name", Text.quote s.name),
     ("capacity", Text.optional (s.capacity.map toString)),
     ("pending", toString s.pending.length)]

end Subscriber

end EventRelay
