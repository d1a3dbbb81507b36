import EventRelay.Duration
import EventRelay.Text.Quoted

namespace EventRelay

/-- A named event. An index is given by the source; an event without one was fired directly. -/
structure Event where
  name : String
  time : Option Duration
  index : Option Nat
  payload : Option (List UInt8)
deriving DecidableEq

namespace Event

/-- An event as it is created: unstamped, with no index and no payload. -/
def named (name : String) : Event := ⟨name, none, none, none⟩

def carrying (e : Event) (payload : List UInt8) : Event := { e with payload := some payload }

def indexed (e : Event) (index : Nat) : Event := { e with index := some index }

/-- Stamps the event with a time since the epoch. -/
def stamped (e : Event) (time : Duration) : Event := { e with time := some time }

def isFired (e : Event) : Bool := e.index.isNone

/-- The bytes of a payload are not shown, only their number. -/
def inspect (e : Event) : String :=
  Text.record "Event"
    [("name", Text.quote e.name),
     ("index", Text.optional (e.index.map toString)),
     ("payload_len", Text.optional (e.payload.map (fun p => toString p.length)))]

end Event

end EventRelay
