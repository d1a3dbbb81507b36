import EventRelay.Settings
import EventRelay.Registry
import EventRelay.Source

namespace EventRelay

/-- A call on the controller. -/
inductive Call
  | add (name : String) (sub : SubId)
  | remove (name : String) (sub : SubId)
  | removeName (name : String)
  | fire (event : Event)
  | post (event : Event)
  | shutdown
  | count (name : String)
  | settings
  | sourceName
deriving DecidableEq

/-- The event name that a call gives and that must not be empty. -/
def Call.eventName? : Call → Option String
  | .add name _ => some name
  | .remove name _ => some name
  | .removeName name => some name
  | .fire event => some event.name
  | .post event => some event.name
  | _ => none

/-- A request to the controller, to the source, or to a subscriber. -/
inductive Command
  | call (c : Call)
  | postToSource (event : Event)
  | interruptSource
  | closeSource
  | pushToSource (items : List FetchResult)
  | grant (sub : SubId) (permits : Nat)
  | inspect (sub : SubId)
  | describe (sub : SubId)
deriving DecidableEq

/-- What a subscriber says of itself and of its handler. -/
structure Profile where
  name : String
  capacity : Option Nat
  handlerName : String
  handlerCapacity : Option Nat
deriving DecidableEq

inductive Reply
  | nothing
  | added
  | flag (b : Bool)
  | number (n : Nat)
  | text (s : String)
  | settings (s : Settings)
  | profile (p : Profile)
  | refused (cause : CallFault)
  | rejected (cause : SourceFault)
  | noController
  | noSubscriber
deriving DecidableEq

end EventRelay
