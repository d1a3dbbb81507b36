import EventRelay.Fault
import EventRelay.Event
import EventRelay.WaitLine

namespace EventRelay

/-- An event of a source, with its index there. -/
structure Fetched where
  index : Nat
  event : Event
deriving DecidableEq

/-- How a fetch ends. -/
inductive FetchResult
  | fetched (f : Fetched)
  | failed (e : FetchFault)
  | panicked (message : String)
deriving DecidableEq

/-- What a fetch says when it is looked after: it has ended, or it waits. -/
inductive FetchReply
  | ready (r : FetchResult)
  | pending (ticket : Ticket)
deriving DecidableEq

/-- A supplier of events. -/
class EventSource (σ : Type) where
  name : σ → String
  /-- Begins a fetch. -/
  fetch : σ → Cursor → FetchReply × σ
  /-- Looks after a waiting fetch again. If both an arrival and an interrupt ended the wait, the flag says
  whether the arrival comes first. -/
  resume : σ → Ticket → Bool → FetchReply × σ
  /-- The wait of a fetch is over. -/
  isAwake : σ → Ticket → Bool
  cancel : σ → Ticket → σ
  interrupt : σ → σ
  /-- Takes in an event, stamped with the time of its arrival, and gives it an index. -/
  post : σ → Instant → Event → Except SourceFault (Nat × σ)
  /-- Closes the source; one that cannot be closed stays as it is. -/
  close : σ → σ
  /-- Adds fetch results to those prepared; a source that prepares none stays as it is. -/
  push : σ → List FetchResult → σ
  /-- A bound on the fetches that can end one after another before one waits. -/
  backlog : σ → Nat

end EventRelay
