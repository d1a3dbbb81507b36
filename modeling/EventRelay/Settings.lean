import EventRelay.Pause

namespace EventRelay

structure Settings where
  busCapacity : Nat
  backoff : Backoff
  pollerName : String
deriving DecidableEq

namespace Settings

def standard : Settings := ⟨1024, .standard, "rtevent-poller"⟩

/-- A bus holds at least one notice. -/
def busRoom (c : Settings) : Nat := max c.busCapacity 1

end Settings

end EventRelay
