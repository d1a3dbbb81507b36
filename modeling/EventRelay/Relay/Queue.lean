import EventRelay.Relay.Basic

namespace EventRelay

namespace Relay

variable {σ : Type}

def workerName (name : String) : String := "rtevent-sub-" ++ name

/-- Starts a worker for a queue that nobody serves. -/
def startWorker (r : Relay σ) (sub : SubId) (s : Subscriber) : Relay σ :=
  if s.isServed then r
  else
    let (task, r) := r.spawn (workerName s.name) (.worker sub .idle)
    r.updateSubscriber sub (fun s => { s with worker := some task })

/-- Puts an event at the end of a queue, or drops it if the queue is full. -/
def handTo (r : Relay σ) (sub : SubId) (d : Delivery) : Relay σ :=
  match r.subscribers.get? sub with
  | none => r
  | some s =>
    if s.isFull then (r.updateSubscriber sub Subscriber.countDropped).note (.dropped (r.party sub) d)
    else ((r.updateSubscriber sub (·.append d)).note (.queued (r.party sub) d)).startWorker sub s

/-- Puts an event into the queue of each target in turn. -/
def dispatch (r : Relay σ) (targets : List SubId) (d : Delivery) : Relay σ :=
  targets.foldl (fun r sub => r.handTo sub d) r

/-- Discards everything pending of a subscriber. -/
def discardPending (r : Relay σ) (reason : DiscardReason) (sub : SubId) : Relay σ :=
  match r.subscribers.get? sub with
  | none => r
  | some s =>
    if s.pending.isEmpty then r
    else (r.updateSubscriber sub Subscriber.discard).note (.discarded (r.party sub) s.pending reason)

def discardAll (r : Relay σ) (reason : DiscardReason) (subs : List SubId) : Relay σ :=
  subs.foldl (fun r sub => r.discardPending reason sub) r

end Relay

end EventRelay
