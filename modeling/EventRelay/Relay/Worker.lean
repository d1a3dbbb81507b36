import EventRelay.Relay.Perform
import EventRelay.Relay.Poller

namespace EventRelay

namespace Relay

variable {σ : Type} [EventSource σ]

/-- Carries out the requests that the handler makes on being given an event. -/
def react (r : Relay σ) (sub : SubId) (commands : List Command) : Relay σ :=
  commands.foldl (fun r c =>
    let (reply, r) := r.perform c
    r.note (.reacted (r.party sub) c reply)) r

/-- The handler has returned, or panicked with a message. -/
def leaveHandler (r : Relay σ) (id : TaskId) (sub : SubId) (d : Delivery) (panic : Option String) :
    Turn × Relay σ :=
  let r := match panic with
    | none => (r.updateSubscriber sub Subscriber.countDelivered).note (.completed (r.party sub) d)
    | some message =>
      (r.updateSubscriber sub Subscriber.countPanicked).note (.handlerPanicked (r.party sub) d message)
  (.going, r.setWork id (.worker sub .idle))

/-- Inside the handler, at the point where it may wait for a permit. -/
def passGate (r : Relay σ) (id : TaskId) (sub : SubId) (d : Delivery) (conduct : Conduct) : Turn × Relay σ :=
  if !conduct.waits then r.leaveHandler id sub d conduct.late
  else if ((r.subscribers.get? sub).map Subscriber.permits).getD 0 = 0 then
    (.blocked, r.setWork id (.worker sub (.inside d)))
  else
    (r.updateSubscriber sub (fun s => { s with permits := s.permits - 1 })).leaveHandler id sub d conduct.late

/-- Gives an event to the handler. -/
def enterHandler (r : Relay σ) (id : TaskId) (sub : SubId) (s : Subscriber) (d : Delivery) :
    Turn × Relay σ :=
  let r := r.note (.entered (r.party sub) d)
  let r := (r.updateSubscriber sub (·.spend d.event.name)).react sub (s.due d.event.name)
  let r := if s.handler.writesLog then r.note (.written d.event) else r
  let conduct := s.handler.conduct d.event
  match conduct.early with
  | some message => r.leaveHandler id sub d (some message)
  | none => r.passGate id sub d conduct

/-- A worker that finds the queue empty ends, and says so to the subscriber in the same go. -/
def workerTurn (r : Relay σ) (id : TaskId) (sub : SubId) (stage : WorkerStage) : Turn × Relay σ :=
  match r.subscribers.get? sub with
  | none => r.finish id .finished
  | some s =>
    match stage with
    | .inside d => r.passGate id sub d (s.handler.conduct d.event)
    | .idle =>
      match s.pending with
      | [] => (r.updateSubscriber sub (fun s => { s with worker := none })).finish id .finished
      | d :: rest => (r.updateSubscriber sub (fun s => { s with pending := rest })).enterHandler id sub s d

end Relay

end EventRelay
