import EventRelay.Relay.Worker

namespace EventRelay

namespace Relay

variable {σ : Type} [EventSource σ]

/-- The task has not begun, or what it waits for has happened. -/
def isRunnable (r : Relay σ) (t : Task) : Bool :=
  !t.hasEnded && match t.work with
    | .poller _ .ready => true
    | .poller _ (.fetching token ticket) => r.isCancelled token || EventSource.isAwake r.source ticket
    | .poller _ (.pausing token deadline) => r.isCancelled token || decide (deadline ≤ r.now)
    | .worker _ .idle => true
    | .worker sub (.inside _) => ((r.subscribers.get? sub).map Subscriber.permits).getD 0 != 0
    | .firing .. => true

/-- One step of a task. -/
def turn (r : Relay σ) (id : TaskId) : Work → Turn × Relay σ
  | .poller failures stage => r.pollerTurn id failures stage
  | .worker sub stage => r.workerTurn id sub stage
  | .firing event targets => (r.dispatch targets ⟨event, id⟩).finish id .finished

/-- How a poll leaves a task. `none`: there is no such task. `ended`: it had ended before. -/
inductive PollReply
  | blocked
  | finished
  | panicked
  | ended
  | none
deriving DecidableEq

/-- Takes the steps of a task until it waits or ends, at most `fuel` of them. -/
def pollUpTo (r : Relay σ) (id : TaskId) : Nat → PollReply × Relay σ
  | 0 => (.blocked, r)
  | fuel + 1 =>
    match r.tasks.get? id with
    | none => (.none, r)
    | some t =>
      match r.turn id t.work with
      | (.going, r) => r.pollUpTo id fuel
      | (.blocked, r) => (.blocked, r)
      | (.ended .finished, r) => (.finished, r)
      | (.ended .panicked, r) => (.panicked, r)

/-- A task takes no more steps than this before it waits: a poller two for each fetch that the source can end
at once, a worker one for each pending event. A source that fails at once for ever, with no pause between, is
left after that many steps. -/
def turnBound (r : Relay σ) : Work → Nat
  | .poller .. => 2 * EventSource.backlog r.source + 4
  | .worker sub _ => ((r.subscribers.get? sub).map (fun s => s.pending.length)).getD 0 + 2
  | .firing .. => 1

def poll (r : Relay σ) (id : TaskId) : PollReply × Relay σ :=
  match r.tasks.get? id with
  | none => (.none, r)
  | some t => if t.hasEnded then (.ended, r) else r.pollUpTo id (r.turnBound t.work)

/-- The runnable task with the lowest number. -/
def nextRunnable? (r : Relay σ) : Option TaskId := r.tasks.rows.findIdx? r.isRunnable

def runUpTo (r : Relay σ) : Nat → Relay σ
  | 0 => r
  | fuel + 1 =>
    match r.nextRunnable? with
    | none => r
    | some id => (r.poll id).2.runUpTo fuel

/-- A run stops after this many polls, if it has not come to rest before. -/
def pollLimit : Nat := Nat.pow 2 60

def run (r : Relay σ) : Relay σ := r.runUpTo pollLimit

def sleep (r : Relay σ) (d : Duration) : Relay σ := { r with now := r.now + d.nanos }

end Relay

end EventRelay
