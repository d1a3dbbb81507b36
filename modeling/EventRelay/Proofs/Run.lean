import EventRelay.Session.Handler
import EventRelay.Session.Relay
import EventRelay.Source.Script

namespace EventRelay

/-- One thing that happens to a relay. The last three are what observers of the notices do. -/
inductive Move
  | request (c : Command)
  | turn (task : TaskId)
  | sleep (d : Duration)
  | cloneHandle
  | dropHandle
  | subscribe (key : String)
  | receive (key : String)
  | unsubscribe (key : String)

namespace Relay

variable {σ : Type}

/-- A relay over `source` to which nothing has happened yet. Its subscribers are there, but nobody is registered. -/
def Created (source : σ) (r : Relay σ) : Prop :=
  ∃ settings surroundings, ∃ handlers : List (Handler × List Reaction),
    create? settings source (handlers.map fun h => Subscriber.create h.1 h.2) surroundings = some r

theorem Created.no_task {source : σ} {r : Relay σ} (h : Created source r) (id : TaskId) : r.tasks.get? id = none := by
  obtain ⟨_, _, _, h⟩ := h
  obtain ⟨_, -, rfl⟩ := Option.map_eq_some_iff.mp h
  exact List.getElem?_nil

/-- A relay with the standard settings, and one subscriber whose handler just returns. Its clock tells the number of
the reading. -/
def plain (source : σ) : Relay σ :=
  { settings := .standard, source, surroundings := RelaySession.counting, handles := 1, registry := .empty,
    slot := none, cursor := .unset, subscribers := .ofList [.create ⟨"plain", none, .plain, false⟩ []],
    tasks := .empty, tokens := 0, cancelled := [], bus := ⟨Nat.nextPowerOfTwo 1024, 0, [], [], 1, 0⟩, now := 0,
    readings := 0, draws := 0, choices := 0, past := [] }

theorem plain_created (source : σ) : Created source (plain source) :=
  ⟨.standard, RelaySession.counting, [(⟨"plain", none, .plain, false⟩, [])], by
    simp [create?, plain, Settings.busRoom, Settings.standard, Bus.create?, Bus.maxCapacity]⟩

/-- A worker has taken an event from the head of a queue, and the handler is about to make its first request. -/
def beginHandling (r : Relay σ) (sub : SubId) (d : Delivery) (rest : List Delivery) : Relay σ :=
  let r := r.updateSubscriber sub (fun s => { s with pending := rest })
  (r.note (.entered (r.party sub) d)).updateSubscriber sub (·.spend d.event.name)

/-- An unfinished worker is at `id`. -/
def WorkerAt (r : Relay σ) (id : TaskId) (sub : SubId) (stage : WorkerStage) : Prop :=
  ∃ name, r.tasks.get? id = some ⟨name, .worker sub stage, none⟩

/-- An unfinished poller is at `id`. -/
def PollerAt (r : Relay σ) (id : TaskId) (failures : Nat) (stage : PollerStage) : Prop :=
  ∃ name, r.tasks.get? id = some ⟨name, .poller failures stage, none⟩

/-- An unfinished task at `id` hands an event to those it was fired for. -/
def FiringAt (r : Relay σ) (id : TaskId) (event : Event) (targets : List SubId) : Prop :=
  ∃ name, r.tasks.get? id = some ⟨name, .firing event targets, none⟩

variable [EventSource σ]

/-- Lets a task take one step, unless there is no such task or it has ended. -/
def advance (r : Relay σ) (id : TaskId) : Relay σ :=
  match r.tasks.get? id with
  | none => r
  | some t => if t.hasEnded then r else (r.turn id t.work).2

def move (r : Relay σ) : Move → Relay σ
  | .request c => (r.perform c).2
  | .turn task => r.advance task
  | .sleep d => r.sleep d
  | .cloneHandle => r.cloneHandle
  | .dropHandle => r.dropHandle
  | .subscribe key => RelaySession.withBus r (r.bus.subscribe key)
  | .receive key => RelaySession.withBus r (r.bus.receive key).2
  | .unsubscribe key => RelaySession.withBus r (r.bus.unsubscribe key)

def follow (r : Relay σ) (moves : List Move) : Relay σ := moves.foldl move r

theorem follow_append (r : Relay σ) (before after : List Move) :
    r.follow (before ++ after) = (r.follow before).follow after :=
  List.foldl_append

theorem follow_concat (r : Relay σ) (moves : List Move) (m : Move) :
    r.follow (moves ++ [m]) = (r.follow moves).move m := by
  simp [follow]

/-- The states that a relay over `source` can come to. -/
def Reachable (source : σ) (r : Relay σ) : Prop :=
  ∃ start moves, Created source start ∧ r = start.follow moves

theorem Reachable.created {source : σ} {r : Relay σ} (h : Created source r) : Reachable source r :=
  ⟨r, [], h, rfl⟩

theorem Reachable.follow {source : σ} {r : Relay σ} (h : Reachable source r) (moves : List Move) :
    Reachable source (r.follow moves) := by
  obtain ⟨start, before, hs, rfl⟩ := h
  exact ⟨start, before ++ moves, hs, (follow_append start before moves).symm⟩

theorem follow_keeps {P : Relay σ → Prop} (hmove : ∀ r m, P r → P (r.move m)) {r : Relay σ} (h : P r)
    (moves : List Move) : P (r.follow moves) := by
  induction moves generalizing r with
  | nil => exact h
  | cons m rest ih => exact ih (hmove r m h)

/-- What holds at the start and is kept by every move holds in every state. -/
theorem Reachable.keeps {source : σ} {P : Relay σ → Prop} (hstart : ∀ r, Created source r → P r)
    (hmove : ∀ r m, P r → P (r.move m)) {r : Relay σ} (h : Reachable source r) : P r := by
  obtain ⟨start, moves, hs, rfl⟩ := h
  exact follow_keeps hmove (hstart start hs) moves

/-- The states in which somebody can look at a relay: between two moves, and inside a handler that has made some
of the requests that are due. -/
inductive Seen (source : σ) : Relay σ → Prop
  | between {r : Relay σ} (h : Reachable source r) : Seen source r
  | inside {r : Relay σ} {id : TaskId} {sub : SubId} {s : Subscriber} {d : Delivery} {rest : List Delivery}
      (h : Reachable source r) (worker : r.WorkerAt id sub .idle) (found : r.subscribers.get? sub = some s)
      (head : s.pending = d :: rest) (made : Nat) :
      Seen source ((r.beginHandling sub d rest).react sub ((s.due d.event.name).take made))

end Relay

end EventRelay
