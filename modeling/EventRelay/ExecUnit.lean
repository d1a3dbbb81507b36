import EventRelay.Fault

namespace EventRelay

/-- What a started task does before it ends. -/
inductive TaskPlan
  | finish
  | waitThenFinish
  | panic (message : String)
deriving DecidableEq

/-- How far a task has come. -/
inductive TaskState
  | running (plan : TaskPlan)
  | finished
  | panicked (message : String)
deriving DecidableEq

/-- Where the handle of the task is: inside the unit, with a join that waits, or no longer anywhere. -/
inductive HandlePlace
  | nowhere
  | inside
  | joining (key : String)
deriving DecidableEq

/-- A unit of execution is started once. Whoever joins it takes the handle of its task away and waits with it; nobody
else can wait then. -/
structure ExecUnit where
  name : String
  task : Option TaskState
  handle : HandlePlace
  joined : Bool
  permits : Nat
  runs : Nat
deriving DecidableEq

namespace TaskState

def hasEnded : TaskState → Bool
  | .running _ => false
  | .finished => true
  | .panicked _ => true

end TaskState

/-- The answer to a join. -/
inductive JoinReply
  | pending
  | joined
  | noJoin
deriving DecidableEq

namespace ExecUnit

def create (name : String) : ExecUnit := ⟨name, none, .nowhere, false, 0, 0⟩

def isStarted (u : ExecUnit) : Bool := u.task.isSome

def taskEnded (u : ExecUnit) : Bool := u.task.any TaskState.hasEnded

/-- The unit knows of the end of its task by the handle inside it, or by a join that ended. -/
def isFinished (u : ExecUnit) : Bool := u.joined || (u.handle == .inside && u.taskEnded)

/-- A second start leaves the running task untouched. -/
def start (u : ExecUnit) (plan : TaskPlan) : Except UnitFault ExecUnit :=
  if u.isStarted then .error (.alreadyStarted u.name)
  else .ok { u with task := some (.running plan), handle := .inside }

def release (u : ExecUnit) : ExecUnit := { u with permits := u.permits + 1 }

/-- Lets the task go on until it waits or ends. -/
def run (u : ExecUnit) : ExecUnit :=
  match u.task with
  | some (.running .finish) => { u with task := some .finished, runs := u.runs + 1 }
  | some (.running .waitThenFinish) =>
    if u.permits = 0 then u
    else { u with task := some .finished, runs := u.runs + 1, permits := u.permits - 1 }
  | some (.running (.panic message)) => { u with task := some (.panicked message) }
  | _ => u

/-- A waiting join looks at its task again. -/
def pollJoin (u : ExecUnit) (key : String) : JoinReply × ExecUnit :=
  if u.handle = .joining key then
    if u.taskEnded then (.joined, { u with handle := .nowhere, joined := true }) else (.pending, u)
  else (.noJoin, u)

/-- A join that is dropped while it waits takes the handle with it. -/
def cancelJoin (u : ExecUnit) (key : String) : Bool × ExecUnit :=
  if u.handle = .joining key then (true, { u with handle := .nowhere }) else (false, u)

/-- Joins under `key`, in place of an earlier join of that key. Without a handle to take it ends at once. -/
def join (u : ExecUnit) (key : String) : JoinReply × ExecUnit :=
  let u := (u.cancelJoin key).2
  if u.handle = .inside then { u with handle := .joining key }.pollJoin key else (.joined, u)

def inspect (u : ExecUnit) : String :=
  Text.record "RealtimeThread"
    [("name", Text.quote u.name), ("started", if u.isStarted then "true" else "false")]

end ExecUnit

end EventRelay
