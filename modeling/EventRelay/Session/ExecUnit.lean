import EventRelay.ExecUnit

namespace EventRelay

inductive UnitStep
  | start (plan : TaskPlan)
  | release
  | run
  | join (key : String)
  | poll (key : String)
  | cancel (key : String)
  | inspect
  | name

inductive UnitAnswer
  | started
  | refused (cause : UnitFault)
  | nothing
  | join (r : JoinReply)
  | flag (b : Bool)
  | text (s : String)

namespace ExecUnit

def step (u : ExecUnit) : UnitStep → UnitAnswer × ExecUnit
  | .start plan =>
    match u.start plan with
    | .error cause => (.refused cause, u)
    | .ok u => (.started, u)
  | .release => (.nothing, u.release)
  | .run => (.nothing, u.run)
  | .join key =>
    let (reply, u) := u.join key
    (.join reply, u)
  | .poll key =>
    let (reply, u) := u.pollJoin key
    (.join reply, u)
  | .cancel key =>
    let (found, u) := u.cancelJoin key
    (.flag found, u)
  | .inspect => (.text u.inspect, u)
  | .name => (.text u.name, u)

end ExecUnit

end EventRelay
