import EventRelay.Notice.Bus

namespace EventRelay

inductive BusStep
  | publish (body : NoticeBody)
  | subscribe (key : String)
  | receive (key : String)
  | unsubscribe (key : String)
  | cloneHandle
  | dropHandle

inductive BusAnswer
  | seq (n : Nat)
  | subscribed
  | noBus
  | received (r : Received)
  | flag (b : Bool)
  | handles (n : Nat)

namespace Bus

def step (b : Bus) : BusStep → BusAnswer × Bus
  | .publish body => (if b.handles = 0 then .noBus else .seq b.numbered, b.publish body)
  | .subscribe key => if b.handles = 0 then (.noBus, b) else (.subscribed, b.subscribe key)
  | .receive key =>
    let (received, b) := b.receive key
    (.received received, b)
  | .unsubscribe key => (.flag (b.receiver? key).isSome, b.unsubscribe key)
  | .cloneHandle => (.handles b.cloneHandle.handles, b.cloneHandle)
  | .dropHandle => (.handles b.dropHandle.handles, b.dropHandle)

end Bus

end EventRelay
