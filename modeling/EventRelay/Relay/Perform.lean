import EventRelay.Relay.Control

namespace EventRelay

namespace Relay

variable {σ : Type} [EventSource σ]

def emptyName : CallFault := .invalidArgument "empty event name"

def hasSubscriber (r : Relay σ) (sub : SubId) : Bool := (r.subscribers.get? sub).isSome

/-- Carries out a call that names no event, or one with a name that is not empty. Only a subscriber that exists
can be added. -/
def carryOut (r : Relay σ) : Call → Reply × Relay σ
  | .add name sub =>
    if r.hasSubscriber sub then (.added, r.addSubscriber name sub) else (.noSubscriber, r)
  | .remove name sub =>
    let (removed, r) := r.removeSubscriber name sub
    (.flag removed, r)
  | .removeName name =>
    let (count, r) := r.removeSubscribers name
    (.number count, r)
  | .fire event =>
    let (count, r) := r.fireEvent event
    (.number count, r)
  | .post event =>
    match r.postToSource event with
    | .error cause => (.refused (.source cause), r)
    | .ok (index, r) => (.number index, r)
  | .shutdown =>
    let (count, r) := r.shutdown
    (.number count, r)
  | .count name => (.number (r.registry.count name), r)
  | .settings => (.settings r.settings, r)
  | .sourceName => (.text r.sourceName, r)

/-- A call needs a handle of the controller, and is checked before anything is done. -/
def call (r : Relay σ) (c : Call) : Reply × Relay σ :=
  if !r.hasController then (.noController, r)
  else if c.eventName?.any String.isEmpty then (.refused emptyName, r)
  else r.carryOut c

def perform (r : Relay σ) : Command → Reply × Relay σ
  | .call c => r.call c
  | .postToSource event =>
    match r.postToSource event with
    | .error cause => (.rejected cause, r)
    | .ok (index, r) => (.number index, r)
  | .interruptSource => (.nothing, r.interruptSource .client)
  | .closeSource => (.nothing, { r with source := EventSource.close r.source })
  | .pushToSource items => (.nothing, { r with source := EventSource.push r.source items })
  | .grant sub permits => (.nothing, r.updateSubscriber sub (fun s => { s with permits := s.permits + permits }))
  | .inspect sub => (((r.subscribers.get? sub).map (fun s => Reply.text s.inspect)).getD .noSubscriber, r)
  | .describe sub => (((r.subscribers.get? sub).map (fun s => Reply.profile s.profile)).getD .noSubscriber, r)

end Relay

end EventRelay
