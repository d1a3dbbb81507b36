import EventRelay.Source.Ring

namespace EventRelay

/-- A ring, and the fetches that wait at it, each under its key. -/
structure RingSession where
  ring : EventRing
  pending : List (String × Ticket)

inductive RingStep
  | post (now : Instant) (event : Event)
  | fetch (key : String) (cursor : Cursor)
  | poll (key : String) (arrivalFirst : Bool)
  | cancel (key : String)
  | interrupt
  | close
  | config
  | name

inductive RingAnswer
  | posted (result : Except SourceFault Nat)
  | pending
  | ended (result : FetchResult)
  | noFetch
  | flag (b : Bool)
  | nothing
  | config (c : RingSize)
  | name (s : String)

namespace RingSession

def create? (config : RingSize) : Option RingSession := (EventRing.create? config).map (⟨·, []⟩)

def ticket? (s : RingSession) (key : String) : Option Ticket :=
  (s.pending.find? (fun p => p.1 == key)).map Prod.snd

def forget (s : RingSession) (key : String) : RingSession :=
  { s with pending := s.pending.filter (fun p => p.1 != key) }

/-- Drops the fetch of a key, if there is one. -/
def cancel (s : RingSession) (key : String) : RingSession :=
  match s.ticket? key with
  | none => s
  | some t => { s.forget key with ring := s.ring.cancel t }

/-- Keeps a fetch that waits, and forgets one that has ended. -/
def keep (s : RingSession) (key : String) : FetchReply × EventRing → RingAnswer × RingSession
  | (.ready result, ring) => (.ended result, { s.forget key with ring })
  | (.pending t, ring) => (.pending, ⟨ring, (s.forget key).pending ++ [(key, t)]⟩)

def step (s : RingSession) : RingStep → RingAnswer × RingSession
  | .post now event =>
    match s.ring.post now event with
    | .error cause => (.posted (.error cause), s)
    | .ok (index, ring) => (.posted (.ok index), { s with ring })
  | .fetch key cursor =>
    let s := s.cancel key
    s.keep key (s.ring.fetch cursor)
  | .poll key arrivalFirst =>
    match s.ticket? key with
    | none => (.noFetch, s)
    | some t => s.keep key (s.ring.resume t arrivalFirst)
  | .cancel key => (.flag (s.ticket? key).isSome, s.cancel key)
  | .interrupt => (.nothing, { s with ring := s.ring.interrupt })
  | .close => (.nothing, { s with ring := s.ring.close })
  | .config => (.config s.ring.config, s)
  | .name => (.name (EventSource.name s.ring), s)

end RingSession

end EventRelay
