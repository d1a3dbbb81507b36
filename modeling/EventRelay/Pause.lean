import EventRelay.Binary64
import EventRelay.Duration

namespace EventRelay

/-- How a computed delay is varied. -/
inductive Jitter
  | none
  | full
  | equal
deriving DecidableEq

namespace Jitter

/-- Delays are counted in 64 bits of milliseconds before they are varied. -/
def maxMillis : Nat := Nat.pow 2 64 - 1

/-- The least and the greatest number of milliseconds that a delay of `ms` can become. -/
def bounds (j : Jitter) (ms : Nat) : Nat × Nat :=
  match j with
  | .none => (ms, ms)
  | .full => (0, ms)
  | .equal => (ms / 2, ms)

/-- Varies `delay` by a number drawn at random. A delay below one millisecond stays as it is. -/
def vary (j : Jitter) (delay : Duration) (draw : Nat) : Duration :=
  let ms := min delay.millis maxMillis
  if ms = 0 ∨ j = .none then delay
  else
    let (low, high) := j.bounds ms
    .ofMillis (low + draw % (high - low + 1))

/-- Every delay that `vary` can give, in ascending order. -/
def outcomes (j : Jitter) (delay : Duration) : List Duration :=
  let ms := min delay.millis maxMillis
  if ms = 0 ∨ j = .none then [delay]
  else
    let (low, high) := j.bounds ms
    (List.range (high - low + 1)).map (fun k => .ofMillis (low + k))

/-- The ends of `outcomes`. -/
def extremes (j : Jitter) (delay : Duration) : Duration × Duration :=
  let ms := min delay.millis maxMillis
  if ms = 0 ∨ j = .none then (delay, delay)
  else (.ofMillis (j.bounds ms).1, .ofMillis (j.bounds ms).2)

end Jitter

namespace Duration

/-- The seconds of a span, as a floating-point number. -/
def toBinary64 (d : Duration) : Binary64 :=
  (Binary64.ofNat d.seconds).add
    ((Binary64.ofNat d.subsecond).div (Binary64.ofNat nanosPerSecond))

/-- Spans stay below this many seconds. -/
def secondsLimit : Nat := Nat.pow 2 64

/-- The span of so many seconds, to the nearest nanosecond. There is none for an amount that is negative,
not finite or too great. -/
def ofBinary64? (seconds : Binary64) : Option Duration :=
  match seconds with
  | .finite negative m q =>
    if negative && m != 0 then none
    else if secondsLimit * Nat.pow 2 (-q).toNat ≤ m * Nat.pow 2 q.toNat then none
    else some ⟨roundHalfEven (m * nanosPerSecond * Nat.pow 2 q.toNat) (Nat.pow 2 (-q).toNat)⟩
  | _ => none

end Duration

/-- How long to wait between failed fetches: the first delay times a factor to the power of the failures before, capped
and then varied at random. -/
structure Backoff where
  first : Duration
  max : Duration
  factor : Binary64
  jitter : Jitter
deriving DecidableEq

namespace Backoff

def standard : Backoff := ⟨.ofMillis 10, .ofParts 1 0, .ofNat 2, .none⟩

/-- Powers are taken with at most this exponent. -/
def maxPower : Nat := Nat.pow 2 31 - 1

/-- The uncapped delay after `failures` failures, in seconds. -/
def growth (b : Backoff) (failures : Nat) : Binary64 :=
  b.first.toBinary64.mul (b.factor.pow (min failures maxPower))

/-- The delay before it is varied. There is none if the capped amount of seconds is no span. -/
def base? (b : Backoff) (failures : Nat) : Option Duration :=
  let seconds := b.growth failures
  if !seconds.isFinite || seconds.lt .zero || b.max.toBinary64.lt seconds then some b.max
  else Duration.ofBinary64? seconds

/-- The delay after `failures` failures, varied by a number drawn at random. -/
def delay? (b : Backoff) (failures draw : Nat) : Option Duration :=
  (b.base? failures).map (fun d => b.jitter.vary d draw)

end Backoff

end EventRelay
