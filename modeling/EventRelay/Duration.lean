namespace EventRelay

/-- A span of time. -/
structure Duration where
  nanos : Nat
deriving DecidableEq

namespace Duration

def nanosPerSecond : Nat := 1000000000

def nanosPerMilli : Nat := 1000000

def ofParts (seconds subsecond : Nat) : Duration := ⟨seconds * nanosPerSecond + subsecond⟩

def ofMillis (millis : Nat) : Duration := ⟨millis * nanosPerMilli⟩

/-- The whole seconds of a span. -/
def seconds (d : Duration) : Nat := d.nanos / nanosPerSecond

/-- What is left of a span after its whole seconds, in nanoseconds. -/
def subsecond (d : Duration) : Nat := d.nanos % nanosPerSecond

/-- The whole milliseconds of a span. -/
def millis (d : Duration) : Nat := d.nanos / nanosPerMilli

instance : LE Duration := ⟨fun a b => a.nanos ≤ b.nanos⟩

instance (a b : Duration) : Decidable (a ≤ b) := inferInstanceAs (Decidable (a.nanos ≤ b.nanos))

end Duration

end EventRelay
