namespace EventRelay

/-- A reading of the steady clock, in nanoseconds after some origin. -/
abbrev Instant := Nat

/-- Only events stamped at or after `since`, and with an index above `last`, are past the cursor. -/
structure Cursor where
  since : Option Instant
  last : Option Nat
deriving DecidableEq

namespace Cursor

def unset : Cursor := ⟨none, none⟩

def isUnset (c : Cursor) : Bool := c.since.isNone && c.last.isNone

/-- The first stamp stays until the cursor is reset. -/
def stamp (c : Cursor) (now : Instant) : Cursor := { c with since := some (c.since.getD now) }

/-- How many indices lie between the last one and `index`. -/
def skipped (c : Cursor) (index : Nat) : Nat :=
  match c.last with
  | some last => index - last - 1
  | none => 0

def moveTo (c : Cursor) (index : Nat) : Cursor := { c with last := some index }

/-- An event stamped at `time` under `index` is past the cursor. -/
def precedes (c : Cursor) (time : Instant) (index : Nat) : Bool :=
  c.since.all (fun since => decide (since ≤ time)) && c.last.all (fun last => decide (last < index))

end Cursor

end EventRelay
