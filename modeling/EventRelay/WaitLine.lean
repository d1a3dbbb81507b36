import EventRelay.Cursor

namespace EventRelay

/-- Identifies one waiting fetch. -/
abbrev Ticket := Nat

/-- A waiting fetch. `woken`: something arrived since it last looked. `interrupted`: an interrupt was handed to
it. -/
structure Waiter where
  ticket : Ticket
  cursor : Cursor
  woken : Bool
  interrupted : Bool
deriving DecidableEq

/-- The waiters stand in line, the longest-waiting first. An arrival wakes all of them; an interrupt is handed to one, or
kept as `permit` for the next. `issued` counts the tickets given out. -/
structure WaitLine where
  issued : Nat
  permit : Bool
  waiters : List Waiter
deriving DecidableEq

namespace WaitLine

def empty : WaitLine := ⟨0, false, []⟩

def find? (l : WaitLine) (t : Ticket) : Option Waiter := l.waiters.find? (fun w => w.ticket == t)

/-- Hands an interrupt to the first waiter that has none. -/
def hand? : List Waiter → Option (List Waiter)
  | [] => none
  | w :: rest =>
    if w.interrupted then (hand? rest).map (w :: ·) else some ({ w with interrupted := true } :: rest)

def interrupt (l : WaitLine) : WaitLine :=
  match hand? l.waiters with
  | some waiters => { l with waiters }
  | none => { l with permit := true }

/-- Tells every waiter that something arrived. -/
def wake (l : WaitLine) : WaitLine :=
  { l with waiters := l.waiters.map (fun w => { w with woken := true }) }

def remove (l : WaitLine) (t : Ticket) : WaitLine :=
  { l with waiters := l.waiters.filter (fun w => w.ticket != t) }

/-- Leaves the line. An interrupt that was handed over but not used goes on to the next. -/
def leave (l : WaitLine) (t : Ticket) : WaitLine :=
  if (l.find? t).any Waiter.interrupted then (l.remove t).interrupt else l.remove t

/-- Waits at the back of the line. -/
def join (l : WaitLine) (t : Ticket) (cursor : Cursor) : WaitLine :=
  { l with waiters := l.waiters ++ [⟨t, cursor, false, false⟩] }

/-- Something happened that ends the wait. -/
def isAwake (l : WaitLine) (t : Ticket) : Bool :=
  (l.find? t).any (fun w => w.woken || w.interrupted)

end WaitLine

end EventRelay
