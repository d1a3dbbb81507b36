import EventRelay.Source

namespace EventRelay

/-- A stored event. -/
structure Stored where
  time : Instant
  index : Nat
  event : Event
deriving DecidableEq

structure RingSize where
  capacity : Nat
  maxNameLength : Nat
deriving DecidableEq

namespace RingSize

def standard : RingSize := ⟨15, 15⟩

/-- More slots than this have no room in memory. -/
def maxCapacity : Nat := Nat.pow 2 56

def fits (size : RingSize) : Bool := decide (size.capacity ≤ maxCapacity)

end RingSize

/-- `slots` holds the slots used so far, at most `capacity` of them. The slot of an event is its index modulo their
number, so once all are used a new event takes the place of the oldest. -/
structure EventRing where
  capacity : Nat
  slots : List Stored
  next : Nat
  maxNameLength : Nat
  closed : Bool
  line : WaitLine
deriving DecidableEq

namespace EventRing

/-- There is at least one slot. -/
def create (config : RingSize) : EventRing :=
  ⟨max config.capacity 1, [], 0, config.maxNameLength, false, .empty⟩

/-- A ring whose slots have room in memory. -/
def create? (config : RingSize) : Option EventRing := if config.fits then some (create config) else none

def config (r : EventRing) : RingSize := ⟨r.capacity, r.maxNameLength⟩

def size (r : EventRing) : Nat := r.slots.length

def isEmpty (r : EventRing) : Bool := r.size == 0

/-- The stored event with the least index. -/
def earliest : List Stored → Option Stored
  | [] => none
  | s :: rest =>
    match earliest rest with
    | none => some s
    | some t => some (if t.index < s.index then t else s)

/-- The first stored event past the cursor, stamped with its index. -/
def find? (r : EventRing) (c : Cursor) : Option Fetched :=
  (earliest (r.slots.filter (fun s => c.precedes s.time s.index))).map
    (fun s => ⟨s.index, s.event.indexed s.index⟩)

/-- What a fetch finds without waiting. A closed ring still gives the events it holds. -/
def look? (r : EventRing) (c : Cursor) : Option FetchResult :=
  match r.find? c with
  | some f => some (.fetched f)
  | none => if r.closed then some (.failed .closed) else none

/-- Looks, and failing that takes a kept interrupt or waits at the back of the line. -/
def lookOrWait (r : EventRing) (t : Ticket) (c : Cursor) : FetchReply × EventRing :=
  match r.look? c with
  | some result => (.ready result, r)
  | none =>
    if r.line.permit then (.ready (.failed .interrupted), { r with line := { r.line with permit := false } })
    else (.pending t, { r with line := r.line.join t c })

def fetch (r : EventRing) (c : Cursor) : FetchReply × EventRing :=
  let t := r.line.issued
  { r with line := { r.line with issued := t + 1 } }.lookOrWait t c

/-- A woken fetch leaves the line and looks again. -/
def resume (r : EventRing) (t : Ticket) (arrivalFirst : Bool) : FetchReply × EventRing :=
  match r.line.find? t with
  | none => (.pending t, r)
  | some w =>
    if w.woken && (arrivalFirst || !w.interrupted) then
      { r with line := r.line.leave t }.lookOrWait t w.cursor
    else if w.interrupted then (.ready (.failed .interrupted), { r with line := r.line.remove t })
    else (.pending t, r)

def cancel (r : EventRing) (t : Ticket) : EventRing := { r with line := r.line.leave t }

def interrupt (r : EventRing) : EventRing := { r with line := r.line.interrupt }

def close (r : EventRing) : EventRing := { r with closed := true, line := r.line.wake }

/-- Names are measured in bytes. -/
def checkName (r : EventRing) (name : String) : Except SourceFault Unit :=
  if name.isEmpty then .error (.invalidName name "empty")
  else if r.maxNameLength < name.utf8ByteSize then .error (.invalidName name "too long")
  else .ok ()

/-- The slots after one of them is filled: the next one, or the one at `i` if all are used. -/
def fill (r : EventRing) (i : Nat) (s : Stored) : List Stored :=
  if r.slots.length < r.capacity then r.slots ++ [s] else r.slots.set i s

/-- Stores an event, over the oldest one if all slots are used, and wakes every waiting fetch. -/
def store (r : EventRing) (now : Instant) (e : Event) : EventRing :=
  { r with
    slots := r.fill (r.next % r.capacity) ⟨now, r.next, e⟩
    next := r.next + 1
    line := r.line.wake }

def post (r : EventRing) (now : Instant) (e : Event) : Except SourceFault (Nat × EventRing) :=
  match r.checkName e.name with
  | .error cause => .error cause
  | .ok () => if r.closed then .error .closed else .ok (r.next, r.store now e)

end EventRing

instance : EventSource EventRing where
  name _ := "ring"
  fetch := EventRing.fetch
  resume := EventRing.resume
  isAwake r t := r.line.isAwake t
  cancel := EventRing.cancel
  interrupt := EventRing.interrupt
  post := EventRing.post
  close := EventRing.close
  push r _ := r
  backlog r := r.size + r.line.waiters.length + 1

end EventRelay
