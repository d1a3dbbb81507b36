import EventRelay.Notice

namespace EventRelay

/-- A receiver: its key, and the position of the notice it reads next. -/
structure Receiver where
  key : String
  next : Nat
deriving DecidableEq

/-- `retained` are the latest of the `tail` notices stored so far, oldest first, at most `room` of them.
`numbered` counts every notice made, stored or not. -/
structure Bus where
  room : Nat
  tail : Nat
  retained : List Notice
  receivers : List Receiver
  handles : Nat
  numbered : Nat
deriving DecidableEq

/-- The answer to a receiver that asks for the next notice. -/
inductive Received
  | notice (n : Notice)
  | lagged (count : Nat)
  | empty
  | closed
  | noReceiver
deriving DecidableEq

namespace Bus

/-- More notices than this have no room in memory. -/
def maxCapacity : Nat := Nat.pow 2 56

/-- A bus for `capacity` notices, at least one; the room is the next power of two. -/
def create? (capacity : Nat) : Option Bus :=
  if maxCapacity < capacity then none
  else some ⟨(max capacity 1).nextPowerOfTwo, 0, [], [], 1, 0⟩

/-- The position of the oldest notice still retained. -/
def oldest (b : Bus) : Nat := b.tail - b.retained.length

/-- The latest `room` notices. -/
def trim (room : Nat) (notices : List Notice) : List Notice := notices.drop (notices.length - room)

/-- Makes the next notice, under the next number. -/
def make (b : Bus) (body : NoticeBody) : Notice × Bus := (⟨b.numbered, body⟩, { b with numbered := b.numbered + 1 })

/-- Sends a notice to all receivers. It is stored only if there is one. -/
def send (b : Bus) (n : Notice) : Bus :=
  if b.handles = 0 ∨ b.receivers.isEmpty then b
  else { b with tail := b.tail + 1, retained := trim b.room (b.retained ++ [n]) }

/-- A notice is sent as soon as it is made. -/
def publish (b : Bus) (body : NoticeBody) : Bus :=
  let (n, b) := b.make body
  b.send n

def receiver? (b : Bus) (key : String) : Option Receiver := b.receivers.find? (fun r => r.key == key)

def unsubscribe (b : Bus) (key : String) : Bus :=
  { b with receivers := b.receivers.filter (fun r => r.key != key) }

/-- A new receiver sees only what is published from now on. -/
def subscribe (b : Bus) (key : String) : Bus :=
  { b with receivers := (b.unsubscribe key).receivers ++ [⟨key, b.tail⟩] }

def moveTo (b : Bus) (key : String) (next : Nat) : Bus :=
  { b with receivers := b.receivers.map (fun r => if r.key == key then ⟨key, next⟩ else r) }

/-- The next notice of a receiver, or how many it has lost. -/
def receive (b : Bus) (key : String) : Received × Bus :=
  match b.receiver? key with
  | none => (.noReceiver, b)
  | some r =>
    if r.next < b.oldest then (.lagged (b.oldest - r.next), b.moveTo key b.oldest)
    else match b.retained[r.next - b.oldest]? with
      | some n => (.notice n, b.moveTo key (r.next + 1))
      | none => (if b.handles = 0 then .closed else .empty, b)

/-- Everything a receiver can read now, at most `fuel` answers. -/
def receiveUpTo (b : Bus) (key : String) : Nat → List Received × Bus
  | 0 => ([], b)
  | fuel + 1 =>
    match b.receive key with
    | (.notice n, b) =>
      let (rest, b) := b.receiveUpTo key fuel
      (.notice n :: rest, b)
    | (.lagged n, b) =>
      let (rest, b) := b.receiveUpTo key fuel
      (.lagged n :: rest, b)
    | (_, b) => ([], b)

/-- A receiver has at most the retained notices to read, after one word on those it lost. -/
def receiveAll (b : Bus) (key : String) : List Received × Bus :=
  b.receiveUpTo key (b.retained.length + 1)

def cloneHandle (b : Bus) : Bus := if b.handles = 0 then b else { b with handles := b.handles + 1 }

def dropHandle (b : Bus) : Bus := { b with handles := b.handles - 1 }

end Bus

end EventRelay
