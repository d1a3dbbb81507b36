namespace EventRelay

/-- Identifies one subscriber. -/
abbrev SubId := Nat

/-- A name and those registered under it. -/
abbrev Enrolment := String × List SubId

/-- A name has an entry only while somebody is registered under it. -/
structure Registry where
  entries : List Enrolment
deriving DecidableEq

namespace Registry

def empty : Registry := ⟨[]⟩

def isEmpty (r : Registry) : Bool := r.entries.isEmpty

/-- Those registered under `name`, in the order they were added. -/
def membersOf (r : Registry) (name : String) : List SubId :=
  ((r.entries.find? (fun e => e.1 == name)).map Prod.snd).getD []

def count (r : Registry) (name : String) : Nat := (r.membersOf name).length

def contains (r : Registry) (name : String) (sub : SubId) : Bool := (r.membersOf name).contains sub

def erase (r : Registry) (name : String) : Registry := ⟨r.entries.filter (fun e => e.1 != name)⟩

/-- Gives a name a new list: in the place of the old one, or last. An empty list is no entry. -/
def put (r : Registry) (name : String) (subs : List SubId) : Registry :=
  if subs.isEmpty then r.erase name
  else if (r.membersOf name).isEmpty then ⟨r.entries ++ [(name, subs)]⟩
  else ⟨r.entries.map (fun e => if e.1 == name then (name, subs) else e)⟩

/-- Adds a subscriber at the end of the list of a name, and says whether it was not there before. -/
def insert (r : Registry) (name : String) (sub : SubId) : Bool × Registry :=
  if r.contains name sub then (false, r) else (true, r.put name (r.membersOf name ++ [sub]))

/-- Takes a subscriber off the list of a name, and says whether it was there. -/
def remove (r : Registry) (name : String) (sub : SubId) : Bool × Registry :=
  if r.contains name sub then (true, r.put name ((r.membersOf name).filter (fun s => s != sub)))
  else (false, r)

/-- Takes everybody off the list of a name. -/
def removeName (r : Registry) (name : String) : List SubId × Registry := (r.membersOf name, r.erase name)

def clear (r : Registry) : List Enrolment × Registry := (r.entries, empty)

/-- Names are ordered by their bytes. -/
def nameLe (a b : String) : Bool := decide (a.toUTF8.data.toList ≤ b.toUTF8.data.toList)

/-- The registered names in ascending order. -/
def names (r : Registry) : List String := (r.entries.map Prod.fst).mergeSort nameLe

end Registry

end EventRelay
