import EventRelay.Task
import Mathlib.Logic.Function.Basic
import Mathlib.Logic.Relation

namespace EventRelay

/-- What happened at one queue. Lists of these facts have the latest first. -/
inductive QueueFact
  | queued (d : Delivery)
  | dropped (d : Delivery)
  | discarded (ds : List Delivery)
  | entered (d : Delivery)
  | left (d : Delivery) (panicked : Bool)
deriving DecidableEq

namespace QueueFact

/-- The events that the queue accepted, in that order, without those that were discarded since: a discard takes the
ones accepted last. -/
def retained : List QueueFact → List Delivery
  | [] => []
  | .queued d :: before => retained before ++ [d]
  | .discarded ds :: before => (retained before).take ((retained before).length - ds.length)
  | _ :: before => retained before

/-- The events that the handler was given, in order. -/
def given : List QueueFact → List Delivery
  | [] => []
  | .entered d :: before => given before ++ [d]
  | _ :: before => given before

/-- The event that is inside the handler. -/
def inHand : List QueueFact → Option Delivery
  | [] => none
  | .entered d :: _ => some d
  | .left .. :: _ => none
  | _ :: before => inHand before

/-- A fact agrees with those before it. A discard takes all that was accepted and not given to the handler yet; the
handler enters an event only when none is inside, and leaves the one that is. -/
def Fits (before : List QueueFact) : QueueFact → Prop
  | .discarded ds => retained before = given before ++ ds
  | .entered _ => inHand before = none
  | .left d _ => inHand before = some d
  | .queued _ => True
  | .dropped _ => True

end QueueFact

open QueueFact

/-- The event that a worker at a stage has inside the handler. -/
def WorkerStage.delivery? : WorkerStage → Option Delivery
  | .idle => none
  | .inside d => some d

/-- A worker in the middle of a step, inside the handler, and the event that it gave it. -/
structure Engagement where
  task : TaskId
  delivery : Delivery

/-- What is there of one subscriber: its queue, the slot of its worker, its counters, its unfinished workers with
their stages, and what happened so far. -/
structure Station where
  capacity : Option Nat
  pending : List Delivery
  slot : Option TaskId
  tally : Tally
  workers : TaskId → Option WorkerStage
  facts : List QueueFact

namespace Station

def isFull (v : Station) : Bool := v.capacity.any (fun c => decide (c ≤ v.pending.length))

def accept (v : Station) (d : Delivery) : Station :=
  { v with pending := v.pending ++ [d], facts := .queued d :: v.facts }

def refuse (v : Station) (d : Delivery) : Station :=
  { v with tally := { v.tally with dropped := v.tally.dropped + 1 }, facts := .dropped d :: v.facts }

def discard (v : Station) : Station :=
  { v with
    pending := []
    tally := { v.tally with discarded := v.tally.discarded + v.pending.length }
    facts := .discarded v.pending :: v.facts }

def setStage (v : Station) (task : TaskId) (stage : Option WorkerStage) : Station :=
  { v with workers := Function.update v.workers task stage }

/-- A new worker takes the slot. -/
def staff (v : Station) (task : TaskId) : Station := { v.setStage task (some .idle) with slot := some task }

/-- The head of the queue is given to the handler. -/
def give (v : Station) (d : Delivery) (rest : List Delivery) : Station :=
  { v with pending := rest, facts := .entered d :: v.facts }

/-- The handler has returned, or panicked. -/
def leave (v : Station) (x : Engagement) (panicked : Bool) : Station :=
  { v.setStage x.task (some .idle) with
    tally := if panicked then { v.tally with panicked := v.tally.panicked + 1 }
      else { v.tally with delivered := v.tally.delivered + 1 }
    facts := .left x.delivery panicked :: v.facts }

/-- The worker leaves the slot and is gone. -/
def retire (v : Station) (task : TaskId) : Station := { v.setStage task none with slot := none }

/-- All that can happen at one go. While a worker is in the middle of a step it is known by its engagement, and its
stage is not up to date. -/
inductive Step : Option Engagement × Station → Option Engagement × Station → Prop
  | accepted {e : Option Engagement} {v : Station} (d : Delivery) (room : v.isFull = false)
      (served : v.slot.isSome = true) : Step (e, v) (e, v.accept d)
  | started {e : Option Engagement} {v : Station} (d : Delivery) {task : TaskId} (room : v.isFull = false)
      (unserved : v.slot = none) (fresh : v.workers task = none) : Step (e, v) (e, (v.accept d).staff task)
  | refused {e : Option Engagement} {v : Station} (d : Delivery) (full : v.isFull = true) :
      Step (e, v) (e, v.refuse d)
  | discarded {e : Option Engagement} {v : Station} (some : v.pending ≠ []) : Step (e, v) (e, v.discard)
  | began {v : Station} {task : TaskId} {d : Delivery} {rest : List Delivery}
      (worker : v.workers task = some .idle) (head : v.pending = d :: rest) :
      Step (none, v) (some ⟨task, d⟩, v.give d rest)
  | resumed {v : Station} {task : TaskId} {d : Delivery} (worker : v.workers task = some (.inside d)) :
      Step (none, v) (some ⟨task, d⟩, v)
  | left {x : Engagement} {v : Station} {stage : WorkerStage} (worker : v.workers x.task = some stage)
      (panicked : Bool) : Step (some x, v) (none, v.leave x panicked)
  | waited {x : Engagement} {v : Station} {stage : WorkerStage} (worker : v.workers x.task = some stage) :
      Step (some x, v) (none, v.setStage x.task (some (.inside x.delivery)))
  | retired {v : Station} {task : TaskId} (worker : v.workers task = some .idle) (done : v.pending = []) :
      Step (none, v) (none, v.retire task)
  | orphaned {v : Station} {task : TaskId} {stage : WorkerStage} (worker : v.workers task = some stage)
      (unserved : v.slot = none) : Step (none, v) (none, v.setStage task none)

abbrev Run : Option Engagement × Station → Option Engagement × Station → Prop := Relation.ReflTransGen Step

/-- The event inside the handler, read off the workers. -/
def handled (e : Option Engagement) (v : Station) : Option Delivery :=
  match e with
  | some x => some x.delivery
  | none => (v.slot.bind v.workers).bind WorkerStage.delivery?

/-- The one unfinished worker is in the slot, and is there whenever events are pending. -/
structure Staffed (v : Station) : Prop where
  slot : ∀ task, (v.workers task).isSome = true ↔ v.slot = some task
  served : v.pending ≠ [] → v.slot.isSome = true
  bounded : ∀ c, v.capacity = some c → v.pending.length ≤ c

/-- The queue is first in, first out, and the handler is given one event at a time. -/
structure Sound (e : Option Engagement) (v : Station) : Prop extends Staffed v where
  order : retained v.facts = given v.facts ++ v.pending
  fits : ∀ fact before, fact :: before <:+ v.facts → fact.Fits before
  hand : inHand v.facts = v.handled e
  engaged : ∀ x, e = some x → v.workers x.task = some .idle ∨ v.workers x.task = some (.inside x.delivery)

theorem Staffed.unserved {v : Station} (h : v.Staffed) (unserved : v.slot = none) (task : TaskId) :
    v.workers task = none := by
  have vacant : ¬ (v.workers task).isSome = true := by simp [h.slot, unserved]
  simpa using vacant

/-- An unfinished worker is in the slot. -/
theorem Staffed.slot_of {v : Station} (h : v.Staffed) {task : TaskId} {stage : WorkerStage}
    (worker : v.workers task = some stage) : v.slot = some task := by
  apply (h.slot task).mp
  simp [worker]

/-- A worker that goes on stays in the slot. -/
theorem Staffed.setStage {v : Station} (h : v.Staffed) {task : TaskId} {stage : WorkerStage}
    (worker : v.workers task = some stage) (stage' : WorkerStage) : (v.setStage task (some stage')).Staffed := by
  refine ⟨fun id => ?_, h.served, h.bounded⟩
  have same : ((v.setStage task (some stage')).workers id).isSome = (v.workers id).isSome := by
    by_cases he : id = task <;> simp [Station.setStage, he, worker]
  rw [same]
  exact h.slot id

theorem Staffed.accept {v : Station} (h : v.Staffed) (room : v.isFull = false) (served : v.slot.isSome = true)
    (d : Delivery) : (v.accept d).Staffed := by
  refine ⟨h.slot, fun _ => served, fun c hc => ?_⟩
  change v.capacity = some c at hc
  have free : v.pending.length < c := by simpa [isFull, hc] using room
  simpa [Station.accept, Nat.succ_le_iff] using free

theorem Staffed.start {v : Station} (h : v.Staffed) (room : v.isFull = false) (unserved : v.slot = none)
    (task : TaskId) (d : Delivery) : ((v.accept d).staff task).Staffed := by
  refine ⟨fun id => ?_, fun _ => rfl, fun c hc => ?_⟩
  · have none := h.unserved unserved id
    by_cases he : id = task
    · simp [staff, Station.setStage, he]
    · simp [staff, Station.setStage, Station.accept, he, none, Ne.symm he]
  · change v.capacity = some c at hc
    have free : v.pending.length < c := by simpa [isFull, hc] using room
    simpa [staff, Station.setStage, Station.accept, Nat.succ_le_iff] using free

theorem Staffed.shorten {v : Station} (h : v.Staffed) {pending : List Delivery} (shorter : pending <:+ v.pending) :
    { v with pending }.Staffed := by
  refine ⟨h.slot, fun some => h.served ?_, fun c hc => ?_⟩
  · intro none
    rw [none] at shorter
    exact some (List.suffix_nil.mp shorter)
  · exact Nat.le_trans shorter.length_le (h.bounded c hc)

theorem Staffed.retire {v : Station} (h : v.Staffed) {task : TaskId} {stage : WorkerStage}
    (worker : v.workers task = some stage) (done : v.pending = []) : (v.retire task).Staffed := by
  have slot := h.slot_of worker
  refine ⟨fun id => ?_, fun some => absurd done some, h.bounded⟩
  by_cases he : id = task
  · simp [Station.retire, Station.setStage, he]
  · have other : ¬ v.slot = some id := by simp [slot, Ne.symm he]
    simpa [Station.retire, Station.setStage, Function.update_apply, he, h.slot] using other

/-- A worker that waits has in hand what the handler was given last. -/
theorem Sound.inside {e : Option Engagement} {v : Station} (h : v.Sound e) {task : TaskId} {d : Delivery}
    (worker : v.workers task = some (.inside d)) : inHand v.facts = some d := by
  have slot := h.slot_of worker
  cases e with
  | none => simp [h.hand, handled, slot, worker, WorkerStage.delivery?]
  | some x =>
    have engaged := h.engaged x rfl
    have busy : v.slot = some x.task := by
      rcases engaged with idle | inside
      · exact h.slot_of idle
      · exact h.slot_of inside
    cases slot.symm.trans busy
    simpa [h.hand, handled, worker, eq_comm] using engaged

/-- While its worker is idle, nothing is inside the handler. -/
theorem Sound.idle {v : Station} (h : v.Sound none) {task : TaskId} (worker : v.workers task = some .idle) :
    inHand v.facts = none := by
  have slot := h.slot_of worker
  simp [h.hand, handled, slot, worker, WorkerStage.delivery?]

/-- All facts fit, the latest one too. -/
theorem fits_cons {facts : List QueueFact} (h : ∀ fact before, fact :: before <:+ facts → fact.Fits before)
    {latest : QueueFact} (fits : latest.Fits facts) (fact : QueueFact) (before : List QueueFact)
    (hs : fact :: before <:+ latest :: facts) : fact.Fits before := by
  rcases List.suffix_cons_iff.mp hs with he | hs
  · cases he
    exact fits
  · exact h fact before hs

theorem Sound.accept {e : Option Engagement} {v : Station} (h : v.Sound e) (room : v.isFull = false)
    (served : v.slot.isSome = true) (d : Delivery) : (v.accept d).Sound e where
  toStaffed := h.toStaffed.accept room served d
  order := by simp [Station.accept, retained, given, h.order]
  fits := fits_cons h.fits trivial
  hand := h.hand
  engaged := h.engaged

/-- A worker is started only where there is none, so nobody is inside the handler. -/
theorem Sound.start {e : Option Engagement} {v : Station} (h : v.Sound e) (room : v.isFull = false)
    (unserved : v.slot = none) (task : TaskId) (d : Delivery) : ((v.accept d).staff task).Sound e := by
  have none := h.unserved unserved
  have free : e = Option.none := by
    cases e with
    | none => rfl
    | some x => simpa [none] using h.engaged x rfl
  subst free
  have idle : inHand v.facts = Option.none := by simp [h.hand, handled, unserved]
  refine ⟨h.toStaffed.start room unserved task d, ?_, fits_cons h.fits trivial, ?_, nofun⟩
  · simp [staff, Station.setStage, Station.accept, retained, given, h.order]
  · simpa [staff, Station.setStage, Station.accept, inHand, handled, WorkerStage.delivery?] using idle

theorem Sound.refuse {e : Option Engagement} {v : Station} (h : v.Sound e) (d : Delivery) : (v.refuse d).Sound e where
  toStaffed := ⟨h.slot, h.served, h.bounded⟩
  order := h.order
  fits := fits_cons h.fits trivial
  hand := h.hand
  engaged := h.engaged

theorem Sound.discard {e : Option Engagement} {v : Station} (h : v.Sound e) : v.discard.Sound e where
  toStaffed := by
    have emptied := h.toStaffed.shorten (List.nil_suffix (l := v.pending))
    exact ⟨emptied.slot, emptied.served, emptied.bounded⟩
  order := by simp [Station.discard, retained, given, h.order]
  fits := fits_cons h.fits h.order
  hand := h.hand
  engaged := h.engaged

/-- An idle worker has nothing inside the handler, so it may give it the next event. -/
theorem Sound.give {v : Station} (h : v.Sound none) {task : TaskId} {d : Delivery} {rest : List Delivery}
    (worker : v.workers task = some .idle) (head : v.pending = d :: rest) :
    (v.give d rest).Sound (some ⟨task, d⟩) := by
  have idle := h.idle worker
  have shorter := h.toStaffed.shorten (head ▸ List.suffix_cons d rest)
  refine ⟨⟨shorter.slot, shorter.served, shorter.bounded⟩, ?_, fits_cons h.fits idle, rfl, fun x hx => ?_⟩
  · simp [Station.give, retained, given, h.order, head]
  · cases hx
    exact .inl worker

theorem Sound.resume {v : Station} (h : v.Sound none) {task : TaskId} {d : Delivery}
    (worker : v.workers task = some (.inside d)) : v.Sound (some ⟨task, d⟩) where
  toStaffed := h.toStaffed
  order := h.order
  fits := h.fits
  hand := h.inside worker
  engaged x hx := by
    cases hx
    exact .inr worker

theorem Sound.leave {x : Engagement} {v : Station} (h : v.Sound (some x)) {stage : WorkerStage}
    (worker : v.workers x.task = some stage) (panicked : Bool) : (v.leave x panicked).Sound none := by
  have slot := h.slot_of worker
  have staffed := h.toStaffed.setStage worker .idle
  refine ⟨⟨staffed.slot, staffed.served, staffed.bounded⟩, h.order, fits_cons h.fits h.hand, ?_, nofun⟩
  simp [Station.leave, Station.setStage, inHand, handled, slot, WorkerStage.delivery?]

theorem Sound.wait {x : Engagement} {v : Station} (h : v.Sound (some x)) {stage : WorkerStage}
    (worker : v.workers x.task = some stage) : (v.setStage x.task (some (.inside x.delivery))).Sound none := by
  have slot := h.slot_of worker
  refine ⟨h.toStaffed.setStage worker _, h.order, h.fits, ?_, nofun⟩
  have inside := h.hand
  simpa [Station.setStage, handled, slot, WorkerStage.delivery?] using inside

theorem Sound.retire {v : Station} (h : v.Sound none) {task : TaskId} (worker : v.workers task = some .idle)
    (done : v.pending = []) : (v.retire task).Sound none := by
  have idle := h.idle worker
  refine ⟨h.toStaffed.retire worker done, h.order, h.fits, ?_, nofun⟩
  simpa [Station.retire, Station.setStage, handled] using idle

theorem Step.sound {e e' : Option Engagement} {v v' : Station} (step : Step (e, v) (e', v')) (h : v.Sound e) :
    v'.Sound e' := by
  cases step with
  | accepted d room served => exact h.accept room served d
  | started d room unserved _ => exact h.start room unserved _ d
  | refused d _ => exact h.refuse d
  | discarded _ => exact h.discard
  | began worker head => exact h.give worker head
  | resumed worker => exact h.resume worker
  | left worker panicked => exact h.leave worker panicked
  | waited worker => exact h.wait worker
  | retired worker done => exact h.retire worker done
  | @orphaned _ task _ worker unserved =>
    have vacant := h.unserved unserved task
    rw [worker] at vacant
    contradiction

/-- Whatever happens at a queue, and in whatever order, it stays sound. -/
theorem Run.sound {e e' : Option Engagement} {v v' : Station} (run : Run (e, v) (e', v')) (h : v.Sound e) :
    v'.Sound e' := by
  generalize hs : (e', v') = final at run
  induction run generalizing e' v' with
  | refl =>
    cases hs
    exact h
  | @tail middle _ _ step ih =>
    subst hs
    exact step.sound (ih rfl)

/-- A queue at which nothing has happened yet. -/
theorem sound_new (capacity : Option Nat) (tally : Tally) :
    Sound none ⟨capacity, [], none, tally, fun _ => none, []⟩ where
  slot task := by simp
  served some := absurd rfl some
  bounded _ _ := Nat.zero_le _
  order := rfl
  fits _ _ hs := absurd (List.suffix_nil.mp hs) (List.cons_ne_nil _ _)
  hand := rfl
  engaged := nofun

end Station

end EventRelay
