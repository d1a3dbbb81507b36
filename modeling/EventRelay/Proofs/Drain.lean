import EventRelay.Proofs.Handing
import EventRelay.Proofs.Stop
import EventRelay.Proofs.Waiting

namespace EventRelay

namespace Relay

/-- What the poller hands over for the events that it fetched, each under the index that it has in the ring. -/
def handedOut (id : TaskId) (registry : Registry) (held : List Stored) : List (SubId × Delivery) :=
  held.flatMap fun s =>
    (registry.membersOf s.event.name).map fun sub => (sub, ⟨{ s.event with index := some s.index }, id⟩)

/-- The poller handed these events over, each to everybody registered under its name, and went past them. -/
structure Passed (r r' : Relay EventRing) (id : TaskId) (held : List Stored) : Prop extends
    Handed r r' (handedOut id r.registry held) where
  handles : r'.handles = r.handles
  registry : r'.registry = r.registry
  slot : r'.slot = r.slot
  source : EventRing.LineOnly r.source r'.source
  since : r'.cursor.since = r.cursor.since
  last : r'.cursor.last = (held.getLast?.map Stored.index).or r.cursor.last

theorem Passed.trans {r r' r'' : Relay EventRing} {id : TaskId} {held held' : List Stored} (h : r.Passed r' id held)
    (h' : r'.Passed r'' id held') : r.Passed r'' id (held ++ held') where
  toHanded := by
    have out : handedOut id r.registry (held ++ held') =
        handedOut id r.registry held ++ handedOut id r'.registry held' := by
      rw [h.registry, handedOut, List.flatMap_append]
      rfl
    rw [out]
    exact h.toHanded.trans h'.toHanded
  handles := h'.handles.trans h.handles
  registry := h'.registry.trans h.registry
  slot := h'.slot.trans h.slot
  source := h.source.trans h'.source
  since := h'.since.trans h.since
  last := by
    rw [h'.last, h.last, List.getLast?_append, Option.map_or, Option.or_assoc]

theorem Passed.nothing {r r' : Relay EventRing} (hs : r.SameControl r') (handed : r.Handed r' [])
    (source : EventRing.LineOnly r.source r'.source) (id : TaskId) : r.Passed r' id [] :=
  ⟨handed, hs.handles, hs.registry, hs.slot, source, by rw [hs.cursor], by rw [hs.cursor]; rfl⟩

theorem setWork_passed (r : Relay EventRing) (id : TaskId) (work : Work) : r.Passed (r.setWork id work) id [] :=
  ⟨.nothing rfl rfl, rfl, rfl, rfl, ⟨_, rfl⟩, rfl, rfl⟩

theorem note_passed (r : Relay EventRing) {o : Occurrence} (ho : o.handing? = none) (id : TaskId) :
    r.Passed (r.note o) id [] :=
  .nothing (note_aside r o).toSameControl (note_handed r ho) ⟨_, rfl⟩ id

theorem Consulted.passed {r r' : Relay EventRing} {id : TaskId} {stage : PollerStage} {token : TokenId}
    {reply : FetchReply} (h : r.Consulted id stage token reply r') : r.Passed r' id [] := by
  refine .nothing h.sameControl ?_ h.lineOnly id
  cases h with
  | declined | withdrawn | resumed => exact .nothing rfl rfl
  | asked => exact ⟨(note_handed r (o := .fetchStarted id r.cursor) rfl).facts,
      (note_handed r (o := .fetchStarted id r.cursor) rfl).queues⟩

/-- A fetched event goes to everybody registered under its name. -/
theorem handOut_passed {r : Relay EventRing} (proper : r.registry.Proper r.subscribers.size) (id : TaskId)
    (s : Stored) : r.Passed ((r.moveCursor s.fetched).handOut id s.fetched) id [s] := by
  have moved := moveCursor_aside r s.fetched
  have out := handOut_aside (r.moveCursor s.fetched) id s.fetched
  have skipped : r.Handed (r.moveCursor s.fetched) [] := by
    have start : r.Handed { r with cursor := r.cursor.moveTo s.index } [] := .nothing rfl rfl
    unfold moveCursor
    dsimp only
    split
    · exact start
    · exact start.trans (note_handed _ rfl)
  have handed : (r.moveCursor s.fetched).Handed ((r.moveCursor s.fetched).handOut id s.fetched)
      (handedOut id r.registry [s]) := by
    have targets : handedOut id r.registry [s] =
        (r.registry.membersOf s.event.name).map fun sub => (sub, ⟨s.event.indexed s.index, id⟩) :=
      List.flatMap_singleton _ _
    have members : (r.moveCursor s.fetched).registry.membersOf s.fetched.event.name =
        r.registry.membersOf s.event.name := by
      rw [moved.registry]
      rfl
    rw [targets]
    unfold handOut
    rw [members]
    split
    · rename_i none
      rw [List.isEmpty_iff.mp none]
      exact note_handed _ rfl
    · apply dispatch_handed
      intro sub hs
      rw [moved.size]
      exact proper.member hs
  refine ⟨skipped.trans handed, ?_, ?_, ?_, ⟨r.source.line, ?_⟩, ?_, ?_⟩
  · rw [out.handles, moved.handles]
  · rw [out.registry, moved.registry]
  · rw [out.slot, moved.slot]
  · rw [out.source, moved.source]
  · rw [out.cursor, moved.cursor]
    rfl
  · rw [out.cursor, moved.cursor]
    rfl

theorem takeResult_fetched {r : Relay EventRing} (hc : r.hasController = true) (hr : r.registry.isEmpty = false)
    (proper : r.registry.Proper r.subscribers.size) {id : TaskId} {failures : Nat} {stage : PollerStage}
    (hp : r.PollerAt id failures stage) (token : TokenId) (s : Stored) :
    ∃ r', r.takeResult id failures token (.fetched s.fetched) = (.going, r') ∧ r.Passed r' id [s] ∧
      r'.PollerAt id 0 .ready := by
  obtain ⟨told, ht⟩ : ∃ told, told = r.note (.resultTaken id (.fetched s.fetched)) := ⟨_, rfl⟩
  have first : r.Passed told id [] := ht ▸ note_passed r rfl id
  have still := ht ▸ note_aside r (.resultTaken id (.fetched s.fetched))
  have proper' : told.registry.Proper told.subscribers.size := by
    rw [still.registry, still.size]
    exact proper
  have poller : ((told.moveCursor s.fetched).handOut id s.fetched).PollerAt id failures stage :=
    (handOut_aside _ id s.fetched).toSameControl.pollerAt.mpr
      ((moveCursor_aside told s.fetched).toSameControl.pollerAt.mpr (still.toSameControl.pollerAt.mpr hp))
  refine ⟨((told.moveCursor s.fetched).handOut id s.fetched).setWork id (.poller 0 .ready), ?_,
    (first.trans (handOut_passed proper' id s)).trans (setWork_passed _ id _), setWork_pollerAt poller 0 .ready⟩
  simp only [takeResult, hc, hr, Bool.not_true, Bool.false_eq_true, if_false, passOn_eq, ht]

/-- An interrupt only leads to the next round. -/
theorem takeResult_interrupted {r : Relay EventRing} (hc : r.hasController = true) (hr : r.registry.isEmpty = false)
    {id : TaskId} {failures : Nat} {stage : PollerStage} (hp : r.PollerAt id failures stage) (token : TokenId) :
    ∃ r', r.takeResult id failures token (.failed .interrupted) = (.going, r') ∧ r.Passed r' id [] ∧
      r'.source = r.source ∧ r'.PollerAt id failures .ready := by
  have told := (note_passed r (o := .resultTaken id (.failed .interrupted)) rfl id).trans
    (note_passed _ (o := .nothingFetched .interrupted) rfl id)
  refine ⟨_, ?_, told.trans (setWork_passed _ id (.poller failures .ready)), rfl, setWork_pollerAt hp failures .ready⟩
  simp only [takeResult, hc, hr, Bool.not_true, Bool.false_eq_true, if_false]
  rfl

/-- A poller that goes on over an open ring. -/
structure Loose (r : Relay EventRing) (s : PollerSlot) : Prop extends Orderly r where
  slot : r.slot = some s
  filled : r.registry.isEmpty = false
  opened : r.source.closed = false

theorem Loose.unflagged {r : Relay EventRing} {s : PollerSlot} (h : r.Loose s) : r.isCancelled s.token = false :=
  (h.flag h.slot).trans h.filled

theorem Loose.passed {r r' : Relay EventRing} {s : PollerSlot} {id : TaskId} {held : List Stored} (h : r.Loose s)
    (hp : r.Passed r' id held) (orderly : r'.Orderly) : r'.Loose s := by
  obtain ⟨line, source⟩ := hp.source
  exact ⟨orderly, hp.slot.trans h.slot, hp.registry ▸ h.filled, source ▸ h.opened⟩

/-- One round of a poller that looks at `ring`: it passes the first event past the cursor; or there is none, and it
uses up an interrupt that was kept, or waits. -/
inductive Round (r : Relay EventRing) (s : PollerSlot) (ring : EventRing) : Turn × Relay EventRing → Prop
  | passed {e : Stored} {f : Nat} {r' : Relay EventRing} (first : r.source.Holds r.cursor e)
      (least : ∀ t, r.source.Holds r.cursor t → e.index ≤ t.index) (passed : r.Passed r' s.task [e])
      (poller : r'.PollerAt s.task f .ready) : Round r s ring (.going, r')
  | cleared {f : Nat} {r' : Relay EventRing} (none : ∀ t, ¬ r.source.Holds r.cursor t)
      (kept : ring.line.permit = true) (passed : r.Passed r' s.task []) (used : r'.source.line.permit = false)
      (poller : r'.PollerAt s.task f .ready) : Round r s ring (.going, r')
  | blocked {f : Nat} {ticket : Ticket} {r' : Relay EventRing} (none : ∀ t, ¬ r.source.Holds r.cursor t)
      (passed : r.Passed r' s.task []) (poller : r'.PollerAt s.task f (.fetching s.token ticket))
      (asleep : EventSource.isAwake r'.source ticket = false) : Round r s ring (.blocked, r')

theorem round_answered {r r₁ : Relay EventRing} {s : PollerSlot} (h : r.Loose s) {failures : Nat} {stage : PollerStage}
    (hp : r.PollerAt s.task failures stage) {ring : EventRing} {ticket : Ticket} {token : TokenId}
    {result : FetchResult} (consulted : r.Consulted s.task stage token (.ready result) r₁)
    (line : r.source.LineOnly ring) (look : ring.Looked ticket r.cursor (.ready result, r₁.source)) :
    r.Round s ring (r₁.takeResult s.task failures token result) := by
  obtain ⟨_, rfl⟩ := line
  have same := consulted.sameControl
  have hc : r₁.hasController = true := same.hasController.trans (h.controller h.slot)
  have hr : r₁.registry.isEmpty = false := same.registry ▸ h.filled
  have poller := same.pollerAt.mpr hp
  generalize hs : r₁.source = source at look
  cases look with
  | found found =>
    obtain ⟨e, first, least, rfl⟩ := EventRing.find?_eq_some found
    have proper : r₁.registry.Proper r₁.subscribers.size := by
      rw [same.registry, consulted.size]
      exact h.proper
    obtain ⟨r', he, passed, next⟩ := takeResult_fetched hc hr proper poller token e
    rw [he]
    exact .passed first least (consulted.passed.trans passed) next
  | ended _ closed =>
    have opened : r.source.closed = true := closed
    rw [h.opened] at opened
    contradiction
  | kept none _ permit =>
    obtain ⟨r', he, passed, source, next⟩ := takeResult_interrupted hc hr poller token
    rw [he]
    have used : r'.source.line.permit = false := by rw [source, hs]
    exact .cleared (EventRing.find?_eq_none.mp none) permit (consulted.passed.trans passed) used next

theorem round_queued {r r₁ : Relay EventRing} {s : PollerSlot} {failures : Nat} {stage : PollerStage}
    (hp : r.PollerAt s.task failures stage) {ring : EventRing} {ticket ticket' : Ticket}
    (consulted : r.Consulted s.task stage s.token (.pending ticket') r₁) (line : r.source.LineOnly ring)
    (look : ring.Looked ticket r.cursor (.pending ticket', r₁.source)) (nobody : ring.line.waiters = []) :
    r.Round s ring (.blocked, r₁.setWork s.task (.poller failures (.fetching s.token ticket'))) := by
  obtain ⟨_, rfl⟩ := line
  have poller := setWork_pollerAt (consulted.sameControl.pollerAt.mpr hp) failures (.fetching s.token ticket')
  have passed := consulted.passed.trans (setWork_passed r₁ s.task (.poller failures (.fetching s.token ticket')))
  generalize hs : r₁.source = source at look
  cases look with
  | waits none _ _ =>
    apply Round.blocked (EventRing.find?_eq_none.mp none) passed poller
    have waiters : r₁.source.line.waiters = [⟨ticket, r.cursor, false, false⟩] := by
      rw [hs]
      change _ ++ _ = _
      rw [nobody, List.nil_append]
    exact WaitLine.isAwake_one waiters

/-- A poller that begins a fetch takes a round over the ring as it is. -/
theorem PollerStep.round {r : Relay EventRing} {s : PollerSlot} {failures : Nat} {turn : Turn × Relay EventRing}
    (step : r.PollerStep s.task failures .ready turn) (h : r.Loose s) (hp : r.PollerAt s.task failures .ready) :
    r.Round s r.source.issueTicket turn := by
  have look := EventRing.lookOrWait_looked r.source.issueTicket r.source.line.issued r.cursor
  have nobody := h.nobody_of_ready (fun _ _ _ hq => h.unique hq hp) hp nofun
  cases step with
  | orphaned alone =>
    have gone := alone (h.controller h.slot)
    rw [h.slot] at gone
    contradiction
  | exited _ empty =>
    rw [h.filled] at empty
    contradiction
  | answered consulted =>
    cases consulted with
    | declined _ _ hs flag =>
      cases h.slot.symm.trans hs
      rw [h.unflagged] at flag
      contradiction
    | asked hc hr hs flag answer =>
      change r.source.issueTicket.lookOrWait _ _ = _ at answer
      rw [answer] at look
      exact round_answered h hp (.asked hc hr hs flag answer) ⟨_, rfl⟩ look
  | queued consulted =>
    cases consulted with
    | asked hc hr hs flag answer =>
      cases h.slot.symm.trans hs
      change r.source.issueTicket.lookOrWait _ _ = _ at answer
      rw [answer] at look
      exact round_queued hp (.asked hc hr hs flag answer) ⟨_, rfl⟩ look nobody

/-- The turn only brought the poller to where it begins a fetch. -/
def Returned (r : Relay EventRing) (s : PollerSlot) (turn : Turn × Relay EventRing) : Prop :=
  ∃ f r', turn = (.going, r') ∧ r.Passed r' s.task [] ∧ r'.PollerAt s.task f .ready

theorem interrupted_returned {r r₁ : Relay EventRing} {s : PollerSlot} (h : r.Loose s) {failures : Nat}
    {stage : PollerStage} (hp : r.PollerAt s.task failures stage) {token : TokenId}
    (consulted : r.Consulted s.task stage token (.ready (.failed .interrupted)) r₁) :
    r.Returned s (r₁.takeResult s.task failures token (.failed .interrupted)) := by
  have same := consulted.sameControl
  obtain ⟨r', he, passed, -, next⟩ := takeResult_interrupted (same.hasController.trans (h.controller h.slot))
    (same.registry ▸ h.filled) (same.pollerAt.mpr hp) token
  exact ⟨failures, r', he, consulted.passed.trans passed, next⟩

/-- A poller whose wait is over begins anew, or looks at the ring again from where it waited. -/
theorem first_turn {r : Relay EventRing} {s : PollerSlot} (h : r.Loose s) {name : String} {failures : Nat}
    {stage : PollerStage} (ht : r.tasks.get? s.task = some ⟨name, .poller failures stage, none⟩)
    (runnable : r.isRunnable ⟨name, .poller failures stage, none⟩ = true) :
    (∃ ring, r.Round s ring (r.pollerTurn s.task failures stage)) ∨
      r.Returned s (r.pollerTurn s.task failures stage) := by
  have hp : r.PollerAt s.task failures stage := ⟨name, ht⟩
  have step := pollerTurn_step r s.task failures stage
  cases stage with
  | ready => exact .inl ⟨_, step.round h hp⟩
  | pausing token deadline =>
    generalize r.pollerTurn s.task failures (.pausing token deadline) = turn at step
    cases step with
    | answered consulted => contradiction
    | queued consulted => contradiction
    | rested => exact .inr ⟨failures, _, rfl, setWork_passed _ _ _, setWork_pollerAt hp failures .ready⟩
    | resting flag early =>
      simp [isRunnable, Task.hasEnded, flag, Nat.not_le.mpr early] at runnable
  | fetching token ticket =>
    obtain ⟨w, waiters, rfl, stands⟩ := h.fetching hp
    have cursor : w.cursor = r.cursor := (stands (h.controller h.slot)).1
    have look := EventRing.lookOrWait_looked { r.source with line := r.source.line.leave w.ticket } w.ticket r.cursor
    have held : r.isCancelled token = false → token = s.token := by
      intro flag
      rcases h.held hp rfl with hm | hs
      · rw [isCancelled_iff.mpr hm] at flag
        contradiction
      · exact (congrArg PollerSlot.token (Option.some.inj (h.slot.symm.trans hs))).symm
    generalize r.pollerTurn s.task failures (.fetching token w.ticket) = turn at step
    cases step with
    | asleep flag still =>
      simp [isRunnable, Task.hasEnded, flag, still] at runnable
    | answered consulted =>
      cases consulted with
      | withdrawn flag => exact .inr (interrupted_returned h hp (.withdrawn flag))
      | resumed flag awake answer =>
        rcases EventRing.resume_one waiters (r.surroundings.arrivalFirst r.choices) awake with he | he
        · have looked := he.symm.trans answer
          rw [cursor] at looked
          rw [looked] at look
          exact .inl ⟨_, round_answered h hp (.resumed flag awake answer) ⟨_, rfl⟩ look⟩
        · cases he.symm.trans answer
          exact .inr (interrupted_returned h hp (.resumed flag awake answer))
    | queued consulted =>
      cases consulted with
      | resumed flag awake answer =>
        cases held flag
        rcases EventRing.resume_one waiters (r.surroundings.arrivalFirst r.choices) awake with he | he
        · have looked := he.symm.trans answer
          rw [cursor] at looked
          rw [looked] at look
          exact .inl ⟨_, round_queued hp (.resumed flag awake answer) ⟨_, rfl⟩ look (WaitLine.leave_one waiters)⟩
        · cases he.symm.trans answer

/-- The poller handed over just the events that the ring held past the cursor, in the order of their indices, and
waits for more under its own flag. -/
structure Drained (r r' : Relay EventRing) (s : PollerSlot) (held : List Stored) : Prop extends
    Passed r r' s.task held where
  ascending : held.Pairwise (fun a b => a.index < b.index)
  exact : ∀ e, e ∈ held ↔ e ∈ r.source.slots ∧ r.cursor.precedes e.time e.index = true
  waits : ∃ f ticket, r'.PollerAt s.task f (.fetching s.token ticket) ∧
    EventSource.isAwake r'.source ticket = false ∧ r'.isCancelled s.token = false

theorem Passed.holds {r r' : Relay EventRing} {id : TaskId} {e : Stored} (h : r.Passed r' id [e]) (t : Stored) :
    r'.source.Holds r'.cursor t ↔ r.source.Holds (r.cursor.moveTo e.index) t := by
  obtain ⟨line, source⟩ := h.source
  have cursor : r'.cursor = r.cursor.moveTo e.index := Cursor.ext h.since h.last
  rw [source, cursor]
  rfl

theorem Passed.ahead_lt {r r' : Relay EventRing} {id : TaskId} {e : Stored} (h : r.Passed r' id [e])
    (sound : r.source.Sound) (first : r.source.Holds r.cursor e)
    (least : ∀ t, r.source.Holds r.cursor t → e.index ≤ t.index) :
    r'.source.ahead r'.cursor < r.source.ahead r.cursor := by
  obtain ⟨line, source⟩ := h.source
  have cursor : r'.cursor = r.cursor.moveTo e.index := Cursor.ext h.since h.last
  rw [source, cursor]
  exact EventRing.ahead_lt sound first least

theorem Passed.same_holds {r r' : Relay EventRing} {id : TaskId} (h : r.Passed r' id []) (t : Stored) :
    r'.source.Holds r'.cursor t ↔ r.source.Holds r.cursor t := by
  obtain ⟨line, source⟩ := h.source
  have cursor : r'.cursor = r.cursor := Cursor.ext h.since h.last
  rw [source, cursor]
  rfl

theorem Drained.cons {r r₁ r' : Relay EventRing} {s : PollerSlot} {e : Stored} {held : List Stored}
    (h : r₁.Drained r' s held) (passed : r.Passed r₁ s.task [e]) (sound : r.source.Sound)
    (first : r.source.Holds r.cursor e) (least : ∀ t, r.source.Holds r.cursor t → e.index ≤ t.index) :
    r.Drained r' s (e :: held) where
  toPassed := passed.trans h.toPassed
  ascending := by
    refine List.pairwise_cons.mpr ⟨fun t ht => ?_, h.ascending⟩
    obtain ⟨hold, other⟩ := (EventRing.holds_moveTo sound first least).mp ((passed.holds t).mp ((h.exact t).mp ht))
    exact Nat.lt_of_le_of_ne (least t hold) fun he => other (sound.index_inj hold.1 first.1 he.symm)
  exact t := by
    rw [List.mem_cons]
    constructor
    · rintro (rfl | ht)
      · exact first
      · exact ((EventRing.holds_moveTo sound first least).mp ((passed.holds t).mp ((h.exact t).mp ht))).1
    · intro ht
      by_cases he : t = e
      · exact .inl he
      · exact .inr ((h.exact t).mpr ((passed.holds t).mpr ((EventRing.holds_moveTo sound first least).mpr ⟨ht, he⟩)))
  waits := h.waits

theorem Drained.after {r r₁ r' : Relay EventRing} {s : PollerSlot} {held : List Stored} (h : r₁.Drained r' s held)
    (passed : r.Passed r₁ s.task []) : r.Drained r' s held where
  toPassed := passed.trans h.toPassed
  ascending := h.ascending
  exact t := (h.exact t).trans (passed.same_holds t)
  waits := h.waits

theorem Drained.none {r r' : Relay EventRing} {s : PollerSlot} (h : r.Loose s) (orderly : r'.Orderly)
    (none : ∀ t, ¬ r.source.Holds r.cursor t) (passed : r.Passed r' s.task []) {f : Nat} {ticket : Ticket}
    (poller : r'.PollerAt s.task f (.fetching s.token ticket))
    (asleep : EventSource.isAwake r'.source ticket = false) : r.Drained r' s [] where
  toPassed := passed
  ascending := .nil
  exact t := ⟨nofun, fun ht => absurd ht (none t)⟩
  waits := ⟨f, ticket, poller, asleep, (h.passed passed orderly).unflagged⟩

/-- A turn leaves the relay in order. -/
theorem Loose.turn {r r' : Relay EventRing} {s : PollerSlot} (h : r.Loose s) {failures : Nat} {stage : PollerStage}
    (hp : r.PollerAt s.task failures stage) {turn : Turn} (ht : r.pollerTurn s.task failures stage = (turn, r')) :
    r'.Orderly := by
  have orderly := pollerTurn_orderly h.toOrderly hp
  rw [ht] at orderly
  exact orderly

/-- With nothing to hand over and no interrupt kept, the next fetch waits. -/
theorem drain_quiet {r : Relay EventRing} {s : PollerSlot} (h : r.Loose s) {failures : Nat}
    (hp : r.PollerAt s.task failures .ready) (none : ∀ t, ¬ r.source.Holds r.cursor t)
    (permit : r.source.line.permit = false) (fuel : Nat) :
    ∃ r', r.pollUpTo s.task (fuel + 1) = (.blocked, r') ∧ r.Drained r' s [] := by
  have round := (pollerTurn_step r s.task failures .ready).round h hp
  generalize ht : r.pollerTurn s.task failures .ready = turn at round
  cases round with
  | passed first => exact absurd first (none _)
  | cleared _ kept =>
    have unkept : r.source.issueTicket.line.permit = false := permit
    rw [unkept] at kept
    contradiction
  | @blocked _ _ r' _ passed poller asleep =>
    exact ⟨r', pollUpTo_blocked hp ht fuel, .none h (h.turn hp ht) none passed poller asleep⟩

/-- Each round hands one event over, until none is left; two rounds more end with a wait. -/
theorem drain_ready {s : PollerSlot} {fuel : Nat} {r : Relay EventRing} (h : r.Loose s) {failures : Nat}
    (hp : r.PollerAt s.task failures .ready) (enough : r.source.ahead r.cursor + 2 ≤ fuel) :
    ∃ held r', r.pollUpTo s.task fuel = (.blocked, r') ∧ r.Drained r' s held := by
  induction fuel generalizing r failures with
  | zero => omega
  | succ fuel ih =>
    have round := (pollerTurn_step r s.task failures .ready).round h hp
    generalize ht : r.pollerTurn s.task failures .ready = turn at round
    cases round with
    | @passed e f r₁ first least passed poller =>
      have fewer := passed.ahead_lt h.sound first least
      obtain ⟨held, r', he, drained⟩ := ih (h.passed passed (h.turn hp ht)) poller (by omega)
      exact ⟨e :: held, r', (pollUpTo_going hp ht fuel).trans he, drained.cons passed h.sound first least⟩
    | @cleared f r₁ none kept passed used poller =>
      obtain ⟨fuel, rfl⟩ : ∃ n, fuel = n + 1 := ⟨fuel - 1, by omega⟩
      have quiet : ∀ t, ¬ r₁.source.Holds r₁.cursor t := fun t hold => none t ((passed.same_holds t).mp hold)
      obtain ⟨r', he, drained⟩ := drain_quiet (h.passed passed (h.turn hp ht)) poller quiet used fuel
      exact ⟨[], r', (pollUpTo_going hp ht (fuel + 1)).trans he, drained.after passed⟩
    | @blocked _ _ r' none passed poller asleep =>
      exact ⟨[], r', pollUpTo_blocked hp ht fuel, .none h (h.turn hp ht) none passed poller asleep⟩

/-- From wherever its wait is over, the poller drains the ring. -/
theorem drain_runnable {r : Relay EventRing} {s : PollerSlot} (h : r.Loose s) {name : String} {failures : Nat}
    {stage : PollerStage} (ht : r.tasks.get? s.task = some ⟨name, .poller failures stage, none⟩)
    (runnable : r.isRunnable ⟨name, .poller failures stage, none⟩ = true) {fuel : Nat}
    (enough : r.source.slots.length + 3 ≤ fuel) :
    ∃ held r', r.pollUpTo s.task fuel = (.blocked, r') ∧ r.Drained r' s held := by
  have hp : r.PollerAt s.task failures stage := ⟨name, ht⟩
  have resume : ∀ {r₁ f held₁}, r.pollerTurn s.task failures stage = (.going, r₁) → r.Passed r₁ s.task held₁ →
      r₁.PollerAt s.task f .ready →
      ∃ held r', r.pollUpTo s.task fuel = (.blocked, r') ∧ r₁.Drained r' s held := by
    intro r₁ f held₁ going passed poller
    obtain ⟨fuel, rfl⟩ : ∃ n, fuel = n + 1 := ⟨fuel - 1, by omega⟩
    have bound : r₁.source.ahead r₁.cursor ≤ r.source.slots.length := by
      obtain ⟨line, source⟩ := passed.source
      rw [source]
      exact List.countP_le_length
    have enough' : r₁.source.ahead r₁.cursor + 2 ≤ fuel := by omega
    obtain ⟨held, r', he, drained⟩ := drain_ready (h.passed passed (h.turn hp going)) poller enough'
    exact ⟨held, r', (pollUpTo_going hp going fuel).trans he, drained⟩
  rcases first_turn h ht runnable with ⟨ring, round⟩ | ⟨f, r₁, going, passed, poller⟩
  · generalize hturn : r.pollerTurn s.task failures stage = turn at round
    cases round with
    | @passed e f r₁ first least passed poller =>
      obtain ⟨held, r', he, drained⟩ := resume hturn passed poller
      exact ⟨e :: held, r', he, drained.cons passed h.sound first least⟩
    | cleared _ _ passed _ poller =>
      obtain ⟨held, r', he, drained⟩ := resume hturn passed poller
      exact ⟨held, r', he, drained.after passed⟩
    | @blocked _ _ r' none passed poller asleep =>
      obtain ⟨fuel, rfl⟩ : ∃ n, fuel = n + 1 := ⟨fuel - 1, by omega⟩
      exact ⟨[], r', pollUpTo_blocked hp hturn fuel, .none h (h.turn hp hturn) none passed poller asleep⟩
  · obtain ⟨held, r', he, drained⟩ := resume going passed poller
    exact ⟨held, r', he, drained.after passed⟩

/-- A poller that can run has not ended, so one poll drains the ring. -/
theorem Orderly.poll_drains {r : Relay EventRing} (h : r.Orderly) {s : PollerSlot} {t : Task}
    (hs : r.slot = some s) (filled : r.registry.isEmpty = false) (opened : r.source.closed = false)
    (ht : r.tasks.get? s.task = some t) (runnable : r.isRunnable t = true) :
    ∃ held r', r.poll s.task = (.blocked, r') ∧ r.Drained r' s held := by
  have unended : t.hasEnded = false := by
    unfold isRunnable at runnable
    cases he : t.hasEnded with
    | false => rfl
    | true => simp [he] at runnable
  have live : r.taskEnded s.task = false := by simp [taskEnded, ht, unended]
  obtain ⟨failures, stage, name, hp⟩ := h.alive hs live
  cases ht.symm.trans hp
  rw [poll_of_pollerAt ⟨name, hp⟩]
  apply drain_runnable ⟨h, hs, filled, opened⟩ hp runnable
  change r.source.slots.length + 3 ≤ 2 * (r.source.slots.length + r.source.line.waiters.length + 1) + 4
  omega

/-- While a fetch waits that nothing has woken, there is nothing to fetch. -/
theorem Orderly.asleep_drained {r : Relay EventRing} (h : r.Orderly) {id : TaskId} {failures : Nat} {token : TokenId}
    {ticket : Ticket} (hp : r.PollerAt id failures (.fetching token ticket)) (flag : r.isCancelled token = false)
    (asleep : EventSource.isAwake r.source ticket = false) (e : Stored) : ¬ r.source.Holds r.cursor e := by
  obtain ⟨w, waiters, rfl, stands⟩ := h.fetching hp
  have hc : r.hasController = true := by
    rcases h.held hp rfl with hm | hs
    · rw [isCancelled_iff.mpr hm] at flag
      contradiction
    · exact h.controller hs
  have unwoken : w.woken = false := by
    have quiet : (w.woken || w.interrupted) = false := (WaitLine.isAwake_one waiters).symm.trans asleep
    exact (Bool.or_eq_false_iff.mp quiet).1
  exact EventRing.find?_eq_none.mp ((stands hc).2 unwoken) e

/-- One poll of a poller that can run, over an open ring and with somebody registered, hands over just what the ring
holds past the cursor, each event once to everybody registered under its name, and ends in a fetch that waits. And
whenever a fetch waits that nothing has woken, the ring holds nothing past the cursor. -/
theorem poll_drains_ring {config : RingSize} {r : Relay EventRing} (h : Seen (EventRing.create config) r) :
    (∀ {s t}, r.slot = some s → r.registry.isEmpty = false → r.source.closed = false →
      r.tasks.get? s.task = some t → r.isRunnable t = true →
      (∀ name, (r.registry.membersOf name).Nodup ∧
        ∀ sub ∈ r.registry.membersOf name, r.hasSubscriber sub = true) ∧
      ∃ held r', r.poll s.task = (.blocked, r') ∧ r.Drained r' s held) ∧
    ∀ {id f token ticket}, r.PollerAt id f (.fetching token ticket) → r.isCancelled token = false →
      EventSource.isAwake r.source ticket = false →
      ∀ e ∈ r.source.slots, r.cursor.precedes e.time e.index = false := by
  have inv := seen_orderly h
  have known : ∀ {name sub}, sub ∈ r.registry.membersOf name → r.hasSubscriber sub = true := by
    intro name sub hm
    obtain ⟨x, hx⟩ := Table.get?_of_lt (inv.proper.member hm)
    exact Option.isSome_iff_exists.mpr ⟨x, hx⟩
  constructor
  · intro s t hs hr ho ht runnable
    exact ⟨fun name => ⟨inv.proper.nodup name, fun _ => known⟩, inv.poll_drains hs hr ho ht runnable⟩
  · intro id f token ticket hp flag asleep e he
    apply Bool.eq_false_iff.mpr
    intro past
    exact inv.asleep_drained hp flag asleep e ⟨he, past⟩

theorem poll_drains_ring_plain :
    let r := (plain (EventRing.create .standard)).follow
      [.request (.call (.add "a" 0)), .request (.call (.post (.named "a"))), .request (.call (.post (.named "b")))]
    r.slot = some ⟨0, 0⟩ ∧ ∃ held r', r.poll 0 = (.blocked, r') ∧ r.Drained r' ⟨0, 0⟩ held := by
  intro r
  have hs : r.slot = some ⟨0, 0⟩ := by decide
  have ht : r.tasks.get? 0 = some ⟨"rtevent-poller", .poller 0 .ready, none⟩ := by decide
  have seen : Seen (EventRing.create .standard) r := .between ((Reachable.created (plain_created _)).follow _)
  exact ⟨hs, ((poll_drains_ring seen).1 hs (by decide) (by decide) ht (by decide)).2⟩

end Relay

end EventRelay
