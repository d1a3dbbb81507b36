import EventRelay.Proofs.Queue
import EventRelay.Proofs.Unwinding
import Mathlib.Data.List.Forall2

namespace EventRelay

namespace Occurrence

/-- What a handler other than that of `x` does, with what is answered to its calls. -/
def doingBut? (x : SubId) : Occurrence → Option HandlerEntry
  | .entered party d => if party.id = x then none else some (.entered party.id d.event)
  | .completed party d => if party.id = x then none else some (.completed party.id d.event)
  | .reacted party (.call c) reply => if party.id = x then none else some (.reacted party.id (.call c) reply)
  | _ => none

def fetchedAt? : Occurrence → Option Cursor
  | .fetchStarted _ cursor => some cursor
  | _ => none

end Occurrence

namespace Sight

def doing? : Sight → Option HandlerEntry
  | .entered sub event => some (.entered sub event)
  | .completed sub event => some (.completed sub event)
  | .replied sub c reply => some (.reacted sub (.call c) reply)
  | _ => none

def fetchedAt? : Sight → Option Cursor
  | .began cursor => some cursor
  | _ => none

end Sight

/-- What everybody but the subscriber `x` sees of a step and of all that happened until then. -/
structure Moment.SameBut {σ : Type} (x : SubId) (m m' : Moment σ) : Prop where
  step : m.step = m'.step
  calls : ∀ c, m.step = .command (.call c) → m.answer = m'.answer
  doings : m.relay.story.filterMap (Occurrence.doingBut? x) = m'.relay.story.filterMap (Occurrence.doingBut? x)
  fetches : m.relay.story.filterMap Occurrence.fetchedAt? = m'.relay.story.filterMap Occurrence.fetchedAt?
  registry : m.relay.registry = m'.relay.registry
  cursor : m.relay.cursor = m'.relay.cursor

namespace Vantage

open Relay

variable {σ : Type} [EventSource σ]

/-- Everything is seen but the business of one subscriber. -/
def beside (σ : Type) [EventSource σ] (sub : SubId) : Vantage σ where
  hidden := some sub
  watchesFetches := true
  mask := id
  name same := congrArg EventSource.name same
  interrupt same := congrArg EventSource.interrupt same
  close same := congrArg EventSource.close same
  push items same := congrArg (EventSource.push · items) same
  refused same refused := (congrArg (EventSource.post · _ _) same.symm).trans refused
  posted same posted := ⟨_, (congrArg (EventSource.post · _ _) same.symm).trans posted, rfl⟩

theorem beside_hides (x sub : SubId) : (beside σ x).hides sub = true ↔ sub = x := by
  unfold hides beside
  rw [beq_iff_eq, Option.some.injEq, eq_comm]

/-- The workers of the hidden subscriber. -/
def Unseen (v : Vantage σ) (r : Relay σ) (id : TaskId) : Prop :=
  ∃ t, r.tasks.get? id = some t ∧ v.shows t.work = false

end Vantage

namespace Relay

variable {σ : Type}

/-- Replaces the handler of a subscriber. -/
def rehandle (r : Relay σ) (sub : SubId) (handler : Handler) : Relay σ :=
  r.updateSubscriber sub (fun s => { s with handler })

theorem Created.rehandle {source : σ} {r : Relay σ} (h : Created source r) (sub : SubId) (handler : Handler) :
    Created source (r.rehandle sub handler) := by
  obtain ⟨settings, surroundings, handlers, h⟩ := h
  obtain ⟨bus, room, rfl⟩ := Option.map_eq_some_iff.mp h
  refine ⟨settings, surroundings, handlers.modify sub (fun h => (handler, h.2)), ?_⟩
  have rows : (handlers.modify sub (fun h => (handler, h.2))).map (fun h => Subscriber.create h.1 h.2) =
      (handlers.map fun h => Subscriber.create h.1 h.2).modify sub (fun s => { s with handler }) := by
    apply List.ext_getElem?
    intro i
    simp only [List.getElem?_map, List.getElem?_modify]
    split <;> cases handlers[i]? <;> rfl
  simp only [create?, rows, room, Option.map_some]
  rfl

/-- The worker of a queue waits for a permit that is not there, or there is none. -/
def Stalled (r : Relay σ) (id : TaskId) (sub : SubId) : Prop :=
  (∃ d, r.WorkerAt id sub (.inside d) ∧ r.permitsOf sub = 0) ∨ (r.station sub).slot = none

theorem passGate_stalled {r r' : Relay σ} {id : TaskId} {sub : SubId} {stage : WorkerStage}
    (h : r.WorkerAt id sub stage) {d : Delivery} {conduct : Conduct} {turn : Turn}
    (passed : r.passGate id sub d conduct = (turn, r')) (stops : turn ≠ .going) : r'.Stalled id sub := by
  unfold passGate at passed
  split at passed
  · exact absurd (congrArg Prod.fst passed).symm stops
  · split at passed
    · rename_i closed
      cases passed
      exact .inl ⟨d, setWork_workerAt h (.inside d), closed⟩
    · exact absurd (congrArg Prod.fst passed).symm stops

variable [EventSource σ]

/-- A worker that does not go on waits for a permit that is not there, or has given up its queue. -/
theorem workerTurn_stalled {r r' : Relay σ} {id : TaskId} {sub : SubId} {stage : WorkerStage}
    (h : r.WorkerAt id sub stage) {turn : Turn} (taken : r.workerTurn id sub stage = (turn, r'))
    (stops : turn ≠ .going) : r'.Stalled id sub := by
  cases found : r.subscribers.get? sub with
  | none =>
    simp only [workerTurn, found] at taken
    cases taken
    right
    have absent : (r.endTask id .finished).subscribers.get? sub = none := found
    simp [station, Station.ofSubscriber, absent]
  | some s =>
    cases stage with
    | inside d =>
      simp only [workerTurn, found] at taken
      exact passGate_stalled h taken stops
    | idle =>
      cases queue : s.pending with
      | nil =>
        simp only [workerTurn, found, queue] at taken
        cases taken
        right
        have left : ((r.updateSubscriber sub (fun s => { s with worker := none })).endTask id
            .finished).subscribers.get? sub = some { s with worker := none } := by
          change (r.subscribers.update sub _).get? sub = _
          rw [Table.get?_update_self, found]
          rfl
        simp [station, Station.ofSubscriber, left]
      | cons d rest =>
        simp only [workerTurn, found, queue] at taken
        obtain ⟨r₁, before, after⟩ := enterHandler_cases r id sub s d rest
        have worker := before.grown.workerAt ((beginHandling_aside r sub d rest).workerAt h)
        rcases after with ⟨message, he⟩ | ⟨conduct, he⟩
        · rw [he] at taken
          exact absurd (congrArg Prod.fst taken).symm stops
        · rw [he] at taken
          exact passGate_stalled worker taken stops

/-- Then no worker of that queue can run. -/
theorem Stalled.waits {source : σ} {r : Relay σ} (hr : Reachable source r) {id : TaskId} {sub : SubId}
    (stalled : r.Stalled id sub) {j : TaskId} {name : String} {stage : WorkerStage}
    (ht : r.tasks.get? j = some ⟨name, .worker sub stage, none⟩) :
    r.isRunnable ⟨name, .worker sub stage, none⟩ = false := by
  have sound := reachable_sound hr sub
  have worker := workersOf_eq_some.mpr ⟨name, ht⟩
  rcases stalled with ⟨d, worker', closed⟩ | vacant
  · have slot := sound.slot_of worker
    rw [sound.slot_of (workersOf_eq_some.mpr worker')] at slot
    cases slot
    obtain ⟨name', ht'⟩ := worker'
    cases ht.symm.trans ht'
    unfold permitsOf at closed
    simp [isRunnable, closed]
  · have unserved := sound.unserved vacant j
    rw [show (r.station sub).workers j = r.workersOf sub j from rfl, worker] at unserved
    contradiction

theorem polled_stalled {r r' : Relay σ} {id : TaskId} {sub : SubId} {stage : WorkerStage}
    (worker : r.WorkerAt id sub stage) {reply : PollReply} (polled : Polled id r reply r') : r'.Stalled id sub := by
  cases polled with
  | absent absent =>
    obtain ⟨name, ht⟩ := worker
    rw [absent] at ht
    contradiction
  | ended ended =>
    obtain ⟨name, ht⟩ := worker
    simp [taskEnded, ht, Task.hasEnded] at ended
  | stops going step last =>
    obtain ⟨stage', worker'⟩ := going.workerAt worker
    obtain ⟨name, ht⟩ := worker'
    obtain ⟨_, _, ht', he⟩ := step
    cases ht.symm.trans ht'
    refine workerTurn_stalled ⟨name, ht⟩ he ?_
    rintro rfl
    contradiction

end Relay

namespace Vantage

open Relay

variable {σ : Type} [EventSource σ] {x : SubId} {r r' : Relay σ} {i j : TaskId}

theorem Unseen.worker {v : Vantage σ} (h : v.Unseen r i) (live : r.taskEnded i = false) :
    ∃ sub stage, v.hides sub = true ∧ r.WorkerAt i sub stage := by
  obtain ⟨⟨name, work, ending⟩, ht, unseen⟩ := h
  cases ending with
  | some => simp [taskEnded, ht, Task.hasEnded] at live
  | none =>
    cases work with
    | poller | firing => simp [shows] at unseen
    | worker sub stage => exact ⟨sub, stage, by simpa [shows] using unseen, name, ht⟩

theorem Alike.step_alone {v : Vantage σ} {r₁ : Relay σ} {sub : SubId} {stage : WorkerStage} (h : v.Like r r')
    (hides : v.hides sub = true) (worker : r.WorkerAt i sub stage) {turn : Turn} (step : r.Takes i turn r₁) :
    v.Like r₁ r' := by
  obtain ⟨name, ht⟩ := worker
  obtain ⟨_, _, ht', he⟩ := step
  cases ht.symm.trans ht'
  change r.workerTurn i sub stage = _ at he
  have alike := h.back.workerTurn_right hides ht (by simp [shows, hides]) stage
  rw [he] at alike
  exact alike.back

/-- A worker of the hidden subscriber takes its steps alone. -/
theorem Alike.goes_alone {v : Vantage σ} {n : Nat} {r₁ : Relay σ} {sub : SubId} {stage : WorkerStage} (h : v.Like r r')
    (hides : v.hides sub = true) (worker : r.WorkerAt i sub stage) (going : Goes i n r r₁) : v.Like r₁ r' := by
  induction going generalizing stage with
  | stay => exact h
  | go step rest ih => exact ih (h.step_alone hides worker step) (worker.going step)

theorem beside_unwinds (source : σ) (x : SubId) : (beside σ x).Unwinds source (beside σ x).Unseen where
  seen {r i t} ht seen := by
    cases hs : (beside σ x).shows t.work with
    | true => rfl
    | false => exact absurd ⟨t, ht, hs⟩ seen
  runnable {r r' i j t t'} _ _ h twins ht ht' _ runnable := by
    refine ⟨(h.isRunnable_of_clear (fun _ => rfl) rfl twins ht ht').symm.trans runnable, ?_⟩
    rintro ⟨u, hu, unseen⟩
    rw [twins.shown_right hu] at unseen
    contradiction
  together {r r' r₁ i j reply} _ _ h twins _ polled := by
    refine polled_together (P := fun _ => True) ?_ polled trivial h twins
    intro r r' r₁ turn _ h step
    exact ⟨trivial, h.takes ⟨rfl, rfl⟩ step fun f p f' p' _ _ same =>
      h.pollerTurn (fun _ => rfl) rfl ⟨rfl, rfl⟩ same⟩
  alone {r r' r₁ i reply} _ h unseen polled := by
    cases polled with
    | absent | ended => exact h
    | stops going step last =>
      obtain ⟨sub, stage, hides, worker⟩ := unseen.worker (going.live step)
      obtain ⟨stage', worker'⟩ := going.workerAt worker
      exact (h.goes_alone hides worker going).step_alone hides worker' step
  rests {r i} hr next unseen := by
    obtain ⟨sub, stage, hides, worker⟩ := unseen.worker (nextRunnable?_live next)
    refine ⟨_, _, worker.polled, fun j next' unseen' => ?_⟩
    obtain ⟨sub', stage', hides', worker'⟩ := unseen'.worker (nextRunnable?_live next')
    obtain rfl : sub = sub' := ((beside_hides x sub).mp hides).trans ((beside_hides x sub').mp hides').symm
    have waits := (polled_stalled worker worker.polled).waits (hr.leads worker.polled.leads) worker'.choose_spec
    obtain ⟨⟨t, ht, runnable⟩, -⟩ := nextRunnable?_eq_some.mp next'
    cases ht.symm.trans worker'.choose_spec
    rw [runnable] at waits
    contradiction

theorem Alike.sameBut (h : (beside σ x).Like r r') {step : RelayStep} {answer answer' : RelayAnswer}
    (calls : ∀ c, step = .command (.call c) → answer = answer') :
    Moment.SameBut x ⟨step, answer, r⟩ ⟨step, answer', r'⟩ where
  step := rfl
  calls := calls
  doings := by
    refine h.story Sight.doing? fun o => ?_
    have hides : ∀ sub, (beside σ x).hides sub = decide (sub = x) := fun sub => by
      rw [Bool.eq_iff_iff, beside_hides, decide_eq_true_iff]
    cases o with
    | entered party d | completed party d =>
      by_cases he : party.id = x <;> simp [Occurrence.doingBut?, sight?, Sight.doing?, hides, he]
    | reacted party c reply =>
      cases c <;> by_cases he : party.id = x <;> simp [Occurrence.doingBut?, sight?, Sight.doing?, hides, he]
    | resultTaken task result => cases result <;> rfl
    | _ => rfl
  fetches := by
    refine h.story Sight.fetchedAt? fun o => ?_
    cases o with
    | entered party d | completed party d =>
      simp only [Occurrence.fetchedAt?, sight?]
      split <;> rfl
    | reacted party c reply =>
      cases c <;> simp only [Occurrence.fetchedAt?, sight?] <;> try split
      all_goals rfl
    | resultTaken task result => cases result <;> rfl
    | _ => rfl
  registry := h.registry
  cursor := h.cursor

theorem beside_played {source : σ} {steps : List RelayStep} (unnumbered : ∀ id, RelayStep.poll id ∉ steps)
    {trace : List (Moment σ)} (played : RelaySession.Played r steps trace) (hr : Reachable source r)
    (hr' : Reachable source r') (h : (beside σ x).Like r r') :
    ∃ trace', RelaySession.Played r' steps trace' ∧ List.Forall₂ (Moment.SameBut x) trace trace' := by
  induction played generalizing r' with
  | finished => exact ⟨[], .finished r', .nil⟩
  | @step r r₁ step answer rest trace done _ ih =>
    suffices next : ∃ answer' r₁', RelaySession.Performed r' step answer' r₁' ∧ (beside σ x).Like r₁ r₁' ∧
        ∀ c, step = .command (.call c) → answer = answer' by
      obtain ⟨answer', r₁', done', alike, calls⟩ := next
      obtain ⟨trace', later', same⟩ := ih (fun id hm => unnumbered id (List.mem_cons_of_mem _ hm))
        (hr.leads done.leads) (hr'.leads done'.leads) alike
      exact ⟨_, .step done' later', .cons (alike.sameBut calls) same⟩
    cases done with
    | brief brief =>
      refine ⟨_, _, .brief brief, h.brief brief, ?_⟩
      rintro c rfl
      exact congrArg RelayAnswer.reply (h.call c).1
    | poll polled => exact absurd List.mem_cons_self (unnumbered _)
    | run rest =>
      obtain ⟨r₁', settled, alike⟩ := (beside_unwinds source x).settled ((comesToRest_iff hr).mp rest) hr hr' h
      exact ⟨.nothing, r₁', .run ((comesToRest_iff hr').mpr settled), alike, fun _ _ => rfl⟩

end Vantage

namespace Relay

variable {σ : Type} [EventSource σ]

/-- Another handler in the place of one that makes no requests changes nothing for anybody else: the same scenario is
carried out in one way, and everything else in it stays the same, step by step. -/
theorem handler_is_isolated {source : σ} {start : Relay σ} (created : Created source start) {x : SubId}
    (quiet : ∀ s, start.subscribers.get? x = some s → s.reactions = []) (handler : Handler) {steps : List RelayStep}
    (unnumbered : ∀ id, RelayStep.poll id ∉ steps) {trace : List (Moment σ)}
    (played : RelaySession.Played start steps trace) :
    ∃ trace', (∀ other, RelaySession.Played (start.rehandle x handler) steps other ↔ other = trace') ∧
      List.Forall₂ (Moment.SameBut x) trace trace' := by
  have like : (Vantage.beside σ x).Like start start := by
    refine Vantage.created_like created fun sub s hides hs => quiet s ?_
    rwa [← (Vantage.beside_hides x sub).mp hides]
  have like' : (Vantage.beside σ x).Like start (start.rehandle x handler) :=
    like.update_right ((Vantage.beside_hides x x).mpr rfl) fun _ quiet => quiet
  have reachable : Reachable source (start.rehandle x handler) := .created (created.rehandle x handler)
  obtain ⟨trace', played', same⟩ := Vantage.beside_played unnumbered played (.created created) reachable like'
  refine ⟨trace', fun other => ⟨fun h => h.unique reachable played', ?_⟩, same⟩
  rintro rfl
  exact played'

/-- Two are given an event. The handler of the one, which just returned, now waits for ever. -/
theorem handler_is_isolated_plain :
    let returns : Handler := ⟨"plain", none, .plain, false⟩
    let waits : Handler := ⟨"plain", none, fun _ => ⟨none, true, none⟩, false⟩
    let start := { plain (EventRing.create .standard) with
      subscribers := .ofList [.create returns [], .create returns []] }
    let steps : List RelayStep := [.command (.call (.add "a" 0)), .command (.call (.add "a" 1)),
      .command (.call (.post (.named "a"))), .run]
    let posted := (((start.perform (.call (.add "a" 0))).2.perform (.call (.add "a" 1))).2.perform
      (.call (.post (.named "a")))).2
    (posted.runUpTo 4).enteredBy 1 = [⟨(Event.named "a").indexed 0, 0⟩] ∧
    ∃ trace trace', RelaySession.Played start steps trace ∧
      trace.getLast? = some ⟨.run, .nothing, posted.runUpTo 4⟩ ∧
      RelaySession.Played (start.rehandle 0 waits) steps trace' ∧ List.Forall₂ (Moment.SameBut 0) trace trace' := by
  intro returns waits start steps posted
  have created : Created (EventRing.create .standard) start :=
    ⟨.standard, RelaySession.counting, [(returns, []), (returns, [])], by
      simp [create?, start, plain, Settings.busRoom, Settings.standard, Bus.create?, Bus.maxCapacity]⟩
  have quiet : ∀ s, start.subscribers.get? 0 = some s → s.reactions = [] := by
    rintro s ⟨⟩
    rfl
  -- for any relay first, so that nothing is computed while the steps are put together
  have playing : ∀ r : Relay EventRing,
      let posted := (((r.perform (.call (.add "a" 0))).2.perform (.call (.add "a" 1))).2.perform
        (.call (.post (.named "a")))).2
      (posted.runUpTo 4).nextRunnable? = none →
        ∃ a b c, RelaySession.Played r steps [a, b, c, ⟨.run, .nothing, posted.runUpTo 4⟩] := by
    intro r posted idle
    exact ⟨_, _, _,
      .step (.brief rfl) (.step (.brief rfl) (.step (.brief rfl) (.step (.run ⟨4, rfl, idle⟩) (.finished _))))⟩
  obtain ⟨a, b, c, played⟩ := playing start (by decide)
  obtain ⟨trace', only, same⟩ := handler_is_isolated created quiet waits (by simp [steps]) played
  exact ⟨by decide, _, trace', played, rfl, (only trace').mpr rfl, same⟩

end Relay

end EventRelay
