import EventRelay.Proofs.OnePoller
import EventRelay.Proofs.Turns

namespace EventRelay

namespace Relay

variable {σ : Type}

theorem passGate_going {r : Relay σ} {id : TaskId} {sub : SubId} {stage : WorkerStage} (h : r.WorkerAt id sub stage)
    {d : Delivery} {conduct : Conduct} (going : (r.passGate id sub d conduct).1 = .going) :
    (r.passGate id sub d conduct).2.WorkerAt id sub .idle := by
  unfold passGate at going ⊢
  split
  · exact leaveHandler_workerAt h d _
  · rename_i waits
    rw [if_neg waits] at going
    split at going
    · contradiction
    · rename_i permitted
      rw [if_neg permitted]
      have worker := (updateSubscriber_aside r sub (fun s => { s with permits := s.permits - 1 })).workerAt h
      exact leaveHandler_workerAt worker d _

def permitsOf (r : Relay σ) (sub : SubId) : Nat := ((r.subscribers.get? sub).map Subscriber.permits).getD 0

theorem permitsOf_update (r : Relay σ) (sub : SubId) {f : Subscriber → Subscriber}
    (hf : ∀ s, (f s).permits = s.permits) (sub' : SubId) :
    (r.updateSubscriber sub f).permitsOf sub' = r.permitsOf sub' := by
  unfold permitsOf
  change (((r.subscribers.update sub f).get? sub').map _).getD 0 = _
  rw [Table.get?_update]
  split
  · rw [Option.map_map]
    exact congrArg (Option.getD · 0) (Option.map_congr fun s _ => hf s)
  · rfl

theorem handTo_permitsOf (r : Relay σ) (sub : SubId) (d : Delivery) (sub' : SubId) :
    (r.handTo sub d).permitsOf sub' = r.permitsOf sub' := by
  unfold handTo
  split
  · rfl
  · split
    · exact permitsOf_update r sub (f := Subscriber.countDropped) (fun _ => rfl) sub'
    · unfold startWorker
      have appended := permitsOf_update r sub (f := (·.append d)) (fun _ => rfl) sub'
      split
      · exact appended
      · refine Eq.trans (permitsOf_update _ sub ?_ sub') appended
        exact fun _ => rfl

theorem dispatch_permitsOf (r : Relay σ) (targets : List SubId) (d : Delivery) (sub : SubId) :
    (r.dispatch targets d).permitsOf sub = r.permitsOf sub := by
  induction targets generalizing r with
  | nil => rfl
  | cons target rest ih => exact (ih (r.handTo target d)).trans (handTo_permitsOf r target d sub)

theorem handOut_permitsOf (r : Relay σ) (id : TaskId) (f : Fetched) (sub : SubId) :
    (r.handOut id f).permitsOf sub = r.permitsOf sub := by
  unfold handOut
  split
  · rfl
  · exact dispatch_permitsOf r _ _ sub

/-- No task but `id` was touched, and nobody got a permit. -/
structure Beside (id : TaskId) (r r' : Relay σ) : Prop where
  rows : ∀ {j t}, j ≠ id → r.tasks.get? j = some t → r'.tasks.get? j = some t
  permits : ∀ sub, r'.permitsOf sub = r.permitsOf sub

theorem Beside.trans {id : TaskId} {r r' r'' : Relay σ} (h : Beside id r r') (h' : Beside id r' r'') :
    Beside id r r'' :=
  ⟨fun hj ht => h'.rows hj (h.rows hj ht), fun sub => (h'.permits sub).trans (h.permits sub)⟩

theorem Beside.same {id : TaskId} {r r' : Relay σ} (ht : r'.tasks = r.tasks) (hs : r'.subscribers = r.subscribers) :
    Beside id r r' :=
  ⟨fun _ h => ht ▸ h, fun sub => by simp only [permitsOf, hs]⟩

theorem beside_updateTask (r : Relay σ) (id : TaskId) (f : Task → Task) :
    Beside id r { r with tasks := r.tasks.update id f } :=
  ⟨fun hj ht => by rw [Table.get?_update, if_neg (Ne.symm hj)]; exact ht, fun _ => rfl⟩

theorem handOut_beside (r : Relay σ) (id : TaskId) (f : Fetched) : Beside id r (r.handOut id f) :=
  ⟨fun _ ht => (handOut_aside r id f).rows _ _ ht, handOut_permitsOf r id f⟩

theorem moveCursor_beside (r : Relay σ) (id : TaskId) (f : Fetched) : Beside id r (r.moveCursor f) := by
  unfold moveCursor
  dsimp only
  split <;> exact .same rfl rfl

variable [EventSource σ]

/-- A bounded poll is not cut short, or the task would go on after so many steps. -/
theorem pollUpTo_cases {r : Relay σ} {id : TaskId} {turn : Turn} {r₀ : Relay σ} (h : r.Takes id turn r₀)
    (fuel : Nat) :
    Polled id r (r.pollUpTo id fuel).1 (r.pollUpTo id fuel).2 ∨ Goes id fuel r (r.pollUpTo id fuel).2 := by
  induction fuel generalizing r turn r₀ with
  | zero => exact .inr (.stay r)
  | succ fuel ih =>
    obtain ⟨name, work, ht, he⟩ := h
    have step : r.Takes id turn r₀ := ⟨name, work, ht, he⟩
    simp only [pollUpTo, ht, he]
    cases turn with
    | going =>
      obtain ⟨turn₁, r₁, more⟩ := step.next
      rcases ih more with polled | going
      · exact .inl (polled.after (.go step (.stay _)) more.live more.present)
      · exact .inr (.go step going)
    | blocked => exact .inl (.stops (.stay r) step rfl)
    | ended ending => cases ending <;> exact .inl (.stops (.stay r) step rfl)

/-- A worker takes one event with each step, and perhaps the one inside its handler before. -/
theorem workerTurn_going {r : Relay σ} {id : TaskId} {sub : SubId} {stage : WorkerStage}
    (h : r.WorkerAt id sub stage) (going : (r.workerTurn id sub stage).1 = .going) :
    (r.workerTurn id sub stage).2.WorkerAt id sub .idle ∧
    ((r.workerTurn id sub stage).2.pendingOf sub).length + (if stage = .idle then 1 else 0) ≤
      (r.pendingOf sub).length := by
  cases found : r.subscribers.get? sub with
  | none => simp [workerTurn, found, finish] at going
  | some s =>
    cases stage with
    | inside d =>
      have he : r.workerTurn id sub (.inside d) = r.passGate id sub d (s.handler.conduct d.event) := by
        simp only [workerTurn, found]
      rw [he] at going ⊢
      refine ⟨passGate_going h going, ?_⟩
      simpa using ((passGate_acts h d _).steady.pending sub).length_le
    | idle =>
      cases queue : s.pending with
      | nil => simp [workerTurn, found, queue, finish] at going
      | cons d rest =>
        have he : r.workerTurn id sub .idle =
            (r.updateSubscriber sub (fun s => { s with pending := rest })).enterHandler id sub s d := by
          simp only [workerTurn, found, queue]
        rw [he] at going ⊢
        obtain ⟨r', before, after⟩ := enterHandler_cases r id sub s d rest
        have worker := before.grown.workerAt ((beginHandling_aside r sub d rest).workerAt h)
        have waited : (r.pendingOf sub).length = rest.length + 1 := by simp [pendingOf, found, queue]
        have left : (r.beginHandling sub d rest).pendingOf sub = rest := by
          unfold beginHandling
          rw [pendingOf_update, if_pos rfl]
          change (((r.subscribers.update sub _).get? sub).map _).getD [] = rest
          rw [Table.get?_update_self, found]
          rfl
        have fewer : ∀ {r'' : Relay σ}, r'.Steady r'' → (r''.pendingOf sub).length + 1 ≤ (r.pendingOf sub).length := by
          intro r'' steady
          have all := ((before.acts.steady.trans steady).pending sub).length_le
          rw [left] at all
          omega
        rcases after with ⟨message, he'⟩ | ⟨conduct, he'⟩
        · rw [he'] at going ⊢
          exact ⟨leaveHandler_workerAt worker d _, fewer (leaveHandler_calm worker d _).toSteady⟩
        · rw [he'] at going ⊢
          exact ⟨passGate_going worker going, fewer (passGate_acts worker d conduct).steady⟩

theorem WorkerAt.going {r r' : Relay σ} {id : TaskId} {sub : SubId} {stage : WorkerStage}
    (h : r.WorkerAt id sub stage) (step : r.Takes id .going r') : r'.WorkerAt id sub .idle := by
  obtain ⟨name, ht⟩ := h
  obtain ⟨_, _, ht', he⟩ := step
  cases ht.symm.trans ht'
  change r.workerTurn id sub stage = _ at he
  have turn := workerTurn_going ⟨name, ht⟩ (congrArg Prod.fst he)
  rw [he] at turn
  exact turn.1

/-- A worker that goes on stays a worker. -/
theorem Goes.workerAt {id : TaskId} {n : Nat} {r r' : Relay σ} (going : Goes id n r r') {sub : SubId}
    {stage : WorkerStage} (h : r.WorkerAt id sub stage) : ∃ stage, r'.WorkerAt id sub stage := by
  induction going generalizing stage with
  | stay => exact ⟨stage, h⟩
  | go step _ ih => exact ih (h.going step)

theorem Goes.worker {id : TaskId} {n : Nat} {r r' : Relay σ} (going : Goes id n r r') {sub : SubId}
    {stage : WorkerStage} (h : r.WorkerAt id sub stage) :
    n ≤ (r.pendingOf sub).length + (if stage = .idle then 0 else 1) := by
  induction going generalizing stage with
  | stay => exact Nat.zero_le _
  | @go n r r₁ r' step _ ih =>
    obtain ⟨name, ht⟩ := h
    obtain ⟨_, _, ht', he⟩ := step
    cases ht.symm.trans ht'
    change r.workerTurn id sub stage = _ at he
    have turn := workerTurn_going ⟨name, ht⟩ (congrArg Prod.fst he)
    rw [he] at turn
    have rest := ih turn.1
    have fewer := turn.2
    simp only [if_true] at rest
    split at fewer <;> simp_all <;> omega

theorem Taken.beside {r : Relay σ} {id : TaskId} {failures : Nat} {token : TokenId} {result : FetchResult}
    {turn : Turn × Relay σ} (taken : r.Taken id failures token result turn) : Beside id r turn.2 := by
  cases taken with
  | orphaned => exact beside_updateTask r id _
  | exited =>
    have left : Beside id r ({ r with slot := none }.resetCursor.note (.pollerStopped r.sourceName)) := .same rfl rfl
    exact left.trans (beside_updateTask _ id _)
  | @passed f _ _ =>
    have told : Beside id r (r.note (.resultTaken id (.fetched f))) := .same rfl rfl
    exact ((told.trans (moveCursor_beside _ id f)).trans (handOut_beside _ id f)).trans (beside_updateTask _ id _)
  | @ignored _ fault _ _ _ _ =>
    have told : Beside id r ((r.note (.resultTaken id result)).note (.nothingFetched fault)) := .same rfl rfl
    exact told.trans (beside_updateTask _ id _)
  | @failed _ fault _ _ _ _ =>
    have told : Beside id r (r.note (.resultTaken id result)) := .same rfl rfl
    unfold pauseAfter
    split
    · exact told.trans (beside_updateTask _ id _)
    · rename_i delay _
      have reported : Beside id r ({ r.note (.resultTaken id result) with draws := r.draws + 1 }.note
          (.fetchFailed id r.sourceName fault (min (failures + 1) maxFailures) delay)) := .same rfl rfl
      exact reported.trans (beside_updateTask _ id _)

theorem PollerStep.beside {r : Relay σ} {id : TaskId} {failures : Nat} {stage : PollerStage} {turn : Turn × Relay σ}
    (step : r.PollerStep id failures stage turn) : Beside id r turn.2 := by
  have consulted_beside : ∀ {token reply r'}, r.Consulted id stage token reply r' → Beside id r r' := by
    intro token reply r' consulted
    cases consulted with
    | declined | asked | withdrawn | resumed => exact .same rfl rfl
  cases step with
  | orphaned => exact beside_updateTask r id _
  | exited =>
    have left : Beside id r ({ r with slot := none }.resetCursor.note (.pollerStopped r.sourceName)) := .same rfl rfl
    exact left.trans (beside_updateTask _ id _)
  | answered consulted => exact (consulted_beside consulted).trans (takeResult_taken ..).beside
  | queued consulted => exact (consulted_beside consulted).trans (beside_updateTask _ id _)
  | rested => exact beside_updateTask r id _
  | asleep | resting => exact .same rfl rfl

/-- A task that cannot run while the only poller takes a step cannot run after it. -/
theorem PollerStep.undisturbed {r : Relay σ} (h : r.Lifecycle) {id : TaskId} {failures : Nat} {stage : PollerStage}
    (hp : r.PollerAt id failures stage) {turn : Turn × Relay σ} (step : r.PollerStep id failures stage turn)
    {j : TaskId} {t : Task} (other : j ≠ id) (ht : r.tasks.get? j = some t) (waits : r.isRunnable t = false) :
    turn.2.tasks.get? j = some t ∧ turn.2.isRunnable t = false := by
  refine ⟨step.beside.rows other ht, ?_⟩
  obtain ⟨name, work, ending⟩ := t
  cases ending with
  | some ending => rfl
  | none =>
    cases work with
    | poller f p => exact absurd (h.unique ⟨name, ht⟩ hp) other
    | firing event targets => simp [isRunnable, Task.hasEnded] at waits
    | worker sub stage =>
      cases stage with
      | idle => simp [isRunnable, Task.hasEnded] at waits
      | inside d =>
        have same := step.beside.permits sub
        simp only [isRunnable, Task.hasEnded, Option.isSome_none, Bool.not_false, Bool.true_and] at waits ⊢
        exact (congrArg (· != 0) same).trans waits

/-- A poller that cannot run stays where it is. -/
theorem pollerTurn_blocked {r : Relay σ} {id : TaskId} {name : String} {failures : Nat} {stage : PollerStage}
    (waits : r.isRunnable ⟨name, .poller failures stage, none⟩ = false) :
    r.pollerTurn id failures stage = (.blocked, r) := by
  cases stage with
  | ready => simp [isRunnable, Task.hasEnded] at waits
  | fetching token ticket =>
    simp only [isRunnable, Task.hasEnded, Option.isSome_none, Bool.not_false, Bool.true_and, Bool.or_eq_false_iff]
      at waits
    simp [pollerTurn, resumeFetch, waits]
  | pausing token deadline =>
    simp only [isRunnable, Task.hasEnded, Option.isSome_none, Bool.not_false, Bool.true_and] at waits
    simp [pollerTurn, waits]

theorem PollerAt.going {r r' : Relay σ} {id : TaskId} {failures : Nat} {stage : PollerStage}
    (h : r.PollerAt id failures stage) (step : r.Takes id .going r') : ∃ f p, r'.PollerAt id f p := by
  obtain ⟨name, ht⟩ := h
  obtain ⟨_, _, name', work, ht', -⟩ := step.next
  obtain ⟨t', ht'', kind⟩ := step.leads.ongoing.kinds ht
  cases ht'.symm.trans ht''
  cases work with
  | poller f p => exact ⟨f, p, name', ht'⟩
  | worker | firing => contradiction

/-- What is a poller after a step was one before. -/
theorem Takes.was_poller {r r' : Relay σ} {id : TaskId} {turn : Turn} (step : r.Takes id turn r') {failures : Nat}
    {stage : PollerStage} (h : r'.PollerAt id failures stage) : ∃ f p, r.PollerAt id f p := by
  obtain ⟨_, ht⟩ := h
  have ongoing := step.leads.ongoing
  obtain ⟨name, work, ht', -⟩ := step
  obtain ⟨_, ht'', kind⟩ := ongoing.kinds ht'
  cases ht.symm.trans ht''
  cases work with
  | poller f p => exact ⟨f, p, name, ht'⟩
  | worker | firing => contradiction

/-- A poller that goes on stays a poller, and lets no task before it run. -/
theorem Goes.poller {id : TaskId} {n : Nat} {r r' : Relay σ} (going : Goes id n r r') (h : r.Lifecycle)
    {failures : Nat} {stage : PollerStage} (hp : r.PollerAt id failures stage)
    (first : ∀ j t, j < id → r.tasks.get? j = some t → r.isRunnable t = false) :
    (∃ f p, r'.PollerAt id f p) ∧ ∀ j t, j < id → r'.tasks.get? j = some t → r'.isRunnable t = false := by
  induction going generalizing failures stage with
  | stay r => exact ⟨⟨failures, stage, hp⟩, first⟩
  | @go n r r₁ r' step _ ih =>
    obtain ⟨f, p, poller⟩ := hp.going step
    obtain ⟨name, work, ht, he⟩ := step
    obtain ⟨_, hp'⟩ := hp
    cases ht.symm.trans hp'
    change r.pollerTurn id failures stage = _ at he
    have hp : r.PollerAt id failures stage := ⟨name, ht⟩
    have taken := pollerTurn_step r id failures stage
    have lifecycle := pollerTurn_lifecycle h hp
    rw [he] at taken lifecycle
    refine ih lifecycle poller fun j t hj ht' => ?_
    obtain ⟨u, hu⟩ : ∃ u, r.tasks.get? j = some u := by
      have inside := Table.lt_of_get? ht
      exact Table.get?_of_lt (Nat.lt_trans hj inside)
    obtain ⟨kept, waits⟩ := taken.undisturbed h hp (Nat.ne_of_lt hj) hu (first j u hj hu)
    cases kept.symm.trans ht'
    exact waits

/-- A poll is not cut short, or its task would go on after the number of steps that it was given. -/
theorem poll_polled (r : Relay σ) (id : TaskId) : Polled id r (r.poll id).1 (r.poll id).2 ∨
    ∃ t, r.tasks.get? id = some t ∧ t.hasEnded = false ∧ Goes id (r.turnBound t.work) r (r.poll id).2 := by
  unfold poll
  split
  · rename_i absent
    exact .inl (.absent absent)
  · rename_i t ht
    split
    · rename_i ended
      exact .inl (.ended (by simpa [taskEnded, ht] using ended))
    · rename_i live
      have live : t.hasEnded = false := by simpa using live
      obtain ⟨turn, r₀, step⟩ := takes_of_live ht live
      rcases pollUpTo_cases step (r.turnBound t.work) with polled | going
      · exact .inl polled
      · exact .inr ⟨t, ht, live, going⟩

/-- A worker takes no more steps than its bound. -/
theorem WorkerAt.polled {r : Relay σ} {id : TaskId} {sub : SubId} {stage : WorkerStage} (h : r.WorkerAt id sub stage) :
    Polled id r (r.poll id).1 (r.poll id).2 := by
  rcases poll_polled r id with polled | ⟨t, ht, -, going⟩
  · exact polled
  · have bound := going.worker h
    obtain ⟨name, ht'⟩ := h
    cases ht.symm.trans ht'
    simp only [turnBound, pendingOf] at bound
    cases hs : r.subscribers.get? sub <;> rw [hs] at bound <;> simp at bound <;> split at bound <;> omega

/-- Where a poll was cut short, its task is the next to be polled, or would have stopped there. -/
theorem poll_cases {r : Relay σ} (h : r.Lifecycle) {id : TaskId} (next : r.nextRunnable? = some id) :
    Polled id r (r.poll id).1 (r.poll id).2 ∨
    ∃ n, Goes id (n + 1) r (r.poll id).2 ∧
      ((r.poll id).2.nextRunnable? = some id ∨ (r.poll id).2.Takes id .blocked (r.poll id).2) := by
  obtain ⟨-, first⟩ := nextRunnable?_eq_some.mp next
  rcases poll_polled r id with polled | ⟨t, ht, live, going⟩
  · exact .inl polled
  · obtain ⟨name, work, ending⟩ := t
    cases ending with
    | some ending => contradiction
    | none =>
      cases work with
      | worker sub stage => exact .inl (WorkerAt.polled ⟨name, ht⟩)
      | firing event targets =>
        generalize (r.poll id).2 = r' at going
        simp only [turnBound] at going
        cases going with
        | go step' _ =>
          obtain ⟨_, _, ht', he'⟩ := step'
          cases ht.symm.trans ht'
          simp [Relay.turn, finish] at he'
      | poller failures stage =>
        right
        obtain ⟨⟨f, p, name', row⟩, before⟩ := going.poller h ⟨name, ht⟩ first
        refine ⟨2 * EventSource.backlog r.source + 3, going, ?_⟩
        generalize (r.poll id).2 = r' at row before ⊢
        cases runnable' : r'.isRunnable ⟨name', .poller f p, none⟩ with
        | true => exact .inl (nextRunnable?_eq_some.mpr ⟨⟨_, row, runnable'⟩, before⟩)
        | false => exact .inr ⟨name', _, row, pollerTurn_blocked runnable'⟩

/-- With enough polls, a run comes to rest in that state. -/
def ComesToRest (r r' : Relay σ) : Prop := ∃ polls, r.runUpTo polls = r' ∧ r'.nextRunnable? = none

theorem Reachable.lifecycle {source : σ} {r : Relay σ} (h : Reachable source r) : r.Lifecycle :=
  seen_lifecycle (.between h)

theorem settled_of_runUpTo {source : σ} {r r' : Relay σ} (h : Reachable source r) {polls : Nat}
    (run : r.runUpTo polls = r') (idle : r'.nextRunnable? = none) : Settled r r' := by
  induction polls generalizing r with
  | zero =>
    cases run
    exact .rests idle
  | succ polls ih =>
    simp only [runUpTo] at run
    split at run
    · cases run
      exact .rests idle
    · rename_i id next
      have rest := ih (h.leads (poll_leads r id)) run
      rcases poll_cases h.lifecycle next with polled | ⟨n, going, again | stuck⟩
      · exact .polls next polled rest
      · cases rest with
        | rests idle' =>
          rw [again] at idle'
          contradiction
        | polls next' polled rest =>
          cases again.symm.trans next'
          obtain ⟨⟨t, ht, runnable⟩, -⟩ := nextRunnable?_eq_some.mp again
          have live : (r.poll id).2.taskEnded id = false := by
            cases he : t.hasEnded with
            | false => simp [taskEnded, ht, he]
            | true => simp [isRunnable, he] at runnable
          exact .polls next (polled.after going live (by simp [ht])) rest
      · exact .polls next (.stops going stuck rfl) rest

/-- However short the polls of a run are cut, it does what uncut polls do. -/
theorem runUpTo_of_polled {source : σ} {id : TaskId} {r₁ r' : Relay σ} (later : ∃ polls, r₁.runUpTo polls = r')
    (steps : Nat) {r r₀ : Relay σ} (h : Reachable source r) (next : r.nextRunnable? = some id)
    (going : Goes id steps r r₀) {turn : Turn} {reply : PollReply} (step : r₀.Takes id turn r₁)
    (last : turn.reply? = some reply) : ∃ polls, r.runUpTo polls = r' := by
  -- a poll that was cut short leaves fewer steps to the next, which polls the same task
  induction steps using Nat.strongRecOn generalizing r with
  | ind steps ih =>
    have once : ∀ {polls}, (r.poll id).2.runUpTo polls = r' → ∃ polls, r.runUpTo polls = r' := by
      intro polls run
      refine ⟨polls + 1, ?_⟩
      simp only [runUpTo, next]
      exact run
    have whole : Polled id r reply r₁ := .stops going step last
    rcases poll_cases h.lifecycle next with polled | ⟨n, going', again | stuck⟩
    · obtain ⟨-, same⟩ := polled.unique whole
      obtain ⟨polls, run⟩ := later
      exact once (same ▸ run)
    · have le := going.stops_le step last going'
      obtain ⟨polls, run⟩ := ih (steps - (n + 1)) (by omega) (h.leads (poll_leads r id)) again (going'.split going le)
      exact once run
    · obtain ⟨-, same⟩ := Polled.unique (.stops going' stuck rfl) whole
      obtain ⟨polls, run⟩ := later
      exact once (same ▸ run)

/-- A run comes to rest where uncut polls come to rest. -/
theorem comesToRest_iff {source : σ} {r r' : Relay σ} (h : Reachable source r) :
    r.ComesToRest r' ↔ Settled r r' := by
  constructor
  · rintro ⟨polls, run, idle⟩
    exact settled_of_runUpTo h run idle
  · intro settled
    suffices run : ∃ polls, r.runUpTo polls = r' by
      obtain ⟨polls, run⟩ := run
      exact ⟨polls, run, settled.idle⟩
    induction settled with
    | rests _ => exact ⟨0, rfl⟩
    | @polls id reply r r₁ r' next polled _ ih =>
      obtain ⟨⟨t, ht, runnable⟩, -⟩ := nextRunnable?_eq_some.mp next
      have later := ih (h.leads polled.leads)
      cases polled with
      | absent absent =>
        rw [absent] at ht
        contradiction
      | ended ended =>
        have closed : t.hasEnded = true := by simpa [taskEnded, ht] using ended
        simp [isRunnable, closed] at runnable
      | stops going step last => exact runUpTo_of_polled later _ h next going step last

end Relay

/-- A step of a session, what was answered to it, and how it left the relay. -/
structure Moment (σ : Type) where
  step : RelayStep
  answer : RelayAnswer
  relay : Relay σ

namespace RelaySession

open Relay

variable {σ : Type} [EventSource σ]

/-- Steps that let no task run. -/
def isBrief : RelayStep → Bool
  | .run | .poll _ => false
  | _ => true

/-- A step is carried out to its end: a run until nothing is runnable, a poll until the task waits or has ended. -/
inductive Performed (r : Relay σ) : RelayStep → RelayAnswer → Relay σ → Prop
  | brief {x : RelayStep} (brief : isBrief x = true) : Performed r x (perform r x).1 (perform r x).2
  | run {r' : Relay σ} (rest : r.ComesToRest r') : Performed r .run .nothing r'
  | poll {id : TaskId} {reply : PollReply} {r' : Relay σ} (polled : Polled id r reply r') :
      Performed r (.poll id) (.poll reply) r'

/-- The steps of a scenario are carried out in turn. -/
inductive Played : Relay σ → List RelayStep → List (Moment σ) → Prop
  | finished (r : Relay σ) : Played r [] []
  | step {r r' : Relay σ} {x : RelayStep} {answer : RelayAnswer} {rest : List RelayStep} {trace : List (Moment σ)}
      (done : Performed r x answer r') (later : Played r' rest trace) :
      Played r (x :: rest) (⟨x, answer, r'⟩ :: trace)

theorem Performed.leads {r r' : Relay σ} {x : RelayStep} {answer : RelayAnswer} (h : Performed r x answer r') :
    r.Leads r' := by
  cases h with
  | brief => exact perform_leads r x
  | run rest =>
    obtain ⟨polls, rfl, -⟩ := rest
    exact runUpTo_leads r polls
  | poll polled => exact polled.leads

theorem Performed.unique {source : σ} {r r₁ r₂ : Relay σ} (hr : Reachable source r) {x : RelayStep}
    {answer answer' : RelayAnswer} (h : Performed r x answer r₁) (h' : Performed r x answer' r₂) :
    answer = answer' ∧ r₁ = r₂ := by
  cases h with
  | brief brief =>
    cases h' with
    | brief => exact ⟨rfl, rfl⟩
    | run | poll => contradiction
  | run rest =>
    cases h' with
    | brief brief => contradiction
    | run rest' => exact ⟨rfl, ((comesToRest_iff hr).mp rest).unique ((comesToRest_iff hr).mp rest')⟩
  | poll polled =>
    cases h' with
    | brief brief => contradiction
    | poll polled' =>
      obtain ⟨rfl, rfl⟩ := polled.unique polled'
      exact ⟨rfl, rfl⟩

/-- A scenario is carried out in one way at most. -/
theorem Played.unique {source : σ} {r : Relay σ} (hr : Reachable source r) {steps : List RelayStep}
    {trace trace' : List (Moment σ)} (h : Played r steps trace) (h' : Played r steps trace') : trace = trace' := by
  induction h generalizing trace' with
  | finished =>
    cases h'
    rfl
  | step done _ ih =>
    cases h' with
    | step done' later' =>
      obtain ⟨rfl, rfl⟩ := done.unique hr done'
      rw [ih (hr.leads done.leads) later']

end RelaySession

end EventRelay
