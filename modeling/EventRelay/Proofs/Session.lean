import EventRelay.Proofs.Lifecycle

namespace EventRelay

namespace Relay

variable {σ : Type}

theorem taskEnded_of_workerAt {r : Relay σ} {id : TaskId} {sub : SubId} {stage : WorkerStage}
    (h : r.WorkerAt id sub stage) : r.taskEnded id = false := by
  obtain ⟨name, ht⟩ := h
  simp [taskEnded, ht, Task.hasEnded]

/-- A worker stays a worker. -/
theorem setWork_workerAt {r : Relay σ} {id : TaskId} {sub : SubId} {stage : WorkerStage}
    (h : r.WorkerAt id sub stage) (stage' : WorkerStage) :
    (r.setWork id (.worker sub stage')).WorkerAt id sub stage' := by
  obtain ⟨name, ht⟩ := h
  exact ⟨name, by simp [setWork_get?, ht]⟩

theorem leaveHandler_workerAt {r : Relay σ} {id : TaskId} {sub : SubId} {stage : WorkerStage}
    (h : r.WorkerAt id sub stage) (d : Delivery) (panic : Option String) :
    (r.leaveHandler id sub d panic).2.WorkerAt id sub .idle := by
  rw [leaveHandler_eq]
  exact setWork_workerAt ((reportOutcome_aside r sub d panic).workerAt h) .idle

/-- A task that does not say that it has ended has not ended. -/
def Lasts (id : TaskId) (turn : Turn × Relay σ) : Prop :=
  (∀ ending, turn.1 ≠ .ended ending) → turn.2.taskEnded id = false

theorem finish_lasts (r : Relay σ) (id : TaskId) (ending : Ending) : Lasts id (r.finish id ending) :=
  fun unended => absurd rfl (unended ending)

theorem lasts_of_pollerAt {id : TaskId} {turn : Turn × Relay σ} {failures : Nat} {stage : PollerStage}
    (h : turn.2.PollerAt id failures stage) : Lasts id turn :=
  fun _ => taskEnded_of_pollerAt h

theorem lasts_of_workerAt {id : TaskId} {turn : Turn × Relay σ} {sub : SubId} {stage : WorkerStage}
    (h : turn.2.WorkerAt id sub stage) : Lasts id turn :=
  fun _ => taskEnded_of_workerAt h

theorem passGate_lasts {r : Relay σ} {id : TaskId} {sub : SubId} {stage : WorkerStage}
    (h : r.WorkerAt id sub stage) (d : Delivery) (conduct : Conduct) : Lasts id (r.passGate id sub d conduct) := by
  unfold passGate
  split
  · exact lasts_of_workerAt (leaveHandler_workerAt h d _)
  · split
    · exact lasts_of_workerAt (setWork_workerAt h (.inside d))
    · have worker := (updateSubscriber_aside r sub (fun s => { s with permits := s.permits - 1 })).workerAt h
      exact lasts_of_workerAt (leaveHandler_workerAt worker d _)

variable [EventSource σ]

theorem workerTurn_lasts {r : Relay σ} {id : TaskId} {sub : SubId} {stage : WorkerStage}
    (h : r.WorkerAt id sub stage) : Lasts id (r.workerTurn id sub stage) := by
  unfold workerTurn
  split
  · exact finish_lasts r id _
  · rename_i s _
    cases stage with
    | inside d => exact passGate_lasts h d _
    | idle =>
      dsimp only
      split
      · exact finish_lasts _ id _
      · rename_i d rest _
        obtain ⟨r', before, after⟩ := enterHandler_cases r id sub s d rest
        have worker := before.grown.workerAt ((beginHandling_aside r sub d rest).workerAt h)
        rcases after with ⟨message, he⟩ | ⟨conduct, he⟩
        · rw [he]
          exact lasts_of_workerAt (leaveHandler_workerAt worker d _)
        · rw [he]
          exact passGate_lasts worker d conduct

theorem Taken.lasts {r : Relay σ} {id : TaskId} {failures : Nat} {token : TokenId} {result : FetchResult}
    {turn : Turn × Relay σ} (taken : r.Taken id failures token result turn) {stage : PollerStage}
    (h : r.PollerAt id failures stage) : Lasts id turn := by
  cases taken with
  | orphaned => exact finish_lasts r id _
  | exited => exact finish_lasts _ id _
  | @passed f _ _ =>
    have told : (r.note (.resultTaken id (.fetched f))).PollerAt id failures stage := h
    have moved := (moveCursor_aside (r.note (.resultTaken id (.fetched f))) f).pollerAt told
    exact lasts_of_pollerAt (setWork_pollerAt ((handOut_aside _ id f).pollerAt moved) 0 .ready)
  | @ignored _ fault _ _ _ _ =>
    have told : ((r.note (.resultTaken id result)).note (.nothingFetched fault)).PollerAt id failures stage := h
    exact lasts_of_pollerAt (setWork_pollerAt told failures .ready)
  | @failed _ fault _ _ _ _ =>
    unfold pauseAfter
    split
    · exact finish_lasts _ id _
    · rename_i delay _
      have told : ({ r.note (.resultTaken id result) with draws := r.draws + 1 }.note
          (.fetchFailed id r.sourceName fault (min (failures + 1) maxFailures) delay)).PollerAt id failures stage := h
      exact lasts_of_pollerAt (setWork_pollerAt told _ _)

theorem PollerStep.lasts {r : Relay σ} {id : TaskId} {failures : Nat} {stage : PollerStage} {turn : Turn × Relay σ}
    (step : r.PollerStep id failures stage turn) (h : r.PollerAt id failures stage) : Lasts id turn := by
  cases step with
  | orphaned => exact finish_lasts r id _
  | exited => exact finish_lasts _ id _
  | answered consulted => exact (takeResult_taken ..).lasts (consulted.sameControl.pollerAt.mpr h)
  | queued consulted =>
    exact lasts_of_pollerAt (setWork_pollerAt (consulted.sameControl.pollerAt.mpr h) failures _)
  | rested => exact lasts_of_pollerAt (setWork_pollerAt h failures .ready)
  | asleep | resting => exact lasts_of_pollerAt h

/-- No task ends without saying so. -/
theorem turn_lasts {r : Relay σ} {id : TaskId} {t : Task} (ht : r.tasks.get? id = some t) (live : t.hasEnded = false) :
    Lasts id (r.turn id t.work) := by
  obtain ⟨name, work, ending⟩ := t
  cases ending with
  | some ending => contradiction
  | none =>
    cases work with
    | poller failures stage => exact (pollerTurn_step r id failures stage).lasts ⟨name, ht⟩
    | worker sub stage => exact workerTurn_lasts ⟨name, ht⟩
    | firing event targets => exact finish_lasts _ id _

/-- A run of moves leads from one state to the other. -/
def Leads (r r' : Relay σ) : Prop := ∃ moves, r' = r.follow moves

theorem Leads.refl (r : Relay σ) : r.Leads r := ⟨[], rfl⟩

theorem Leads.trans {r r' r'' : Relay σ} (h : r.Leads r') (h' : r'.Leads r'') : r.Leads r'' := by
  obtain ⟨before, rfl⟩ := h
  obtain ⟨after, rfl⟩ := h'
  exact ⟨before ++ after, (follow_append r before after).symm⟩

theorem Leads.move (r : Relay σ) (m : Move) : r.Leads (r.move m) := ⟨[m], rfl⟩

theorem Reachable.leads {source : σ} {r r' : Relay σ} (h : Reachable source r) (hl : r.Leads r') :
    Reachable source r' := by
  obtain ⟨moves, rfl⟩ := hl
  exact h.follow moves

/-- A poll takes the steps of one task. -/
theorem pollUpTo_leads {r : Relay σ} {id : TaskId} (live : r.taskEnded id = false) (fuel : Nat) :
    r.Leads (r.pollUpTo id fuel).2 := by
  induction fuel generalizing r with
  | zero => exact .refl r
  | succ fuel ih =>
    simp only [pollUpTo]
    cases ht : r.tasks.get? id with
    | none => exact .refl r
    | some t =>
      have unended : t.hasEnded = false := by simpa [taskEnded, ht] using live
      have moved := Leads.move r (.turn id)
      have lasts := turn_lasts ht unended
      simp only [Relay.move, advance, ht, unended, Bool.false_eq_true, if_false] at moved
      dsimp only
      rcases he : r.turn id t.work with ⟨turn, r'⟩
      rw [he] at moved lasts
      cases turn with
      | going =>
        apply moved.trans (ih (lasts _))
        intro ending he
        contradiction
      | blocked => exact moved
      | ended ending => cases ending <;> exact moved

theorem poll_leads (r : Relay σ) (id : TaskId) : r.Leads (r.poll id).2 := by
  unfold poll
  split
  · exact .refl r
  · rename_i t ht
    split
    · exact .refl r
    · rename_i unended
      apply pollUpTo_leads
      simpa [taskEnded, ht] using unended

theorem runUpTo_leads (r : Relay σ) (fuel : Nat) : r.Leads (r.runUpTo fuel) := by
  induction fuel generalizing r with
  | zero => exact .refl r
  | succ fuel ih =>
    simp only [runUpTo]
    split
    · exact .refl r
    · rename_i id _
      exact (poll_leads r id).trans (ih _)

theorem receiveUpTo_leads (r : Relay σ) (key : String) (fuel : Nat) :
    r.Leads (RelaySession.withBus r (r.bus.receiveUpTo key fuel).2) := by
  induction fuel generalizing r with
  | zero => exact .refl r
  | succ fuel ih =>
    have received := Leads.move r (.receive key)
    simp only [Relay.move] at received
    simp only [Bus.receiveUpTo]
    rcases he : r.bus.receive key with ⟨answer, bus⟩
    rw [he] at received
    have later := received.trans (ih _)
    cases answer with
    | notice n => exact later
    | lagged n => exact later
    | empty => exact received
    | closed => exact received
    | noReceiver => exact received

end Relay

namespace RelaySession

open Relay

variable {σ : Type} [EventSource σ]

theorem perform_leads (r : Relay σ) (x : RelayStep) : r.Leads (perform r x).2 := by
  cases x with
  | command c => exact .move r (.request c)
  | run => exact runUpTo_leads r pollLimit
  | poll task => exact poll_leads r task
  | sleep d => exact .move r (.sleep d)
  | cloneHandle => exact .move r .cloneHandle
  | dropHandle => exact .move r .dropHandle
  | notices =>
    simp only [perform]
    split
    · exact .refl r
    · exact receiveUpTo_leads r observer _
  | renewReceiver =>
    simp only [perform]
    split
    · exact .move r (.subscribe observer)
    · exact .move r (.unsubscribe observer)

end RelaySession

end EventRelay
