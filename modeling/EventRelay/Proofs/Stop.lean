import EventRelay.Proofs.OnePoller

namespace EventRelay

namespace Relay

variable {σ : Type} [EventSource σ]

theorem poll_of_pollerAt {r : Relay σ} {id : TaskId} {failures : Nat} {stage : PollerStage}
    (h : r.PollerAt id failures stage) :
    r.poll id = r.pollUpTo id (2 * EventSource.backlog r.source + 4) := by
  obtain ⟨name, ht⟩ := h
  simp [poll, ht, Task.hasEnded, turnBound]

theorem pollUpTo_going {r r' : Relay σ} {id : TaskId} {failures : Nat} {stage : PollerStage}
    (h : r.PollerAt id failures stage) (ht : r.pollerTurn id failures stage = (.going, r')) (fuel : Nat) :
    r.pollUpTo id (fuel + 1) = r'.pollUpTo id fuel := by
  obtain ⟨name, hw⟩ := h
  simp only [pollUpTo, hw, turn, ht]

theorem pollUpTo_blocked {r r' : Relay σ} {id : TaskId} {failures : Nat} {stage : PollerStage}
    (h : r.PollerAt id failures stage) (ht : r.pollerTurn id failures stage = (.blocked, r')) (fuel : Nat) :
    r.pollUpTo id (fuel + 1) = (.blocked, r') := by
  obtain ⟨name, hw⟩ := h
  simp only [pollUpTo, hw, turn, ht]

theorem pollUpTo_finished {r r' : Relay σ} {id : TaskId} {failures : Nat} {stage : PollerStage}
    (h : r.PollerAt id failures stage) (ht : r.pollerTurn id failures stage = (.ended .finished, r')) (fuel : Nat) :
    r.pollUpTo id (fuel + 1) = (.finished, r') := by
  obtain ⟨name, hw⟩ := h
  simp only [pollUpTo, hw, turn, ht]

theorem isRunnable_of_raised {r : Relay σ} {name : String} {failures : Nat} {stage : PollerStage}
    (raised : ∀ token, stage.token? = some token → r.isCancelled token = true) :
    r.isRunnable ⟨name, .poller failures stage, none⟩ = true := by
  cases stage with
  | ready => rfl
  | fetching token _ | pausing token _ => simp [isRunnable, Task.hasEnded, raised token rfl]

end Relay

end EventRelay
