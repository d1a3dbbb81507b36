import EventRelay.Proofs.Act

namespace EventRelay

/-- The stop flag that a poller read before the fetch that it waits for, or pauses after. -/
def PollerStage.token? : PollerStage → Option TokenId
  | .ready => none
  | .fetching token _ => some token
  | .pausing token _ => some token

/-- The fault that an answer without an event stands for. -/
def FetchResult.fault? : FetchResult → Option FetchFault
  | .fetched _ => none
  | .failed fault => some fault
  | .panicked message => some (.failed ("source panicked: " ++ message))

namespace Relay

variable {σ : Type}

/-- The cursor moves to a fetched event. -/
def moveCursor (r : Relay σ) (f : Fetched) : Relay σ :=
  let moved := { r with cursor := r.cursor.moveTo f.index }
  if r.cursor.skipped f.index = 0 then moved
  else moved.note (.eventsSkipped f.event.name f.index (r.cursor.skipped f.index))

/-- A fetched event is handed to those registered under its name. -/
def handOut (r : Relay σ) (id : TaskId) (f : Fetched) : Relay σ :=
  if (r.registry.membersOf f.event.name).isEmpty then r.note (.unclaimed f.event.name f.index)
  else r.dispatch (r.registry.membersOf f.event.name) ⟨f.event.indexed f.index, id⟩

theorem moveCursor_aside (r : Relay σ) (f : Fetched) :
    Aside { r with cursor := r.cursor.moveTo f.index } (r.moveCursor f) := by
  unfold moveCursor
  dsimp only
  split
  · exact .refl _
  · exact note_aside _ _

theorem handOut_aside (r : Relay σ) (id : TaskId) (f : Fetched) : r.Aside (r.handOut id f) := by
  unfold handOut
  split
  · exact note_aside r _
  · exact dispatch_aside r _ _

theorem passOn_eq (r : Relay σ) (id : TaskId) (f : Fetched) :
    r.passOn id f = (.going, ((r.moveCursor f).handOut id f).setWork id (.poller 0 .ready)) := rfl

/-- The source, the registry and the handles are left alone, and there are as many subscribers. -/
structure LeavesAlone (r r' : Relay σ) : Prop where
  source : r'.source = r.source
  registry : r'.registry = r.registry
  handles : r'.handles = r.handles
  size : r'.subscribers.size = r.subscribers.size

theorem LeavesAlone.trans {r r' r'' : Relay σ} (h : r.LeavesAlone r') (h' : r'.LeavesAlone r'') :
    r.LeavesAlone r'' :=
  ⟨h'.source.trans h.source, h'.registry.trans h.registry, h'.handles.trans h.handles, h'.size.trans h.size⟩

theorem Still.leavesAlone {r r' : Relay σ} (h : r.Still r') : r.LeavesAlone r' :=
  ⟨h.source, h.registry, h.handles, h.size⟩

theorem passOn_leavesAlone (r : Relay σ) (id : TaskId) (f : Fetched) : r.LeavesAlone (r.passOn id f).2 := by
  have moved : r.LeavesAlone { r with cursor := r.cursor.moveTo f.index } := ⟨rfl, rfl, rfl, rfl⟩
  have noted := (moveCursor_aside r f).toStill.leavesAlone
  have out := (handOut_aside (r.moveCursor f) id f).toStill.leavesAlone
  have worked : ((r.moveCursor f).handOut id f).LeavesAlone (r.passOn id f).2 := ⟨rfl, rfl, rfl, rfl⟩
  exact ((moved.trans noted).trans out).trans worked

/-- No unfinished poller but this one. -/
def Sole (r : Relay σ) (id : TaskId) : Prop := ∀ j f p, r.PollerAt j f p → j = id

theorem Sole.same {r r' : Relay σ} {id : TaskId} (h : r.Sole id) (hs : r.SameControl r') : r'.Sole id :=
  fun j f p hp => h j f p (hs.pollerAt.mp hp)

theorem Sole.setWork {r : Relay σ} {id : TaskId} (h : r.Sole id) {failures : Nat} {stage : PollerStage} {j f p}
    (hp : (r.setWork id (.poller failures stage)).PollerAt j f p) : p = stage := by
  rcases setWork_pollerAt_cases hp with ⟨-, -, he⟩ | ⟨hne, hp⟩
  · exact he
  · exact absurd (h _ _ _ hp) hne

theorem Sole.endTask {r : Relay σ} {id : TaskId} (h : r.Sole id) (ending : Ending) {j f p} :
    ¬ (r.endTask id ending).PollerAt j f p := by
  intro hp
  obtain ⟨hne, hp⟩ := endTask_pollerAt_iff.mp hp
  exact hne (h _ _ _ hp)

variable [EventSource σ]

/-- A poller at a stage came to hold a token and an answer. A raised flag counts as an interrupt; only a poller that
was not told to stop asks the source. -/
inductive Consulted (r : Relay σ) (id : TaskId) : PollerStage → TokenId → FetchReply → Relay σ → Prop
  | declined {s : PollerSlot} (controller : r.hasController = true) (filled : r.registry.isEmpty = false)
      (slot : r.slot = some s) (flag : r.isCancelled s.token = true) :
      Consulted r id .ready s.token (.ready (.failed .interrupted)) r
  | asked {s : PollerSlot} {reply : FetchReply} {source : σ} (controller : r.hasController = true)
      (filled : r.registry.isEmpty = false) (slot : r.slot = some s) (flag : r.isCancelled s.token = false)
      (answer : EventSource.fetch r.source r.cursor = (reply, source)) :
      Consulted r id .ready s.token reply { r.note (.fetchStarted id r.cursor) with source }
  | withdrawn {token : TokenId} {ticket : Ticket} (flag : r.isCancelled token = true) :
      Consulted r id (.fetching token ticket) token (.ready (.failed .interrupted))
        { r with source := EventSource.cancel r.source ticket }
  | resumed {token : TokenId} {ticket : Ticket} {reply : FetchReply} {source : σ}
      (flag : r.isCancelled token = false) (awake : EventSource.isAwake r.source ticket = true)
      (answer : EventSource.resume r.source ticket (r.surroundings.arrivalFirst r.choices) = (reply, source)) :
      Consulted r id (.fetching token ticket) token reply { r with choices := r.choices + 1, source }

/-- All that a step of a poller can be. -/
inductive PollerStep (r : Relay σ) (id : TaskId) (failures : Nat) : PollerStage → Turn × Relay σ → Prop
  | orphaned (alone : r.hasController = true → r.slot = none) :
      PollerStep r id failures .ready (r.finish id .finished)
  | exited (controller : r.hasController = true) (empty : r.registry.isEmpty = true) :
      PollerStep r id failures .ready (r.exitPoller id)
  | answered {stage : PollerStage} {token : TokenId} {result : FetchResult} {r' : Relay σ}
      (consulted : r.Consulted id stage token (.ready result) r') :
      PollerStep r id failures stage (r'.takeResult id failures token result)
  | queued {stage : PollerStage} {token : TokenId} {ticket : Ticket} {r' : Relay σ}
      (consulted : r.Consulted id stage token (.pending ticket) r') :
      PollerStep r id failures stage (.blocked, r'.setWork id (.poller failures (.fetching token ticket)))
  | asleep {token : TokenId} {ticket : Ticket} (flag : r.isCancelled token = false)
      (still : EventSource.isAwake r.source ticket = false) :
      PollerStep r id failures (.fetching token ticket) (.blocked, r)
  | rested {token : TokenId} {deadline : Nat} (elapsed : r.isCancelled token = true ∨ deadline ≤ r.now) :
      PollerStep r id failures (.pausing token deadline) (.going, r.setWork id (.poller failures .ready))
  | resting {token : TokenId} {deadline : Nat} (flag : r.isCancelled token = false) (early : r.now < deadline) :
      PollerStep r id failures (.pausing token deadline) (.blocked, r)

theorem prepareFetch_step (r : Relay σ) (id : TaskId) (failures : Nat) :
    r.PollerStep id failures .ready (r.prepareFetch id failures) := by
  unfold prepareFetch
  cases hc : r.hasController with
  | false => exact .orphaned (by simp [hc])
  | true =>
    cases hr : r.registry.isEmpty with
    | true => exact .exited hc hr
    | false =>
      cases hs : r.slot with
      | none => exact .orphaned fun _ => hs
      | some s =>
        simp only [Bool.not_true, Bool.false_eq_true, if_false, beginFetch]
        split
        · rename_i hf
          exact .answered (.declined hc hr hs hf)
        · rename_i hf
          have flag : r.isCancelled s.token = false := by simpa using hf
          change PollerStep _ _ _ _ (afterFetch _ _ _ _ (EventSource.fetch r.source r.cursor))
          rcases ha : EventSource.fetch r.source r.cursor with ⟨reply, source⟩
          cases reply with
          | ready result => exact .answered (.asked hc hr hs flag ha)
          | pending ticket => exact .queued (.asked hc hr hs flag ha)

theorem resumeFetch_step (r : Relay σ) (id : TaskId) (failures : Nat) (token : TokenId) (ticket : Ticket) :
    r.PollerStep id failures (.fetching token ticket) (r.resumeFetch id failures token ticket) := by
  unfold resumeFetch
  split
  · rename_i hf
    exact .answered (.withdrawn hf)
  · rename_i hf
    have flag : r.isCancelled token = false := by simpa using hf
    split
    · rename_i awake
      rcases ha : EventSource.resume r.source ticket (r.surroundings.arrivalFirst r.choices) with ⟨reply, source⟩
      cases reply with
      | ready result => exact .answered (.resumed flag awake ha)
      | pending ticket => exact .queued (.resumed flag awake ha)
    · rename_i still
      exact .asleep flag (by simpa using still)

theorem pollerTurn_step (r : Relay σ) (id : TaskId) (failures : Nat) (stage : PollerStage) :
    r.PollerStep id failures stage (r.pollerTurn id failures stage) := by
  cases stage with
  | ready => exact prepareFetch_step r id failures
  | fetching token ticket => exact resumeFetch_step r id failures token ticket
  | pausing token deadline =>
    simp only [pollerTurn]
    split
    · rename_i h
      exact .rested (by simpa using h)
    · rename_i h
      simp only [Bool.or_eq_true, decide_eq_true_eq, not_or, Bool.not_eq_true, Nat.not_le] at h
      exact .resting h.1 h.2

/-- All that becomes of an answer. -/
inductive Taken (r : Relay σ) (id : TaskId) (failures : Nat) (token : TokenId) :
    FetchResult → Turn × Relay σ → Prop
  | orphaned {result : FetchResult} (alone : r.hasController = false) :
      Taken r id failures token result (r.finish id .finished)
  | exited {result : FetchResult} (controller : r.hasController = true) (empty : r.registry.isEmpty = true) :
      Taken r id failures token result (r.exitPoller id)
  | passed {f : Fetched} (controller : r.hasController = true) (filled : r.registry.isEmpty = false) :
      Taken r id failures token (.fetched f)
        (.going, (((r.note (.resultTaken id (.fetched f))).moveCursor f).handOut id f).setWork id
          (.poller 0 .ready))
  | ignored {result : FetchResult} {fault : FetchFault} (controller : r.hasController = true)
      (filled : r.registry.isEmpty = false) (stands : result.fault? = some fault) (soft : fault.isFailure = false) :
      Taken r id failures token result
        (.going, ((r.note (.resultTaken id result)).note (.nothingFetched fault)).setWork id
          (.poller failures .ready))
  | failed {result : FetchResult} {fault : FetchFault} (controller : r.hasController = true)
      (filled : r.registry.isEmpty = false) (stands : result.fault? = some fault) (hard : fault.isFailure = true) :
      Taken r id failures token result ((r.note (.resultTaken id result)).pauseAfter id failures token fault)

theorem takeFault_taken {r : Relay σ} {id : TaskId} {failures : Nat} {token : TokenId} {result : FetchResult}
    {fault : FetchFault} (hc : r.hasController = true) (hr : r.registry.isEmpty = false)
    (stands : result.fault? = some fault) :
    r.Taken id failures token result ((r.note (.resultTaken id result)).takeFault id failures token fault) := by
  unfold takeFault
  split
  · rename_i hard
    exact .failed hc hr stands hard
  · rename_i soft
    exact .ignored hc hr stands (by simpa using soft)

theorem takeResult_taken (r : Relay σ) (id : TaskId) (failures : Nat) (token : TokenId) (result : FetchResult) :
    r.Taken id failures token result (r.takeResult id failures token result) := by
  unfold takeResult
  cases hc : r.hasController with
  | false => exact .orphaned hc
  | true =>
    cases hr : r.registry.isEmpty with
    | true => exact .exited hc hr
    | false =>
      cases result with
      | fetched f => exact .passed hc hr
      | failed fault => exact takeFault_taken hc hr rfl
      | panicked message =>
        have stands : (FetchResult.panicked message).fault? = some (.failed ("source panicked: " ++ message)) := rfl
        exact takeFault_taken hc hr stands

theorem Consulted.sameControl {r r' : Relay σ} {id : TaskId} {stage : PollerStage} {token : TokenId}
    {reply : FetchReply} (h : r.Consulted id stage token reply r') : r.SameControl r' := by
  cases h with
  | declined | asked | withdrawn | resumed => exact ⟨rfl, rfl, rfl, rfl, rfl, rfl, rfl, fun _ _ _ => Iff.rfl⟩

theorem Consulted.size {r r' : Relay σ} {id : TaskId} {stage : PollerStage} {token : TokenId}
    {reply : FetchReply} (h : r.Consulted id stage token reply r') :
    r'.subscribers.size = r.subscribers.size := by
  cases h with
  | declined | asked | withdrawn | resumed => rfl

/-- The token is the one that the poller held already, or the one in the slot. -/
theorem Consulted.token {r r' : Relay σ} {id : TaskId} {stage : PollerStage} {token : TokenId} {reply : FetchReply}
    (h : r.Consulted id stage token reply r') :
    stage.token? = some token ∨ (r.hasController = true ∧ ∃ s, r.slot = some s ∧ s.token = token) := by
  cases h with
  | declined hc _ hs _ => exact .inr ⟨hc, _, hs, rfl⟩
  | asked hc _ hs _ _ => exact .inr ⟨hc, _, hs, rfl⟩
  | withdrawn | resumed => exact .inl rfl

theorem Taken.leavesAlone {r : Relay σ} {id : TaskId} {failures : Nat} {token : TokenId} {result : FetchResult}
    {turn : Turn × Relay σ} (h : r.Taken id failures token result turn) : r.LeavesAlone turn.2 := by
  cases h with
  | orphaned | exited | ignored => exact ⟨rfl, rfl, rfl, rfl⟩
  | @passed f _ _ =>
    have told := (note_aside r (.resultTaken id (.fetched f))).toStill.leavesAlone
    exact told.trans (passOn_leavesAlone _ id f)
  | failed =>
    unfold pauseAfter
    split <;> exact ⟨rfl, rfl, rfl, rfl⟩

/-- A poller that took an answer does not wait for another one at once. -/
theorem Taken.not_fetching {r : Relay σ} {id : TaskId} {failures : Nat} {token : TokenId} {result : FetchResult}
    {turn : Turn × Relay σ} (taken : r.Taken id failures token result turn) (h : r.Sole id) {j f token' ticket} :
    ¬ turn.2.PollerAt j f (.fetching token' ticket) := by
  intro hp
  have noted : ∀ o, (r.note o).Sole id := fun o => h.same (note_aside r o).toSameControl
  cases taken with
  | orphaned => exact h.endTask .finished hp
  | exited =>
    have left : ({ r with slot := none }.resetCursor.note (.pollerStopped r.sourceName)).Sole id := h
    exact left.endTask .finished hp
  | @passed f _ _ =>
    have told : Sole { r.note (.resultTaken id (.fetched f)) with cursor := r.cursor.moveTo f.index } id :=
      noted (.resultTaken id (.fetched f))
    have moved := told.same (moveCursor_aside (r.note _) f).toSameControl
    have stage := (moved.same (handOut_aside _ id f).toSameControl).setWork hp
    contradiction
  | @ignored _ fault _ _ _ _ =>
    have told := (noted (.resultTaken id result)).same (note_aside _ (.nothingFetched fault)).toSameControl
    have stage := told.setWork hp
    contradiction
  | failed =>
    unfold pauseAfter at hp
    split at hp
    · exact (noted _).endTask .panicked hp
    · have told := noted (.resultTaken id result)
      have stage := Sole.setWork (r := { r.note (.resultTaken id result) with draws := r.draws + 1 }.note _) told hp
      contradiction

end Relay

end EventRelay
