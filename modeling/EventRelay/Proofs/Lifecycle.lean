import EventRelay.Proofs.Poller

namespace EventRelay

namespace Relay

variable {σ : Type}

/-- A poller died because no delay could be computed after a fetch that failed. -/
def DiedPausing (r : Relay σ) (id : TaskId) : Prop :=
  ∃ name failures stage draw, r.tasks.get? id = some ⟨name, .poller failures stage, some .panicked⟩ ∧
    r.settings.backoff.delay? failures draw = none

/-- The controller knows its poller, whoever is registered. A flag that the poller still holds, though the slot
has a new one by now, was raised. -/
structure Tracked (r : Relay σ) : Prop where
  unique : ∀ {i j f g} {p q : PollerStage}, r.PollerAt i f p → r.PollerAt j g q → i = j
  gone : r.hasController = false → r.slot = none
  current : r.hasController = true → ∀ {id f stage}, r.PollerAt id f stage →
    ∃ token, r.slot = some ⟨id, token⟩
  since : ∀ {s}, r.slot = some s → r.cursor.since.isSome = true
  task : ∀ {s}, r.slot = some s → (∃ f stage, r.PollerAt s.task f stage) ∨ r.DiedPausing s.task
  unset : r.hasController = true → r.slot = none → r.cursor = .unset
  held : ∀ {id f stage token}, r.PollerAt id f stage → stage.token? = some token →
    token ∈ r.cancelled ∨ r.slot = some ⟨id, token⟩
  spent : ∀ {token}, token ∈ r.cancelled → token < r.tokens
  issued : ∀ {s}, r.slot = some s → s.token < r.tokens

/-- The poller follows the registry: its flag is raised exactly while nobody is registered, and it is alive then. -/
structure Lifecycle (r : Relay σ) : Prop extends Tracked r where
  vacant : r.slot = none → r.registry.isEmpty = true
  flag : ∀ {s}, r.slot = some s → r.isCancelled s.token = r.registry.isEmpty
  stopping : ∀ {s}, r.slot = some s → r.registry.isEmpty = true → ∃ f stage, r.PollerAt s.task f stage

/-- Where a slot is occupied, there is a controller. -/
theorem Tracked.controller {r : Relay σ} (h : r.Tracked) {s : PollerSlot} (hs : r.slot = some s) :
    r.hasController = true := by
  cases hc : r.hasController with
  | true => rfl
  | false =>
    rw [h.gone hc] at hs
    contradiction

theorem SameControl.hasController {r r' : Relay σ} (h : r.SameControl r') :
    r'.hasController = r.hasController := by
  simp only [Relay.hasController, h.handles]

theorem SameControl.diedPausing {r r' : Relay σ} (h : r.SameControl r') {id : TaskId}
    (hd : r.DiedPausing id) : r'.DiedPausing id := by
  obtain ⟨name, f, stage, draw, ht, hn⟩ := hd
  exact ⟨name, f, stage, draw, (h.pollers id _ rfl).mpr ht, by rw [h.settings]; exact hn⟩

theorem Tracked.same {r r' : Relay σ} (h : r.Tracked) (hs : r.SameControl r') : r'.Tracked where
  unique hp hq := h.unique (hs.pollerAt.mp hp) (hs.pollerAt.mp hq)
  gone hc := by
    rw [hs.slot]
    exact h.gone (hs.hasController ▸ hc)
  current hc _ _ _ hp := by
    rw [hs.slot]
    exact h.current (hs.hasController ▸ hc) (hs.pollerAt.mp hp)
  since hr := by
    rw [hs.cursor]
    exact h.since (hs.slot ▸ hr)
  task hr := by
    rcases h.task (hs.slot ▸ hr) with ⟨f, stage, hp⟩ | hd
    · exact .inl ⟨f, stage, hs.pollerAt.mpr hp⟩
    · exact .inr (hs.diedPausing hd)
  unset hc hr := by
    rw [hs.cursor]
    exact h.unset (hs.hasController ▸ hc) (hs.slot ▸ hr)
  held hp ht := by
    rw [hs.cancelled, hs.slot]
    exact h.held (hs.pollerAt.mp hp) ht
  spent ht := by
    rw [hs.tokens]
    exact h.spent (hs.cancelled ▸ ht)
  issued hr := by
    rw [hs.tokens]
    exact h.issued (hs.slot ▸ hr)

theorem Lifecycle.same {r r' : Relay σ} (h : r.Lifecycle) (hs : r.SameControl r') : r'.Lifecycle where
  toTracked := h.toTracked.same hs
  vacant hr := by
    rw [hs.registry]
    exact h.vacant (hs.slot ▸ hr)
  flag hr := by
    rw [isCancelled, hs.cancelled, hs.registry]
    exact h.flag (hs.slot ▸ hr)
  stopping hr he := by
    obtain ⟨f, stage, hp⟩ := h.stopping (hs.slot ▸ hr) (hs.registry ▸ he)
    exact ⟨f, stage, hs.pollerAt.mpr hp⟩

theorem isCancelled_iff {r : Relay σ} {token : TokenId} : r.isCancelled token = true ↔ token ∈ r.cancelled := by
  simp [isCancelled]

theorem taskEnded_of_pollerAt {r : Relay σ} {id : TaskId} {failures : Nat} {stage : PollerStage}
    (h : r.PollerAt id failures stage) : r.taskEnded id = false := by
  obtain ⟨name, ht⟩ := h
  simp [taskEnded, ht, Task.hasEnded]

theorem taskEnded_of_diedPausing {r : Relay σ} {id : TaskId} (h : r.DiedPausing id) : r.taskEnded id = true := by
  obtain ⟨name, f, stage, draw, ht, -⟩ := h
  simp [taskEnded, ht, Task.hasEnded]

theorem Changed.hasController {r r' : Relay σ} {registry : Registry} (h : r.Changed registry r') :
    r'.hasController = r.hasController :=
  h.aside.toSameControl.hasController

theorem Tracked.changed {r r' : Relay σ} (h : r.Tracked) {registry : Registry} (hr : r.Changed registry r') :
    r'.Tracked :=
  Tracked.same (r := { r with registry })
    ⟨h.unique, h.gone, h.current, h.since, h.task, h.unset, h.held, h.spent, h.issued⟩ hr.aside.toSameControl

/-- A poller that has ended without saying so was the last one. -/
theorem Tracked.no_poller {r : Relay σ} (h : r.Tracked) (hc : r.hasController = true)
    (hs : ∀ s, r.slot = some s → r.taskEnded s.task = true) (id : TaskId) (f : Nat) (stage : PollerStage) :
    ¬ r.PollerAt id f stage := by
  intro hp
  obtain ⟨token, hslot⟩ := h.current hc hp
  have ended := hs _ hslot
  rw [taskEnded_of_pollerAt hp] at ended
  contradiction

theorem Tracked.revive {r : Relay σ} (h : r.Tracked) {s : PollerSlot} (hs : r.slot = some s)
    (hf : r.isCancelled s.token = true) (hr : r.registry.isEmpty = false) : (r.revivePoller s).Lifecycle where
  unique := h.unique
  gone hg := by
    rw [h.gone hg] at hs
    contradiction
  current hc _ _ _ hp := by
    obtain ⟨token, he⟩ := h.current hc hp
    rw [hs] at he
    cases he
    exact ⟨r.tokens, rfl⟩
  since _ := h.since hs
  task he := by
    cases he
    exact h.task (s := s) hs
  unset _ he := by contradiction
  -- the flag in the slot was raised, so a poller that still holds it is told to stop
  held hp ht := by
    rcases h.held hp ht with hm | he
    · exact .inl hm
    · rw [hs] at he
      cases he
      exact .inl (isCancelled_iff.mp hf)
  spent ht := Nat.lt_succ_of_lt (h.spent ht)
  issued he := by
    cases he
    exact Nat.lt_succ_self r.tokens
  vacant he := by contradiction
  flag he := by
    cases he
    change r.cancelled.contains r.tokens = r.registry.isEmpty
    rw [hr]
    simpa using fun ht => Nat.lt_irrefl _ (h.spent ht)
  stopping _ he := by
    change r.registry.isEmpty = true at he
    rw [hr] at he
    contradiction

theorem Tracked.alive {r : Relay σ} (h : r.Tracked) {s : PollerSlot} (hs : r.slot = some s)
    (ha : r.taskEnded s.task = false) : ∃ f stage, r.PollerAt s.task f stage := by
  rcases h.task hs with hp | hd
  · exact hp
  · rw [taskEnded_of_diedPausing hd] at ha
    contradiction

theorem Lifecycle.with_handles {r : Relay σ} (h : r.Lifecycle) {n : Nat} (hn : (n != 0) = r.hasController) :
    { r with handles := n }.Lifecycle where
  unique := h.unique
  gone hg := h.gone (hn.symm.trans hg)
  current hc := h.current (hn.symm.trans hc)
  since := h.since
  task := h.task
  unset hc := h.unset (hn.symm.trans hc)
  held := h.held
  spent := h.spent
  issued := h.issued
  vacant := h.vacant
  flag := h.flag
  stopping := h.stopping

/-- A poller that goes on holds a flag that was raised, or the one in the slot. -/
theorem setWork_lifecycle {r : Relay σ} (h : r.Lifecycle) {id : TaskId} {failures : Nat} {stage : PollerStage}
    (hp : r.PollerAt id failures stage) (failures' : Nat) {stage' : PollerStage}
    (ht : ∀ token, stage'.token? = some token → token ∈ r.cancelled ∨ r.slot = some ⟨id, token⟩) :
    (r.setWork id (.poller failures' stage')).Lifecycle := by
  have back : ∀ {j f p}, (r.setWork id (.poller failures' stage')).PollerAt j f p → ∃ g q, r.PollerAt j g q := by
    intro j f p hj
    rcases setWork_pollerAt_cases hj with ⟨rfl, -, -⟩ | ⟨-, hj⟩
    · exact ⟨failures, stage, hp⟩
    · exact ⟨f, p, hj⟩
  have forth : ∀ {j f p}, r.PollerAt j f p →
      ∃ g q, (r.setWork id (.poller failures' stage')).PollerAt j g q := by
    intro j f p hj
    cases h.unique hj hp
    exact ⟨failures', stage', setWork_pollerAt hp failures' stage'⟩
  refine ⟨⟨?_, h.gone, ?_, h.since, ?_, h.unset, ?_, h.spent, h.issued⟩, h.vacant, h.flag, ?_⟩
  · intro i j f g p q hi hj
    obtain ⟨_, _, hi⟩ := back hi
    obtain ⟨_, _, hj⟩ := back hj
    exact h.unique hi hj
  · intro hc j f p hj
    obtain ⟨_, _, hj⟩ := back hj
    exact h.current hc hj
  · intro s hs
    rcases h.task hs with ⟨f, p, hj⟩ | hd
    · exact .inl (forth hj)
    · right
      obtain ⟨name, f, p, draw, hd, hn⟩ := hd
      have hne : id ≠ s.task := by
        rintro rfl
        obtain ⟨name', hp⟩ := hp
        rw [hp] at hd
        cases hd
      exact ⟨name, f, p, draw, by rw [setWork_get?, if_neg hne]; exact hd, hn⟩
  · intro j f p token hj htok
    rcases setWork_pollerAt_cases hj with ⟨rfl, rfl, rfl⟩ | ⟨-, hj⟩
    · exact ht token htok
    · exact h.held hj htok
  · intro s hs he
    obtain ⟨f, p, hj⟩ := h.stopping hs he
    exact forth hj

/-- While nobody is registered, a poller waits for a flag that was raised, however often it was revived. -/
theorem Lifecycle.raised {r : Relay σ} (h : r.Lifecycle) {s : PollerSlot} (hs : r.slot = some s)
    (hr : r.registry.isEmpty = true) {failures : Nat} {stage : PollerStage}
    (hp : r.PollerAt s.task failures stage) {token : TokenId} (ht : stage.token? = some token) :
    r.isCancelled token = true := by
  rcases h.held hp ht with hm | he
  · exact isCancelled_iff.mpr hm
  · have ht : s.token = token := congrArg PollerSlot.token (Option.some.inj (hs.symm.trans he))
    exact ht ▸ (h.flag hs).trans hr

variable [EventSource σ]

theorem startPoller_get? (r : Relay σ) (id : TaskId) :
    r.startPoller.tasks.get? id =
      if id = r.tasks.size then some ⟨r.settings.pollerName, .poller 0 .ready, none⟩ else r.tasks.get? id :=
  Table.get?_add r.tasks _ id

theorem startPoller_pollerAt {r : Relay σ} (hn : ∀ id f stage, ¬ r.PollerAt id f stage) {id : TaskId} {f : Nat}
    {stage : PollerStage} (hp : r.startPoller.PollerAt id f stage) : id = r.tasks.size ∧ stage = .ready := by
  obtain ⟨name, ht⟩ := hp
  rw [startPoller_get?] at ht
  split at ht
  · rename_i hid
    cases ht
    exact ⟨hid, rfl⟩
  · exact absurd ⟨name, ht⟩ (hn id f stage)

/-- Where no poller is left, a new one can be started. -/
theorem startPoller_lifecycle {r : Relay σ} (hc : r.hasController = true) (hr : r.registry.isEmpty = false)
    (hn : ∀ id f stage, ¬ r.PollerAt id f stage) (spent : ∀ {token}, token ∈ r.cancelled → token < r.tokens) :
    r.startPoller.Lifecycle where
  unique hp hq := (startPoller_pollerAt hn hp).1.trans (startPoller_pollerAt hn hq).1.symm
  gone hg := by
    change r.hasController = false at hg
    rw [hc] at hg
    contradiction
  current _ _ _ _ hp := by
    obtain ⟨rfl, -⟩ := startPoller_pollerAt hn hp
    exact ⟨r.tokens, rfl⟩
  since _ := rfl
  task hs := by
    cases hs
    exact .inl ⟨0, .ready, r.settings.pollerName, by rw [startPoller_get?, if_pos rfl]⟩
  unset _ hs := by contradiction
  held hp ht := by
    obtain ⟨-, rfl⟩ := startPoller_pollerAt hn hp
    contradiction
  spent ht := Nat.lt_succ_of_lt (spent ht)
  issued hs := by
    cases hs
    exact Nat.lt_succ_self r.tokens
  vacant hs := by contradiction
  flag hs := by
    cases hs
    change r.cancelled.contains r.tokens = r.registry.isEmpty
    rw [hr]
    simpa using fun ht => Nat.lt_irrefl _ (spent ht)
  stopping _ he := by
    change r.registry.isEmpty = true at he
    rw [hr] at he
    contradiction

theorem Tracked.stop {r : Relay σ} (h : r.Tracked) {s : PollerSlot} (hs : r.slot = some s)
    (hp : ∃ f stage, r.PollerAt s.task f stage) (hr : r.registry.isEmpty = true) : (r.stopPoller s).Lifecycle where
  unique := h.unique
  gone := h.gone
  current := h.current
  since := h.since
  task := h.task
  unset := h.unset
  held hp ht := (h.held hp ht).imp (List.mem_cons_of_mem s.token) id
  spent ht := by
    rcases List.mem_cons.mp ht with rfl | hm
    · exact h.issued hs
    · exact h.spent hm
  issued := h.issued
  vacant _ := hr
  flag he := by
    change r.slot = some _ at he
    rw [hs] at he
    cases he
    change (s.token :: r.cancelled).contains s.token = r.registry.isEmpty
    rw [hr]
    simp
  stopping he _ := by
    change r.slot = some _ at he
    rw [hs] at he
    cases he
    exact hp

/-- The slot of a poller that died is emptied. -/
def vacate (r : Relay σ) : Relay σ := { r with slot := none }.note (.pollerReclaimed r.sourceName)

/-- All that can be done to bring the poller in step with the registry. -/
inductive Alignment (r : Relay σ) : Relay σ → Prop
  | resting (slot : r.slot = none) (empty : r.registry.isEmpty = true) : Alignment r r
  | started (slot : r.slot = none) (filled : r.registry.isEmpty = false) : Alignment r r.startPoller
  | buried {s : PollerSlot} (slot : r.slot = some s) (dead : r.taskEnded s.task = true)
      (empty : r.registry.isEmpty = true) : Alignment r r.vacate.resetCursor
  | replaced {s : PollerSlot} (slot : r.slot = some s) (dead : r.taskEnded s.task = true)
      (filled : r.registry.isEmpty = false) : Alignment r r.vacate.startPoller
  | stopped {s : PollerSlot} (slot : r.slot = some s) (alive : r.taskEnded s.task = false)
      (empty : r.registry.isEmpty = true) (flag : r.isCancelled s.token = false) : Alignment r (r.stopPoller s)
  | stopping {s : PollerSlot} (slot : r.slot = some s) (alive : r.taskEnded s.task = false)
      (empty : r.registry.isEmpty = true) (flag : r.isCancelled s.token = true) : Alignment r r
  | revived {s : PollerSlot} (slot : r.slot = some s) (alive : r.taskEnded s.task = false)
      (filled : r.registry.isEmpty = false) (flag : r.isCancelled s.token = true) : Alignment r (r.revivePoller s)
  | running {s : PollerSlot} (slot : r.slot = some s) (alive : r.taskEnded s.task = false)
      (filled : r.registry.isEmpty = false) (flag : r.isCancelled s.token = false) : Alignment r r

theorem reclaim_dead {r : Relay σ} {s : PollerSlot} (hs : r.slot = some s) (he : r.taskEnded s.task = true) :
    r.reclaim = if r.registry.isEmpty then r.vacate.resetCursor else r.vacate := by
  simp only [reclaim, hs, he, if_true]
  rfl

theorem reclaim_alive {r : Relay σ} {s : PollerSlot} (hs : r.slot = some s) (he : r.taskEnded s.task = false) :
    r.reclaim = r := by
  simp [reclaim, hs, he]

theorem alignPoller_vacate_empty {r : Relay σ} (h : r.registry.isEmpty = true) :
    r.vacate.resetCursor.alignPoller = r.vacate.resetCursor := by
  have hr : r.vacate.resetCursor.registry.isEmpty = true := h
  have hs : r.vacate.resetCursor.slot = none := rfl
  simp only [alignPoller, hr, hs]

theorem alignPoller_vacate_filled {r : Relay σ} (h : r.registry.isEmpty = false) :
    r.vacate.alignPoller = r.vacate.startPoller := by
  have hr : r.vacate.registry.isEmpty = false := h
  have hs : r.vacate.slot = none := rfl
  simp only [alignPoller, hr, hs]

theorem followRegistry_alignment (r : Relay σ) : r.Alignment r.followRegistry := by
  unfold followRegistry
  cases hs : r.slot with
  | none =>
    cases hr : r.registry.isEmpty with
    | true => simpa [reclaim, alignPoller, hs, hr] using .resting hs hr
    | false => simpa [reclaim, alignPoller, hs, hr] using .started hs hr
  | some s =>
    cases he : r.taskEnded s.task with
    | true =>
      rw [reclaim_dead hs he]
      cases hr : r.registry.isEmpty with
      | true => simpa [alignPoller_vacate_empty hr] using .buried hs he hr
      | false => simpa [alignPoller_vacate_filled hr] using .replaced hs he hr
    | false =>
      rw [reclaim_alive hs he]
      cases hr : r.registry.isEmpty <;> cases hf : r.isCancelled s.token
      · simpa [alignPoller, hs, hr, hf] using .running hs he hr hf
      · simpa [alignPoller, hs, hr, hf] using .revived hs he hr hf
      · simpa [alignPoller, hs, hr, hf] using .stopped hs he hr hf
      · simpa [alignPoller, hs, hr, hf] using .stopping hs he hr hf

theorem Tracked.align {r r' : Relay σ} (h : r.Tracked) (hc : r.hasController = true) (ha : r.Alignment r') :
    r'.Lifecycle := by
  cases ha with
  | resting hs hr => exact ⟨h, fun _ => hr, by simp [hs], by simp [hs]⟩
  | started hs hr => exact startPoller_lifecycle hc hr (h.no_poller hc (by simp [hs])) h.spent
  | buried hs he hr =>
    have hn := h.no_poller hc (by simp [hs, he])
    have hs' : r.vacate.resetCursor.slot = none := rfl
    exact ⟨⟨h.unique, fun _ => hs', fun _ _ _ _ hp => absurd hp (hn _ _ _), by simp [hs'], by simp [hs'],
      fun _ _ => rfl, fun hp => absurd hp (hn _ _ _), h.spent, by simp [hs']⟩, fun _ => hr, by simp [hs'],
      by simp [hs']⟩
  | replaced hs he hr =>
    exact startPoller_lifecycle (r := r.vacate) hc hr (h.no_poller hc (by simp [hs, he])) h.spent
  | stopped hs ha hr hf => exact h.stop hs (h.alive hs ha) hr
  | stopping hs ha hr hf =>
    refine ⟨h, by simp [hs], by simp [hs, hf, hr], fun he _ => ?_⟩
    rw [hs] at he
    cases he
    exact h.alive hs ha
  | revived hs ha hr hf => exact h.revive hs hf hr
  | running hs ha hr hf => exact ⟨h, by simp [hs], by simp [hs, hf, hr], by simp [hr]⟩

/-- After any change of the registry the poller is brought in step with it. -/
theorem Tracked.follow_registry {r : Relay σ} (h : r.Tracked) (hc : r.hasController = true) :
    r.followRegistry.Lifecycle :=
  h.align hc (followRegistry_alignment r)

/-- With the last handle the flag in the slot is raised, so a poller that is left holds a raised one. -/
theorem Tracked.abandon {r : Relay σ} (h : r.Tracked) (hl : r.handles = 1) :
    { r with handles := r.handles - 1 }.abandonPoller.Tracked := by
  have hc : (r.handles - 1 != 0) = true → False := by simp [hl]
  cases hs : r.slot with
  | none =>
    simp only [abandonPoller]
    exact ⟨h.unique, fun _ => rfl, fun hc' => (hc hc').elim, nofun, nofun, fun hc' => (hc hc').elim,
      fun hp ht => hs ▸ h.held hp ht, h.spent, nofun⟩
  | some s =>
    simp only [abandonPoller]
    refine ⟨h.unique, fun _ => rfl, fun hc' => (hc hc').elim, nofun, nofun, fun hc' => (hc hc').elim,
      fun hp ht => .inl ?_, fun ht => ?_, nofun⟩
    · rcases h.held hp ht with hm | he
      · exact List.mem_cons_of_mem _ hm
      · rw [hs] at he
        cases he
        exact List.mem_cons_self
    · rcases List.mem_cons.mp ht with rfl | hm
      · exact h.issued hs
      · exact h.spent hm

theorem letGo_lifecycle {r : Relay σ} (h : r.Tracked) (hl : r.handles = 1) :
    { r with handles := r.handles - 1 }.letGo.Lifecycle := by
  have hs : { r with handles := r.handles - 1 }.letGo.slot = none := by
    rw [letGo, (withRegistry_aside _ _).slot]
    unfold abandonPoller
    split
    · assumption
    · rfl
  have hr : { r with handles := r.handles - 1 }.letGo.registry = Registry.empty := by
    rw [letGo, (withRegistry_aside _ _).registry]
    rfl
  exact ⟨(h.abandon hl).changed .silent, fun _ => by rw [hr]; rfl, by simp [hs], by simp [hs]⟩

theorem Deed.lifecycle {r r' : Relay σ} (h : Deed r r') (hl : r.Lifecycle) : r'.Lifecycle := by
  have same : ∀ {r' : Relay σ}, r.SameControl r' → r'.Lifecycle := hl.same
  cases h with
  | told o _ => exact same (note_aside r o).toSameControl
  | aligned hc _ changed => exact (hl.toTracked.changed changed).follow_registry (changed.hasController.trans hc)
  | discarded reason sub => exact same (discardPending_aside r reason sub).toSameControl
  | fired event _ => exact same (fireEvent_aside r event).toSameControl
  | posted h =>
    obtain ⟨-, -, rfl⟩ := postToSource_ok h
    exact same ⟨rfl, rfl, rfl, rfl, rfl, rfl, rfl, fun _ _ _ => Iff.rfl⟩
  | permitted sub f => exact same (updateSubscriber_aside r sub _).toSameControl
  | cloned hc => exact hl.with_handles (by simpa [hasController] using hc)
  | dropped ho =>
    apply hl.with_handles
    unfold hasController
    rw [Bool.eq_iff_iff]
    simp only [bne_iff_ne]
    omega
  | letGone last => exact letGo_lifecycle hl.toTracked last
  | interrupted | closed | pushed | slept | observed =>
    exact same ⟨rfl, rfl, rfl, rfl, rfl, rfl, rfl, fun _ _ _ => Iff.rfl⟩

theorem Act.lifecycle {r r' : Relay σ} (h : Act r r') (hl : r.Lifecycle) : r'.Lifecycle := by
  rcases h.still with hd | hs
  · exact hd.lifecycle hl
  · exact hl.same hs.toSameControl

end Relay

end EventRelay
