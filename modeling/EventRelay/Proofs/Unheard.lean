import EventRelay.Proofs.Clock
import EventRelay.Proofs.Stride

namespace EventRelay

namespace Relay

section Silence

variable {σ : Type}

/-- How often the cursor was reset. -/
def resets (r : Relay σ) : Nat := r.past.count .cursorReset

theorem fresh_of_resets {r r' : Relay σ} (older : r.past <:+ r'.past) (same : r'.resets = r.resets) :
    ∃ fresh, r'.past = fresh ++ r.past ∧ .cursorReset ∉ fresh := by
  obtain ⟨fresh, he⟩ := older
  refine ⟨fresh, he.symm, ?_⟩
  unfold resets at same
  rw [← he, List.count_append] at same
  exact List.count_eq_zero.mp (by omega)

theorem Adds.resets {p : Occurrence → Bool} {r r' : Relay σ} (h : Adds p r r') (other : p .cursorReset = false) :
    r'.resets = r.resets :=
  h.count other

/-- Nobody is registered, and the cursor was not reset. -/
structure Hushed (r r' : Relay σ) : Prop where
  nobody : r'.registry.isEmpty = true
  resets : r'.resets = r.resets

/-- The poller was revived, and the cursor was not reset before. -/
def Roused (r r' : Relay σ) : Prop :=
  ∃ later earlier, r'.past = later ++ .pollerRevived :: earlier ++ r.past ∧ .cursorReset ∉ earlier

theorem Roused.later {r r' r'' : Relay σ} (h : r.Roused r') (older : r'.past <:+ r''.past) : r.Roused r'' := by
  obtain ⟨later, earlier, he, kept⟩ := h
  obtain ⟨news, hn⟩ := older
  exact ⟨news ++ later, earlier, by rw [← hn, he]; simp, kept⟩

theorem Roused.since {r r' r'' : Relay σ} (h : r'.Roused r'') (older : r.past <:+ r'.past)
    (same : r'.resets = r.resets) : r.Roused r'' := by
  obtain ⟨later, earlier, he, kept⟩ := h
  obtain ⟨fresh, hf, kept'⟩ := fresh_of_resets older same
  refine ⟨later, earlier ++ fresh, by rw [he, hf]; simp, ?_⟩
  simp [kept, kept']

theorem firingTurn_hushed {r : Relay σ} {id : TaskId} {event : Event} {targets : List SubId}
    (h : r.FiringAt id event targets) (nobody : r.registry.isEmpty = true) :
    r.Hushed (r.firingTurn id event targets) :=
  ⟨(firingTurn_still h).registry ▸ nobody, (firingTurn_adds r id event targets).resets rfl⟩

variable [EventSource σ]

/-- After a change of a registry on which nobody was, somebody may be there; then the poller was revived, unless the
cursor was unset. -/
theorem Alignment.silence {r r₀ r' : Relay σ} (h : r₀.Alignment r') {registry : Registry}
    (changed : r.Changed registry r₀) (hl : r.Lifecycle) (nobody : r.registry.isEmpty = true)
    (started : r.slot ≠ none) : r.Hushed r' ∨ r.Roused r' ∨ r'.cursor = .unset := by
  have slot : r₀.slot = r.slot := changed.aside.slot
  have alive : ∀ {s}, r₀.slot = some s → r₀.taskEnded s.task = false := by
    intro s hs
    obtain ⟨f, stage, hp⟩ := hl.stopping (slot ▸ hs) nobody
    exact taskEnded_of_pollerAt (changed.grown.pollerAt hp)
  have kept : r₀.resets = r.resets := changed.quiet.resets rfl
  cases h with
  | resting _ empty => exact .inl ⟨empty, kept⟩
  | stopping _ _ empty => exact .inl ⟨empty, kept⟩
  | started hs => exact absurd (slot ▸ hs) started
  | buried => exact .inr (.inr rfl)
  | replaced hs dead =>
    rw [alive hs] at dead
    contradiction
  | @stopped s hs _ empty => exact .inl ⟨empty, ((stopPoller_quiet r₀ s).resets rfl).trans kept⟩
  | revived =>
    obtain ⟨fresh, he, kept⟩ := fresh_of_resets changed.grown.past kept
    refine .inr (.inl ⟨[], fresh, ?_, kept⟩)
    change .pollerRevived :: r₀.past = _
    rw [he]
    rfl
  | @running s hs _ _ flag =>
    have raised := (hl.flag (slot ▸ hs)).trans nobody
    rw [isCancelled, changed.aside.cancelled] at flag
    exact absurd (raised.symm.trans flag) Bool.noConfusion

theorem letGo_hushed (r : Relay σ) : r.Hushed r.letGo :=
  ⟨by rw [letGo, (withRegistry_aside _ _).registry]; rfl, (letGo_quiet r).1.resets rfl⟩

/-- Whatever is done at one go while nobody is registered. -/
theorem Deed.silence {r r' : Relay σ} (h : Deed r r') (hl : r.Lifecycle) (nobody : r.registry.isEmpty = true)
    (started : r.cursor ≠ .unset) : r.Hushed r' ∨ r.Roused r' ∨ r'.cursor = .unset := by
  cases h with
  | told o remark => exact .inl ⟨nobody, (note_adds r (o.isAside_of_remark remark)).resets rfl⟩
  | aligned hc _ changed =>
    exact (followRegistry_alignment _).silence changed hl nobody fun hs => started (hl.unset hc hs)
  | discarded reason sub =>
    exact .inl ⟨(discardPending_aside r reason sub).registry ▸ nobody, (discardPending_adds r reason sub).resets rfl⟩
  | fired event _ => exact .inl ⟨(fireEvent_aside r event).registry ▸ nobody, (fireEvent_adds r event).resets rfl⟩
  | posted accepted =>
    obtain ⟨source, -, rfl⟩ := postToSource_ok accepted
    exact .inl ⟨nobody, List.count_cons_of_ne (by simp)⟩
  | interrupted => exact .inl ⟨nobody, List.count_cons_of_ne (by simp)⟩
  | letGone _ =>
    have gone := letGo_hushed { r with handles := r.handles - 1 }
    exact .inl ⟨gone.nobody, gone.resets⟩
  | closed | pushed | permitted | slept | observed | cloned | dropped => exact .inl ⟨nobody, rfl⟩

theorem Act.silence {r r' : Relay σ} (h : Act r r') (hl : r.Lifecycle) (nobody : r.registry.isEmpty = true)
    (started : r.cursor ≠ .unset) : r.Hushed r' ∨ r.Roused r' ∨ r'.cursor = .unset := by
  rcases h.aside with deed | ⟨still, facts⟩
  · exact deed.silence hl nobody started
  · exact .inl ⟨still.registry ▸ nobody, facts.resets rfl⟩

theorem Taken.silence {r : Relay σ} {id : TaskId} {failures : Nat} {token : TokenId} {result : FetchResult}
    {turn : Turn × Relay σ} (h : r.Taken id failures token result turn) {stage : PollerStage}
    (hp : r.PollerAt id failures stage) (nobody : r.registry.isEmpty = true) :
    r.Calm turn.2 ∧ (r.Hushed turn.2 ∨ turn.2.cursor = .unset) := by
  cases h with
  | orphaned => exact ⟨endTask_calm hp .finished, .inl ⟨nobody, rfl⟩⟩
  | exited => exact ⟨exitPoller_calm hp, .inr rfl⟩
  | passed _ filled | ignored _ filled | failed _ filled => simp [nobody] at filled

theorem Consulted.hushed {r r' : Relay σ} {id : TaskId} {stage : PollerStage} {token : TokenId} {reply : FetchReply}
    (h : r.Consulted id stage token reply r') (nobody : r.registry.isEmpty = true) : r.Hushed r' := by
  cases h with
  | declined _ filled | asked _ filled => simp [nobody] at filled
  | withdrawn | resumed => exact ⟨nobody, rfl⟩

/-- A poller that goes on while nobody is registered exits, or does nothing that is told. It hands nothing out. -/
theorem PollerStep.silence {r : Relay σ} {id : TaskId} {failures : Nat} {stage : PollerStage}
    {turn : Turn × Relay σ} (h : r.PollerStep id failures stage turn) (hp : r.PollerAt id failures stage)
    (nobody : r.registry.isEmpty = true) : r.Calm turn.2 ∧ (r.Hushed turn.2 ∨ turn.2.cursor = .unset) := by
  cases h with
  | orphaned => exact ⟨endTask_calm hp .finished, .inl ⟨nobody, rfl⟩⟩
  | exited => exact ⟨exitPoller_calm hp, .inr rfl⟩
  | rested => exact ⟨setWork_calm hp failures .ready, .inl ⟨nobody, rfl⟩⟩
  | asleep | resting => exact ⟨.refl r, .inl ⟨nobody, rfl⟩⟩
  | queued consulted =>
    have still := consulted.hushed nobody
    have poller := consulted.sameControl.pollerAt.mpr hp
    exact ⟨consulted.calm.trans (setWork_calm poller failures _), .inl ⟨still.nobody, still.resets⟩⟩
  | answered consulted =>
    have still := consulted.hushed nobody
    have poller := consulted.sameControl.pollerAt.mpr hp
    obtain ⟨calm, after⟩ := (takeResult_taken ..).silence poller still.nobody
    exact ⟨consulted.calm.trans calm, after.imp_left fun h => ⟨h.nobody, h.resets.trans still.resets⟩⟩

end Silence

theorem Cursor.behind_unset (time : Instant) (index : Nat) : Cursor.unset.Behind time index :=
  fun stamped => absurd rfl stamped

/-- Nobody was handed the event that was posted at that time under that index, and nobody will be: the cursor is past
it, or nobody was registered since a moment, and the cursor was not reset. -/
structure Unheard (index : Nat) (time : Instant) (moment r : Relay EventRing) : Prop where
  posted : ∃ e, .posted index time e ∈ r.past
  since : moment.past <:+ r.past
  absent : ∀ {sub d}, d ∈ r.polled sub → d.event.index ≠ some index
  passed : r.cursor.Behind time index ∨ moment.Hushed r

section Passing

variable {index : Nat} {time : Instant} {moment r r' : Relay EventRing}

theorem Unheard.follows (h : Unheard index time moment r) (older : r.past <:+ r'.past)
    (absent : ∀ {sub d}, d ∈ r'.polled sub → d.event.index ≠ some index)
    (passed : r'.cursor.Behind time index ∨ moment.Hushed r') : Unheard index time moment r' := by
  obtain ⟨e, posted⟩ := h.posted
  exact ⟨⟨e, older.subset posted⟩, h.since.trans older, absent, passed⟩

theorem Unheard.steady (h : Unheard index time moment r) (hc : r.Carried) (steady : r.Steady r')
    (passed : r'.cursor.Behind time index ∨ moment.Hushed r') : Unheard index time moment r' :=
  h.follows steady.past (fun hd => h.absent ((steady.polled hc _).subset hd)) passed

theorem Hushed.trans {r'' : Relay EventRing} (h : r.Hushed r') (h' : r'.Hushed r'') : r.Hushed r'' :=
  ⟨h'.nobody, h'.resets.trans h.resets⟩

theorem Act.unheard (act : Act r r') (hr : r.Routed) (timely : Occurrence.areTimely r'.past = true)
    (h : Unheard index time moment r) : moment.Roused r' ∨ Unheard index time moment r' := by
  have steady : r.Steady r' := Acts.steady (.single act)
  obtain ⟨e, posted⟩ := h.posted
  by_cases behind : r.cursor.Behind time index
  · exact .inr (h.steady hr.carried steady (.inl ((act.cursorStep hr.toTracked).behind timely posted behind)))
  · have hushed := h.passed.resolve_left behind
    have started : r.cursor ≠ .unset := fun he => behind (he ▸ Cursor.behind_unset time index)
    rcases act.silence hr.toLifecycle hushed.nobody started with still | roused | unset
    · exact .inr (h.steady hr.carried steady (.inr (hushed.trans still)))
    · exact .inl (roused.since h.since hushed.resets)
    · exact .inr (h.steady hr.carried steady (.inl (unset ▸ Cursor.behind_unset time index)))

/-- What is handed out is past the cursor, so it is another event. -/
theorem pass_unheard (hr : r.Routed) (timely : Occurrence.areTimely r.past = true)
    (h : Unheard index time moment r) (behind : r.cursor.Behind time index) {id : TaskId} {failures : Nat}
    {stage : PollerStage} (hp : r.PollerAt id failures stage) {token : TokenId} {f : Fetched} {r₁ : Relay EventRing}
    (consulted : r.Consulted id stage token (.ready (.fetched f)) r₁) (hc : r.hasController = true) :
    Unheard index time moment ((r₁.note (.resultTaken id (.fetched f))).passOn id f).2 := by
  obtain ⟨s, hold, -, rfl⟩ := consulted.fetched hr.toWaiting hc hp
  obtain ⟨s', he, gained, -⟩ := pass_routed hr hp consulted hc
  have number : s'.index = s.index := (congrArg Fetched.index he).symm
  obtain ⟨e, posted⟩ := h.posted
  obtain ⟨token', slot⟩ := hr.current hc hp
  have stamped : r.cursor.since ≠ none := by
    have since := hr.since slot
    intro unset
    rw [unset] at since
    contradiction
  have earlier := (hr.delivered timely).recorded.before stamped hold posted behind
  obtain ⟨name, ht⟩ := hp
  refine h.follows gained.past (fun {sub d} hd => ?_) (.inl fun _ => ?_)
  · obtain ⟨k, -, hs⟩ := gained.polled hr.carried ht sub
    rcases List.mem_append.mp (hs.subset hd) with old | new
    · exact h.absent old
    · obtain ⟨-, rfl⟩ := List.mem_replicate.mp new
      intro same
      exact absurd (number.symm.trans (Option.some.inj same)) (Nat.ne_of_gt earlier)
  · have cursor : ((r₁.note (.resultTaken id (.fetched s.fetched))).passOn id s.fetched).2.cursor =
        r.cursor.moveTo s.index := by
      rw [passOn_eq]
      change (((r₁.note _).moveCursor s.fetched).handOut id s.fetched).cursor = _
      rw [(handOut_aside _ id s.fetched).cursor, (moveCursor_aside _ s.fetched).cursor]
      exact congrArg (·.moveTo s.index) consulted.sameControl.cursor
    rw [cursor]
    apply Bool.eq_false_iff.mpr
    intro past
    have later := (Cursor.precedes_iff.mp past).2 _ rfl
    exact absurd earlier (Nat.lt_asymm later)

theorem pollerTurn_unheard {id : TaskId} {failures : Nat} {stage : PollerStage} (hp : r.PollerAt id failures stage)
    (hr : r.Routed) (timely : Occurrence.areTimely r.past = true) (h : Unheard index time moment r) :
    Unheard index time moment (r.pollerTurn id failures stage).2 := by
  have turn := pollerTurn_step r id failures stage
  by_cases behind : r.cursor.Behind time index
  · rcases turn.flow hp with ⟨token, f, r₁, consulted, hc, he⟩ | ⟨calm, cursor⟩
    · rw [consulted.sameControl.hasController] at hc
      rw [he]
      exact pass_unheard hr timely h behind hp consulted hc
    · refine h.steady hr.carried calm.toSteady (.inl ?_)
      rcases cursor with same | unset
      · exact same ▸ behind
      · exact unset ▸ Cursor.behind_unset time index
  · have hushed := h.passed.resolve_left behind
    obtain ⟨calm, still | unset⟩ := turn.silence hp hushed.nobody
    · exact h.steady hr.carried calm.toSteady (.inr (hushed.trans still))
    · exact h.steady hr.carried calm.toSteady (.inl (unset ▸ Cursor.behind_unset time index))

theorem firingTurn_unheard {id : TaskId} {event : Event} {targets : List SubId} (hf : r.FiringAt id event targets)
    (hr : r.Routed) (h : Unheard index time moment r) :
    Unheard index time moment (r.firingTurn id event targets) := by
  have gained := firingTurn_gained hf
  have still := firingTurn_still hf
  refine h.follows gained.past (fun {sub d} hd => ?_) ?_
  · obtain ⟨name, ht⟩ := hf
    obtain ⟨k, -, hs⟩ := gained.polled hr.carried ht sub
    rw [show Task.isPoller ⟨name, .firing event targets, none⟩ = false from rfl] at hs
    exact h.absent (by simpa using hs.subset hd)
  · rw [still.cursor]
    exact h.passed.imp_right fun hushed => hushed.trans (firingTurn_hushed hf hushed.nobody)

end Passing

/-- A relay over a ring that is in order, its clock, and an event that was posted to nobody. -/
structure Unclaimed (reading : Nat → Instant) (index : Nat) (time : Instant) (moment r : Relay EventRing) : Prop where
  routed : r.Routed
  clocked : Clocked reading r
  skipped : moment.Roused r ∨ Unheard index time moment r

theorem unclaimed_invariant {reading : Nat → Instant} (ticking : ∀ i j, i < j → reading i < reading j) (index : Nat)
    (time : Instant) (moment : Relay EventRing) : Invariant (Unclaimed reading index time moment) where
  act {r r'} act h := by
    have clocked := act.clocked h.clocked
    refine ⟨act.routed h.routed, clocked, ?_⟩
    rcases h.skipped with roused | unheard
    · exact .inl (roused.later (Acts.steady (.single act)).past)
    · exact act.unheard h.routed (clocked.timely ticking) unheard
  poller {r id failures stage} hp h := by
    have clocked := (pollerTurn_step r id failures stage).unread.clocked h.clocked
    refine ⟨pollerTurn_routed h.routed hp, clocked, ?_⟩
    rcases h.skipped with roused | unheard
    · exact .inl (roused.later ((pollerTurn_step r id failures stage).older hp))
    · exact .inr (pollerTurn_unheard hp h.routed (h.clocked.timely ticking) unheard)
  firing {r id event targets} hf h := by
    refine ⟨firingTurn_routed h.routed hf, (firingTurn_unread r id event targets).clocked h.clocked, ?_⟩
    rcases h.skipped with roused | unheard
    · exact .inl (roused.later (firingTurn_gained hf).past)
    · exact .inr (firingTurn_unheard hf h.routed unheard)

theorem unheard_after_post {config : RingSize} {start r r' : Relay EventRing}
    (h : Created (EventRing.create config) start) (ticking : ∀ i j, i < j →
      start.surroundings.reading i < start.surroundings.reading j) (before : Strides start r)
    (nobody : r.registry.isEmpty = true) {event : Event} {index : Nat}
    (accepted : r.postToSource event = .ok (index, r')) :
    ∃ time, Unclaimed start.surroundings.reading index time r' r' := by
  have hr : r.Routed := routed_invariant.strides before (created_routed h)
  have clocked := clocked_invariant.strides before (created_clocked h)
  have act : Act r r' := .deed (.posted accepted)
  have steady := postToSource_steady accepted
  obtain ⟨source, hp, rfl⟩ := postToSource_ok accepted
  obtain ⟨rfl, rfl, -⟩ := EventRing.post_ok hp
  refine ⟨r.readClock.1, act.routed hr, act.clocked clocked, .inr ?_⟩
  refine ⟨⟨event, List.mem_cons_self⟩, List.suffix_refl _, fun hd => ?_, .inr ⟨nobody, rfl⟩⟩
  -- whatever was handed out before has a smaller index
  have delivered := hr.delivered (clocked.timely ticking)
  obtain ⟨i, t, e, hm, he, -⟩ := delivered.genuine ((steady.polled hr.carried _).subset hd)
  rw [he]
  intro same
  exact absurd (Option.some.inj same) (Nat.ne_of_lt (delivered.recorded.numbered hm))

/-- An event that is posted while nobody is registered comes to a handler through the poller only if the poller was
revived afterwards, before its cursor was reset. So a poller that has exited, or a new one, never hands it out. -/
theorem unheard_event_needs_revival {config : RingSize} {start r r' r'' : Relay EventRing}
    (h : Created (EventRing.create config) start) (ticking : ∀ i j, i < j →
      start.surroundings.reading i < start.surroundings.reading j) (before : Strides start r)
    (nobody : r.registry.isEmpty = true) {event : Event} {index : Nat}
    (accepted : r.postToSource event = .ok (index, r')) (after : Strides r' r'') {sub : SubId} {d : Delivery}
    (entered : d ∈ r''.enteredBy sub) (polled : r''.isPolled d = true) (same : d.event.index = some index) :
    ∃ later earlier, r''.past = later ++ .pollerRevived :: earlier ++ r'.past ∧ .cursorReset ∉ earlier := by
  obtain ⟨time, unclaimed⟩ := unheard_after_post h ticking before nobody accepted
  rcases ((unclaimed_invariant ticking index time r').strides after unclaimed).skipped with roused | unheard
  · exact roused
  · have flow : d ∈ r''.flow sub := List.mem_append_left _ entered
    exact absurd same (unheard.absent (List.mem_filter.mpr ⟨flow, polled⟩))

/-- The last subscriber leaves, an event is posted, and another subscriber comes before the poller has taken a step. -/
def stopThenRevive : List Move × List Move :=
  ([.request (.call (.add "a" 0)), .turn 0, .request (.call (.remove "a" 0))],
    [.request (.call (.add "a" 0)), .turn 0, .turn 0, .turn 1])

theorem unheard_event_needs_revival_plain :
    let r := (plain (EventRing.create .standard)).follow stopThenRevive.1
    let r' := r.move (.request (.postToSource (.named "a")))
    let r'' := r'.follow stopThenRevive.2
    r.registry.isEmpty = true ∧ r.postToSource (.named "a") = .ok (0, r') ∧
      ⟨(Event.named "a").indexed 0, 0⟩ ∈ r''.enteredBy 0 ∧ r''.isPolled ⟨(Event.named "a").indexed 0, 0⟩ = true ∧
      ∃ later earlier, r''.past = later ++ .pollerRevived :: earlier ++ r'.past ∧ .cursorReset ∉ earlier := by
  intro r r' r''
  have nobody : r.registry.isEmpty = true := by decide
  have accepted : r.postToSource (.named "a") = .ok (0, r') := rfl
  have entered : ⟨(Event.named "a").indexed 0, 0⟩ ∈ r''.enteredBy 0 := by decide
  have polled : r''.isPolled ⟨(Event.named "a").indexed 0, 0⟩ = true := by decide
  exact ⟨nobody, accepted, entered, polled,
    unheard_event_needs_revival (plain_created (EventRing.create .standard)) (fun _ _ h => h) (follow_strides _ _)
      nobody accepted (follow_strides _ _) entered polled rfl⟩

/-- A revived poller hands out what was posted while nobody was registered. -/
theorem revived_poller_delivers_unheard_event :
    let r := (plain (EventRing.create .standard)).follow stopThenRevive.1
    let r' := r.move (.request (.postToSource (.named "a")))
    let r'' := r'.follow stopThenRevive.2
    r.registry.isEmpty = true ∧ r'.past.head? = some (.posted 0 1 (.named "a")) ∧
      (r''.enteredBy 0).filter r''.isPolled = [⟨(Event.named "a").indexed 0, 0⟩] := by
  decide

end Relay

end EventRelay
