import EventRelay.Proofs.Facts
import EventRelay.Proofs.OnePoller
import EventRelay.Proofs.Stride

namespace EventRelay

/-- How many answers stand for failures, up to the last event. The latest answer comes first. An interrupt and a timeout
do not count, and do not start the count anew. -/
def failuresInRow : List FetchResult → Nat
  | [] => 0
  | result :: earlier =>
    match result.fault? with
    | none => 0
    | some fault => if fault.isFailure then failuresInRow earlier + 1 else failuresInRow earlier

namespace Occurrence

/-- The answer that the poller `id` took. -/
def resultOf? (id : TaskId) : Occurrence → Option FetchResult
  | .resultTaken task result => if task = id then some result else none
  | _ => none

/-- A fact that does not tell of a fetch of `id`. -/
def isApart (id : TaskId) : Occurrence → Bool
  | .fetchStarted task _ | .resultTaken task _ | .fetchFailed task .. => task != id
  | _ => true

theorem isApart_of_quiet {o : Occurrence} (h : o.isQuiet = true) (id : TaskId) : o.isApart id = true := by
  cases o <;> first | rfl | contradiction

theorem isApart_of_aside {o : Occurrence} (h : o.isAside = true) (id : TaskId) : o.isApart id = true :=
  isApart_of_quiet (isQuiet_of_aside h) id

theorem resultOf?_of_apart {o : Occurrence} {id : TaskId} (h : o.isApart id = true) : o.resultOf? id = none := by
  cases o with
  | resultTaken => exact if_neg (bne_iff_ne.mp h)
  | _ => rfl

end Occurrence

/-- The answers that the poller `id` took, the latest first. -/
def resultsOf (id : TaskId) (past : List Occurrence) : List FetchResult := past.filterMap (Occurrence.resultOf? id)

theorem resultsOf_taken (id : TaskId) (result : FetchResult) (past : List Occurrence) :
    resultsOf id (.resultTaken id result :: past) = result :: resultsOf id past :=
  List.filterMap_cons_some (if_pos rfl)

/-- The number that a poller counts its failures with: it stays at the last one. -/
def tally (id : TaskId) (past : List Occurrence) : Nat := min (failuresInRow (resultsOf id past)) Relay.maxFailures

theorem tally_fetched (id : TaskId) (f : Fetched) (past : List Occurrence) :
    tally id (.resultTaken id (.fetched f) :: past) = 0 := by
  rw [tally, resultsOf_taken]
  exact Nat.zero_min _

theorem tally_soft {id : TaskId} {result : FetchResult} {fault : FetchFault} (stands : result.fault? = some fault)
    (soft : fault.isFailure = false) (past : List Occurrence) :
    tally id (.resultTaken id result :: past) = tally id past := by
  simp [tally, resultsOf_taken, failuresInRow, stands, soft]

/-- One more, but for a count that cannot become greater. -/
theorem tally_failed {id : TaskId} {result : FetchResult} {fault : FetchFault} (stands : result.fault? = some fault)
    (hard : fault.isFailure = true) (past : List Occurrence) :
    tally id (.resultTaken id result :: past) = min (tally id past + 1) Relay.maxFailures := by
  simp only [tally, resultsOf_taken, failuresInRow, stands, hard, if_true]
  omega

namespace Relay

variable {σ : Type}

theorem Adds.results {r r' : Relay σ} {id : TaskId} (h : Adds (Occurrence.isApart id) r r') :
    resultsOf id r'.past = resultsOf id r.past :=
  h.filterMap fun _ => Occurrence.resultOf?_of_apart

theorem Adds.tally {r r' : Relay σ} {id : TaskId} (h : Adds (Occurrence.isApart id) r r') :
    tally id r'.past = tally id r.past := by
  rw [EventRelay.tally, h.results]
  rfl

/-- What is no task now was none before. -/
theorem Ongoing.absent {r r' : Relay σ} (h : r.Ongoing r') {id : TaskId} (new : r'.tasks.get? id = none) :
    r.tasks.get? id = none := by
  refine Option.eq_none_iff_forall_ne_some.mpr fun t ht => ?_
  obtain ⟨_, ht', -⟩ := h.kinds ht
  rw [ht'] at new
  contradiction

theorem Grown.ongoing {r r' : Relay σ} (h : r.Grown r') : r.Ongoing r' := ⟨fun ht => ⟨_, h.rows _ _ ht, rfl⟩, h.past⟩

/-- The poller `id` is where it was, and nothing is told of its fetches. If it is new, it has not fetched yet. -/
structure PassesOver (id : TaskId) (r r' : Relay σ) : Prop where
  facts : Adds (Occurrence.isApart id) r r'
  stays : ∀ {f p}, r.PollerAt id f p → r'.PollerAt id f p
  came : ∀ {f p}, r'.PollerAt id f p → r.PollerAt id f p ∨ (r.tasks.get? id = none ∧ f = 0)

theorem PassesOver.refl (id : TaskId) (r : Relay σ) : PassesOver id r r := ⟨.refl r, fun h => h, .inl⟩

theorem SameControl.passesOver {r r' : Relay σ} (same : r.SameControl r') {id : TaskId}
    (facts : Adds (Occurrence.isApart id) r r') : PassesOver id r r' :=
  ⟨facts, same.pollerAt.mpr, fun hp => .inl (same.pollerAt.mp hp)⟩

theorem setWork_pollerAt_other {r : Relay σ} {id j : TaskId} (other : j ≠ id) {work : Work} {f : Nat}
    {p : PollerStage} : (r.setWork id work).PollerAt j f p ↔ r.PollerAt j f p := by
  unfold PollerAt
  simp only [setWork_get?, if_neg (Ne.symm other)]

theorem setWork_pollerAt_self {r : Relay σ} {id : TaskId} {failures f : Nat} {stage p : PollerStage}
    (h : (r.setWork id (.poller failures stage)).PollerAt id f p) : f = failures := by
  rcases setWork_pollerAt_cases h with ⟨-, he, -⟩ | ⟨other, -⟩
  · exact he
  · exact absurd rfl other

/-- Another poller goes on. -/
theorem PassesOver.setWork {r r₁ : Relay σ} {id j : TaskId} (h : PassesOver j r r₁) (other : j ≠ id) (work : Work) :
    PassesOver j r (r₁.setWork id work) :=
  ⟨h.facts.trans (.nothing rfl), fun hp => (setWork_pollerAt_other other).mpr (h.stays hp),
    fun hp => h.came ((setWork_pollerAt_other other).mp hp)⟩

/-- Another task ends. -/
theorem PassesOver.endTask {r r₁ : Relay σ} {id j : TaskId} (h : PassesOver j r r₁) (other : j ≠ id)
    (ending : Ending) : PassesOver j r (r₁.endTask id ending) :=
  ⟨h.facts.trans (.nothing rfl), fun hp => endTask_pollerAt_iff.mpr ⟨other, h.stays hp⟩,
    fun hp => h.came (endTask_pollerAt_iff.mp hp).2⟩

theorem PassesOver.note {r r₁ : Relay σ} {id : TaskId} (h : PassesOver id r r₁) {o : Occurrence}
    (apart : o.isApart id = true) : PassesOver id r (r₁.note o) :=
  ⟨h.facts.trans (note_adds r₁ apart), fun hp => h.stays hp, fun hp => h.came hp⟩

/-- What becomes of a fetched event is not told as a fetch. -/
theorem handed_apart (r : Relay σ) (id : TaskId) (f : Fetched) (j : TaskId) :
    Adds (Occurrence.isApart j) r ((r.moveCursor f).handOut id f) := by
  refine Adds.trans ⟨_, moveCursor_past r f, ?_⟩
    ((handOut_adds _ id f).mono fun _ ho => Occurrence.isApart_of_aside ho j)
  unfold skips
  split <;> simp [Occurrence.isApart]

theorem handed_pollerAt {r : Relay σ} {id : TaskId} {f : Fetched} {j : TaskId} {g : Nat} {p : PollerStage} :
    ((r.moveCursor f).handOut id f).PollerAt j g p ↔ r.PollerAt j g p :=
  (handOut_aside (r.moveCursor f) id f).toSameControl.pollerAt.trans (moveCursor_aside r f).toSameControl.pollerAt

theorem firingTurn_passesOver {r : Relay σ} {id : TaskId} {event : Event} {targets : List SubId}
    (hf : r.FiringAt id event targets) (j : TaskId) : PassesOver j r (r.firingTurn id event targets) :=
  (firingTurn_still hf).toSameControl.passesOver
    ((firingTurn_adds r id event targets).mono fun _ ho => Occurrence.isApart_of_aside ho j)

/-- Every poller knows how many of its fetches have failed. -/
structure Tallied (r : Relay σ) : Prop where
  counted : ∀ {id f p}, r.PollerAt id f p → f = tally id r.past
  fresh : ∀ {id}, r.tasks.get? id = none → resultsOf id r.past = []

theorem PassesOver.counted {r r' : Relay σ} {id : TaskId} (h : PassesOver id r r') (tallied : r.Tallied) {f : Nat}
    {p : PollerStage} (hp : r'.PollerAt id f p) : f = tally id r'.past := by
  rw [h.facts.tally]
  rcases h.came hp with old | ⟨new, rfl⟩
  · exact tallied.counted old
  · rw [tally, tallied.fresh new]
    rfl

theorem created_tallied {source : σ} {r : Relay σ} (h : Created source r) : r.Tallied := by
  refine ⟨fun {id f p} hp => ?_, fun _ => ?_⟩
  · obtain ⟨name, ht⟩ := hp
    rw [h.no_task] at ht
    contradiction
  · obtain ⟨settings, surroundings, handlers, h⟩ := h
    obtain ⟨bus, -, rfl⟩ := Option.map_eq_some_iff.mp h
    rfl

variable [EventSource σ]

theorem Alignment.apart {r r' : Relay σ} (h : r.Alignment r') (id : TaskId) : Adds (Occurrence.isApart id) r r' := by
  have quiet : ∀ {r r' : Relay σ}, Adds Occurrence.isQuiet r r' → Adds (Occurrence.isApart id) r r' :=
    fun facts => facts.mono fun _ ho => Occurrence.isApart_of_quiet ho id
  have vacated : Adds (Occurrence.isApart id) r r.vacate := note_adds _ rfl
  cases h with
  | resting | stopping | running => exact .refl r
  | started => exact quiet (startPoller_quiet r)
  | buried => exact vacated.trans (note_adds _ rfl)
  | replaced => exact vacated.trans (quiet (startPoller_quiet _))
  | @stopped s => exact quiet (stopPoller_quiet r s)
  | revived => exact .one rfl rfl

/-- Only pollers tell of fetches. -/
theorem Deed.apart {r r' : Relay σ} (h : Deed r r') (id : TaskId) : Adds (Occurrence.isApart id) r r' := by
  have apart : ∀ o : Occurrence, o.isQuiet = true → o.isApart id = true :=
    fun _ ho => Occurrence.isApart_of_quiet ho id
  rcases h.quiet with ⟨facts, -⟩ | ⟨r₀, registry, -, changed, rfl⟩
  · exact facts.mono apart
  · exact (changed.quiet.mono apart).trans ((followRegistry_alignment r₀).apart id)

theorem Alignment.came {r r' : Relay σ} (h : r.Alignment r') {id : TaskId} {f : Nat} {p : PollerStage}
    (hp : r'.PollerAt id f p) : r.PollerAt id f p ∨ (r.tasks.get? id = none ∧ f = 0) := by
  have started : ∀ {r : Relay σ}, r.startPoller.PollerAt id f p → r.PollerAt id f p ∨
      (r.tasks.get? id = none ∧ f = 0) := by
    rintro r ⟨name, ht⟩
    rw [startPoller_get?] at ht
    split at ht
    · rename_i new
      cases ht
      exact .inr ⟨new ▸ Table.get?_size r.tasks, rfl⟩
    · exact .inl ⟨name, ht⟩
  cases h with
  | resting | stopping | running | buried | stopped | revived => exact .inl hp
  | started => exact started hp
  | replaced => exact started (r := r.vacate) hp

theorem letGo_pollerAt {r : Relay σ} {id : TaskId} {f : Nat} {p : PollerStage} :
    r.letGo.PollerAt id f p ↔ r.PollerAt id f p := by
  have abandoned : r.abandonPoller.PollerAt id f p ↔ r.PollerAt id f p := by
    unfold abandonPoller
    split <;> exact Iff.rfl
  exact (withRegistry_aside r.abandonPoller _).toSameControl.pollerAt.trans abandoned

/-- Requests only start pollers. -/
theorem Deed.came {r r' : Relay σ} (h : Deed r r') {id : TaskId} {f : Nat} {p : PollerStage}
    (hp : r'.PollerAt id f p) : r.PollerAt id f p ∨ (r.tasks.get? id = none ∧ f = 0) := by
  have same : r.SameControl r' → r.PollerAt id f p ∨ (r.tasks.get? id = none ∧ f = 0) :=
    fun same => .inl (same.pollerAt.mp hp)
  cases h with
  | told o _ => exact same (note_aside r o).toSameControl
  | aligned _ _ changed =>
    rcases (followRegistry_alignment _).came hp with old | ⟨new, zero⟩
    · exact .inl (changed.aside.toSameControl.pollerAt.mp old)
    · exact .inr ⟨changed.grown.ongoing.absent new, zero⟩
  | discarded reason sub => exact same (discardPending_aside r reason sub).toSameControl
  | fired event _ => exact same (fireEvent_aside r event).toSameControl
  | posted accepted =>
    obtain ⟨source, -, rfl⟩ := postToSource_ok accepted
    exact .inl hp
  | letGone _ => exact .inl (letGo_pollerAt (r := { r with handles := r.handles - 1 }).mp hp)
  | interrupted | closed | pushed | permitted | slept | observed | cloned | dropped => exact .inl hp

/-- Requests and workers pass every poller over. -/
theorem Act.passesOver {r r' : Relay σ} (h : Act r r') (id : TaskId) : PassesOver id r r' := by
  rcases h.aside with deed | ⟨still, facts⟩
  · exact ⟨deed.apart id, deed.grown.pollerAt, deed.came⟩
  · exact still.toSameControl.passesOver (facts.mono fun _ ho => Occurrence.isApart_of_aside ho id)

theorem exitPoller_apart (r : Relay σ) (id j : TaskId) : Adds (Occurrence.isApart j) r (r.exitPoller id).2 :=
  ⟨[.pollerStopped r.sourceName, .cursorReset], rfl, by simp [Occurrence.isApart]⟩

theorem exitPoller_passesOver {r r₁ : Relay σ} {id j : TaskId} (h : PassesOver j r r₁) (other : j ≠ id) :
    PassesOver j r (r₁.exitPoller id).2 := by
  have left : PassesOver j r ({ r₁ with slot := none }.resetCursor.note (.pollerStopped r₁.sourceName)) :=
    ⟨h.facts.trans (exitPoller_apart r₁ id j), h.stays, h.came⟩
  exact left.endTask other .finished

theorem Taken.passesOver {r r₁ : Relay σ} {id j : TaskId} (h : PassesOver j r r₁) (other : j ≠ id) {failures : Nat}
    {token : TokenId} {result : FetchResult} {turn : Turn × Relay σ} (taken : r₁.Taken id failures token result turn) :
    PassesOver j r turn.2 := by
  have told : PassesOver j r (r₁.note (.resultTaken id result)) := h.note (bne_iff_ne.mpr (Ne.symm other))
  cases taken with
  | orphaned => exact h.endTask other .finished
  | exited => exact exitPoller_passesOver h other
  | @passed f _ _ =>
    have handed : PassesOver j r (((r₁.note (.resultTaken id (.fetched f))).moveCursor f).handOut id f) :=
      ⟨told.facts.trans (handed_apart _ id f j), fun hp => handed_pollerAt.mpr (told.stays hp),
        fun hp => told.came (handed_pollerAt.mp hp)⟩
    exact handed.setWork other _
  | @ignored _ fault _ _ _ _ =>
    have noted : PassesOver j r ((r₁.note (.resultTaken id result)).note (.nothingFetched fault)) := told.note rfl
    exact noted.setWork other _
  | @failed _ fault _ _ _ _ =>
    unfold pauseAfter
    split
    · exact told.endTask other .panicked
    · rename_i delay _
      have failed : PassesOver j r ({ r₁.note (.resultTaken id result) with draws := r₁.draws + 1 }.note
          (.fetchFailed id r₁.sourceName fault (min (failures + 1) maxFailures) delay)) :=
        ⟨told.facts.trans (.one rfl (bne_iff_ne.mpr (Ne.symm other))), told.stays, told.came⟩
      exact failed.setWork other _

/-- So does another poller. -/
theorem PollerStep.passesOver {r : Relay σ} {id j : TaskId} (other : j ≠ id) {failures : Nat} {stage : PollerStage}
    {turn : Turn × Relay σ} (step : r.PollerStep id failures stage turn) : PassesOver j r turn.2 := by
  have asked : ∀ {token reply r₁}, r.Consulted id stage token reply r₁ → PassesOver j r r₁ := by
    intro token reply r₁ consulted
    refine consulted.sameControl.passesOver ?_
    rcases consulted.past with same | began
    · exact .nothing same
    · exact .one began (bne_iff_ne.mpr (Ne.symm other))
  have here := PassesOver.refl j r
  cases step with
  | orphaned => exact here.endTask other .finished
  | exited => exact exitPoller_passesOver here other
  | answered consulted => exact (takeResult_taken ..).passesOver (asked consulted) other
  | queued consulted => exact (asked consulted).setWork other _
  | rested => exact here.setWork other _
  | asleep | resting => exact here

theorem Acts.passesOver {r r' : Relay σ} (h : Acts r r') (id : TaskId) : PassesOver id r r' := by
  induction h with
  | refl => exact .refl id r
  | @tail r₁ r₂ before act ih =>
    have next := act.passesOver id
    refine ⟨ih.facts.trans next.facts, fun hp => next.stays (ih.stays hp), fun hp => ?_⟩
    rcases next.came hp with old | ⟨new, zero⟩
    · exact ih.came old
    · exact .inr ⟨(Strides.ongoing (Acts.strides before)).absent new, zero⟩

/-- Every move passes a poller over, but the one in which it takes a step itself. -/
theorem move_passesOver (r : Relay σ) (m : Move) (id : TaskId) : PassesOver id r (r.move m) ∨
    ∃ failures stage, m = .turn id ∧ r.PollerAt id failures stage ∧
      r.move m = (r.pollerTurn id failures stage).2 := by
  rcases move_cases r m with acts | ⟨j, failures, stage, rfl, hp, he⟩ | ⟨j, event, targets, -, hf, he⟩
  · exact .inl (acts.passesOver id)
  · by_cases same : id = j
    · subst same
      exact .inr ⟨failures, stage, rfl, hp, he⟩
    · exact .inl (he ▸ (pollerTurn_step r j failures stage).passesOver same)
  · exact .inl (he ▸ firingTurn_passesOver hf id)

theorem Taken.counted {r : Relay σ} {id : TaskId} {failures : Nat} {token : TokenId} {result : FetchResult}
    {turn : Turn × Relay σ} (taken : r.Taken id failures token result turn) (count : failures = tally id r.past)
    {f : Nat} {p : PollerStage} (hp : turn.2.PollerAt id f p) : f = tally id turn.2.past := by
  cases taken with
  | orphaned | exited => exact absurd rfl (endTask_pollerAt_iff.mp hp).1
  | @passed g _ _ =>
    have handed := handed_apart (r.note (.resultTaken id (.fetched g))) id g id
    rw [setWork_pollerAt_self hp]
    exact (handed.tally.trans (tally_fetched id g r.past)).symm
  | @ignored _ fault _ _ stands soft =>
    rw [setWork_pollerAt_self hp, count]
    exact (tally_soft stands soft r.past).symm
  | failed _ _ stands hard =>
    unfold pauseAfter at hp ⊢
    split at hp
    · exact absurd rfl (endTask_pollerAt_iff.mp hp).1
    · rw [setWork_pollerAt_self hp, count]
      exact (tally_failed stands hard r.past).symm

theorem Consulted.tally {r r₁ : Relay σ} {id : TaskId} {stage : PollerStage} {token : TokenId} {reply : FetchReply}
    (h : r.Consulted id stage token reply r₁) : tally id r₁.past = tally id r.past := by
  rcases h.past with same | began
  · rw [same]
  · rw [began]
    rfl

theorem PollerStep.counted {r : Relay σ} {id : TaskId} {failures : Nat} {stage : PollerStage} {turn : Turn × Relay σ}
    (step : r.PollerStep id failures stage turn) (h : r.Tallied) (hp : r.PollerAt id failures stage) {f : Nat}
    {p : PollerStage} (hp' : turn.2.PollerAt id f p) : f = tally id turn.2.past := by
  have count := h.counted hp
  cases step with
  | orphaned | exited => exact absurd rfl (endTask_pollerAt_iff.mp hp').1
  | answered consulted => exact (takeResult_taken ..).counted (count.trans consulted.tally.symm) hp'
  | queued consulted => exact (setWork_pollerAt_self hp').trans (count.trans consulted.tally.symm)
  | rested => exact (setWork_pollerAt_self hp').trans count
  | asleep | resting => exact h.counted hp'

theorem tallied_invariant : Invariant (Tallied : Relay σ → Prop) := by
  have others : ∀ {r r' : Relay σ}, r.Tallied → Stride r r' → (∀ id, PassesOver id r r') → r'.Tallied :=
    fun tallied stride passed => ⟨fun hp => (passed _).counted tallied hp,
      fun new => (passed _).facts.results.trans (tallied.fresh (stride.ongoing.absent new))⟩
  constructor
  · exact fun act tallied => others tallied (.act act) act.passesOver
  · intro r id failures stage hp tallied
    have step := pollerTurn_step r id failures stage
    have stride : Stride r (r.pollerTurn id failures stage).2 := .poller hp
    constructor
    · intro j f p hp'
      by_cases same : j = id
      · subst same
        exact step.counted tallied hp hp'
      · exact (step.passesOver same).counted tallied hp'
    · intro j new
      have before := stride.ongoing.absent new
      have other : j ≠ id := by
        rintro rfl
        obtain ⟨name, ht⟩ := hp
        rw [before] at ht
        contradiction
      exact (step.passesOver other).facts.results.trans (tallied.fresh before)
  · exact fun hf tallied => others tallied (.firing hf) (firingTurn_passesOver hf)

end Relay

end EventRelay
