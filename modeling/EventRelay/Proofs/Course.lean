import EventRelay.Proofs.Clock
import EventRelay.Proofs.Laps
import EventRelay.Proofs.Stride

namespace EventRelay

namespace Occurrence

/-- What a fact makes of the cursor. -/
def steer (c : Cursor) : Occurrence → Cursor
  | .cursorReset => .unset
  | .pollerStarted _ _ time => c.stamp time
  | .resultTaken _ (.fetched f) => c.moveTo f.index
  | _ => c

/-- The fact neither steers the cursor nor tells of a fetch that begins at it. -/
def isOffCourse : Occurrence → Bool
  | .cursorReset | .pollerStarted .. | .resultTaken _ (.fetched _) | .fetchStarted .. => false
  | _ => true

theorem steer_of_offCourse {o : Occurrence} (h : o.isOffCourse = true) (c : Cursor) : o.steer c = c := by
  cases o with
  | resultTaken _ result => cases result <;> first | rfl | contradiction
  | _ => first | rfl | contradiction

theorem isOffCourse_of_aside {o : Occurrence} (h : o.isAside = true) : o.isOffCourse = true := by
  cases o <;> first | rfl | contradiction

end Occurrence

/-- When the first poller started since the cursor was reset. -/
def firstStart (past : List Occurrence) : Option Instant :=
  ((sinceReset past).filterMap Occurrence.startTime?).getLast?

/-- Where the cursor stands after these facts, the latest first. -/
def courseOf (past : List Occurrence) : Cursor := ⟨firstStart past, (lastSettled past).map Fetched.index⟩

theorem sinceReset_cons {o : Occurrence} (past : List Occurrence) (h : o ≠ .cursorReset) :
    sinceReset (o :: past) = o :: sinceReset past := by
  have other : .cursorReset ∉ [o] := by simpa using h.symm
  exact sinceReset_append past other

/-- One fact after another steers the cursor. -/
theorem courseOf_cons (o : Occurrence) (past : List Occurrence) : courseOf (o :: past) = o.steer (courseOf past) := by
  by_cases reset : o = .cursorReset
  · rw [reset]
    rfl
  · simp only [courseOf, firstStart, lastSettled, sinceReset_cons past reset]
    cases o with
    | cursorReset => exact absurd rfl reset
    | pollerStarted source task time =>
      have told : (Occurrence.pollerStarted source task time).startTime? = some time := rfl
      rw [List.filterMap_cons_some told, List.getLast?_cons]
      rfl
    | resultTaken task result => cases result <;> rfl
    | _ => rfl

theorem courseOf_append {news : List Occurrence} (past : List Occurrence)
    (off : ∀ o ∈ news, o.isOffCourse = true) : courseOf (news ++ past) = courseOf past := by
  induction news with
  | nil => rfl
  | cons o rest ih =>
    obtain ⟨here, others⟩ := List.forall_mem_cons.mp off
    rw [List.cons_append, courseOf_cons, Occurrence.steer_of_offCourse here, ih others]

/-- A course that has a time has it from a poller that started. -/
theorem firstStart_told {past : List Occurrence} {time : Instant} (h : firstStart past = some time) :
    ∃ o ∈ past, o.startTime? = some time := by
  obtain ⟨o, hm, ho⟩ := List.mem_filterMap.mp (List.mem_of_getLast? h)
  exact ⟨o, (List.takeWhile_prefix _).subset hm, ho⟩

namespace Relay

variable {σ : Type}

/-- Among the new facts is this one, and none of the others concerns the cursor. -/
def Notes (r : Relay σ) (o : Occurrence) (r' : Relay σ) : Prop :=
  ∃ before after, r'.past = after ++ o :: before ++ r.past ∧ ∀ p ∈ after ++ before, p.isOffCourse = true

theorem Notes.course {r r' : Relay σ} {o : Occurrence} (h : r.Notes o r') :
    courseOf r'.past = o.steer (courseOf r.past) := by
  obtain ⟨before, after, past, off⟩ := h
  rw [past, List.append_assoc, courseOf_append _ fun p hm => off p (List.mem_append_left _ hm), List.cons_append,
    courseOf_cons, courseOf_append _ fun p hm => off p (List.mem_append_right _ hm)]

theorem Notes.mem {r r' : Relay σ} {o : Occurrence} (h : r.Notes o r') {p : Occurrence → Bool} (adds : Adds p r r') :
    p o = true := by
  obtain ⟨before, after, past, -⟩ := h
  obtain ⟨news, he, hn⟩ := adds
  have same : news = after ++ o :: before := List.append_cancel_right (he.symm.trans past)
  exact hn o (by simp [same])

/-- A fetch that had begun before is the only one that can be told of now. -/
theorem Notes.suffix {r r' : Relay σ} {o : Occurrence} (h : r.Notes o r') {id : TaskId} {c : Cursor}
    {earlier : List Occurrence} (hs : .fetchStarted id c :: earlier <:+ r'.past) (other : o ≠ .fetchStarted id c) :
    .fetchStarted id c :: earlier <:+ r.past := by
  obtain ⟨before, after, past, off⟩ := h
  rw [past] at hs
  apply suffix_of_append hs
  intro hm
  have rest : Occurrence.fetchStarted id c ∈ after ++ before := by
    simpa [other.symm] using hm
  exact absurd (off _ rest) Bool.false_ne_true

/-- All that can become of the cursor at one go. It is reset only where nobody is registered, stamped only as long as
it is unset, and moved only to an event that was settled. -/
inductive Steering (r r' : Relay σ) : Prop
  | held (facts : Adds Occurrence.isOffCourse r r') (cursor : r'.cursor = r.cursor) : Steering r r'
  | reset (facts : r.Notes .cursorReset r') (empty : r'.registry.isEmpty = true) (cursor : r'.cursor = .unset) :
      Steering r r'
  | stamped {source : String} {task : TaskId}
      (facts : r.Notes (.pollerStarted source task (r.surroundings.reading r.readings)) r')
      (before : r.cursor = .unset ∨ r.cursor.since.isSome = true)
      (cursor : r'.cursor = r.cursor.stamp (r.surroundings.reading r.readings)) : Steering r r'
  | settled {id : TaskId} {f : Fetched} (facts : r.Notes (.resultTaken id (.fetched f)) r')
      (filled : r'.registry.isEmpty = false) (cursor : r'.cursor = r.cursor.moveTo f.index) : Steering r r'

/-- The cursor is on its course, and so was every fetch when it began. -/
structure Charted (r : Relay σ) : Prop extends Lifecycle r where
  cursor : r.cursor = courseOf r.past
  fetches : ∀ {id c earlier}, .fetchStarted id c :: earlier <:+ r.past →
    c = courseOf earlier ∧ c.since.isSome = true

theorem Steering.charted {r r' : Relay σ} (h : r.Steering r') (hr : r.Charted) (life : r'.Lifecycle) :
    r'.Charted := by
  cases h with
  | held facts cursor =>
    refine ⟨life, ?_, fun hs => hr.fetches (facts.suffix hs rfl)⟩
    obtain ⟨news, past, off⟩ := facts
    rw [past, courseOf_append _ off, cursor, hr.cursor]
  | reset facts _ cursor =>
    refine ⟨life, ?_, fun hs => hr.fetches (facts.suffix hs nofun)⟩
    rw [facts.course, cursor]
    rfl
  | stamped facts _ cursor =>
    refine ⟨life, ?_, fun hs => hr.fetches (facts.suffix hs nofun)⟩
    rw [facts.course, cursor, ← hr.cursor]
    rfl
  | settled facts _ cursor =>
    refine ⟨life, ?_, fun hs => hr.fetches (facts.suffix hs nofun)⟩
    rw [facts.course, cursor, ← hr.cursor]
    rfl

theorem Notes.follows {r r₀ r' : Relay σ} {o : Occurrence} (h : r₀.Notes o r')
    (facts : Adds Occurrence.isOffCourse r r₀) : r.Notes o r' := by
  obtain ⟨before, after, past, off⟩ := h
  obtain ⟨news, he, hn⟩ := facts
  refine ⟨before ++ news, after, by rw [past, he]; simp, fun p hm => ?_⟩
  rw [← List.append_assoc] at hm
  exact (List.mem_append.mp hm).elim (off p) (hn p)

theorem Steering.follows {r r₀ r' : Relay σ} (h : r₀.Steering r') (facts : Adds Occurrence.isOffCourse r r₀)
    (cursor : r₀.cursor = r.cursor) (unread : r.Unread r₀) : r.Steering r' := by
  have reading : r₀.surroundings.reading r₀.readings = r.surroundings.reading r.readings := by
    rw [unread.surroundings, unread.readings]
  cases h with
  | held more same => exact .held (facts.trans more) (same.trans cursor)
  | reset more empty unset => exact .reset (more.follows facts) empty unset
  | stamped more before same =>
    rw [reading] at more same
    rw [cursor] at before same
    exact .stamped (more.follows facts) before same
  | settled more filled same =>
    rw [cursor] at same
    exact .settled (more.follows facts) filled same

theorem firingTurn_steering {r : Relay σ} {id : TaskId} {event : Event} {targets : List SubId}
    (hf : r.FiringAt id event targets) : r.Steering (r.firingTurn id event targets) :=
  .held ((firingTurn_adds r id event targets).mono fun _ => Occurrence.isOffCourse_of_aside)
    (firingTurn_still hf).cursor

theorem created_charted {source : σ} {r : Relay σ} (h : Created source r) : r.Charted := by
  have life := created_lifecycle h
  obtain ⟨settings, surroundings, handlers, h⟩ := h
  obtain ⟨bus, -, rfl⟩ := Option.map_eq_some_iff.mp h
  exact ⟨life, rfl, fun hs => absurd (List.suffix_nil.mp hs) (List.cons_ne_nil _ _)⟩

/-- A fetch begins at the cursor, which is on its course. -/
theorem Charted.ask {r r₁ : Relay σ} (h : r.Charted) {id : TaskId}
    (past : r₁.past = .fetchStarted id r.cursor :: r.past) (occupied : ∃ s, r.slot = some s)
    (same : r.SameControl r₁) : r₁.Charted := by
  obtain ⟨s, hs⟩ := occupied
  refine ⟨h.toLifecycle.same same, ?_, fun {id' c earlier} hf => ?_⟩
  · rw [same.cursor, past, courseOf_cons, h.cursor]
    rfl
  · rw [past] at hf
    rcases List.suffix_cons_iff.mp hf with here | before
    · cases here
      exact ⟨h.cursor, h.since hs⟩
    · exact h.fetches before

theorem withRegistry_offCourse (r : Relay σ) (registry : Registry) :
    Adds Occurrence.isOffCourse r (r.withRegistry registry) := by
  refine ⟨_, withRegistry_past r registry, ?_⟩
  unfold turned
  cases r.registry.isEmpty <;> cases registry.isEmpty <;> simp [Occurrence.isOffCourse]

theorem Changed.offCourse {r r' : Relay σ} {registry : Registry} (h : r.Changed registry r') :
    Adds Occurrence.isOffCourse r r' :=
  (withRegistry_offCourse r registry).trans (h.adds.mono fun _ => Occurrence.isOffCourse_of_aside)

variable [EventSource σ]

/-- Only a new poller stamps the cursor, and only a dead poller that nobody needs any more resets it here. -/
theorem Alignment.steering {r r' : Relay σ} (h : r.Alignment r') (ht : r.Tracked) (hc : r.hasController = true) :
    r.Steering r' := by
  cases h with
  | resting | stopping | running => exact .held (.refl r) rfl
  | started hs => exact .stamped ⟨[.spawned _ _], [], rfl, by simp [Occurrence.isOffCourse]⟩ (.inl (ht.unset hc hs)) rfl
  | buried _ _ empty =>
    exact .reset ⟨[.pollerReclaimed r.sourceName], [], rfl, by simp [Occurrence.isOffCourse]⟩ empty rfl
  | replaced hs =>
    exact .stamped ⟨[.spawned _ _, .pollerReclaimed r.sourceName], [], rfl, by simp [Occurrence.isOffCourse]⟩
      (.inr (ht.since hs)) rfl
  | stopped =>
    exact .held ⟨[.pollerInterrupted r.sourceName, .interruptCalled .controller], rfl,
      by simp [Occurrence.isOffCourse]⟩ rfl
  | revived => exact .held (.one rfl rfl) rfl

theorem letGo_steering (r : Relay σ) : r.Steering r.letGo := by
  have stopped : Adds Occurrence.isOffCourse r r.abandonPoller := by
    unfold abandonPoller
    split
    · exact .refl r
    · exact note_adds _ rfl
  exact .held (stopped.trans (withRegistry_offCourse _ _)) (letGo_quiet r).2

theorem Deed.steering {r r' : Relay σ} (h : Deed r r') (ht : r.Tracked) : r.Steering r' := by
  have aside : ∀ {r' : Relay σ}, r.Still r' → Adds Occurrence.isAside r r' → r.Steering r' :=
    fun still adds => .held (adds.mono fun _ => Occurrence.isOffCourse_of_aside) still.cursor
  cases h with
  | told o remark => exact aside (note_aside r o).toStill (note_adds r (o.isAside_of_remark remark))
  | aligned hc _ changed =>
    have step := (followRegistry_alignment _).steering (ht.changed changed) (changed.hasController.trans hc)
    exact step.follows changed.offCourse changed.aside.cursor changed.unread
  | discarded reason sub =>
    exact aside (discardPending_aside r reason sub).toStill (discardPending_adds r reason sub)
  | fired event _ => exact aside (fireEvent_aside r event).toStill (fireEvent_adds r event)
  | posted accepted =>
    obtain ⟨source, -, rfl⟩ := postToSource_ok accepted
    exact .held (note_adds _ rfl) rfl
  | interrupted => exact .held (note_adds _ rfl) rfl
  | letGone _ =>
    have step := letGo_steering { r with handles := r.handles - 1 }
    exact step.follows (.nothing rfl) rfl ⟨rfl, rfl, rfl⟩
  | closed | pushed | permitted | slept | observed | cloned | dropped => exact .held (.nothing rfl) rfl

theorem Act.steering {r r' : Relay σ} (h : Act r r') (ht : r.Tracked) : r.Steering r' := by
  rcases h.aside with deed | ⟨still, adds⟩
  · exact deed.steering ht
  · exact .held (adds.mono fun _ => Occurrence.isOffCourse_of_aside) still.cursor

theorem exitPoller_steering {r : Relay σ} (id : TaskId) (empty : r.registry.isEmpty = true) :
    r.Steering (r.exitPoller id).2 :=
  .reset ⟨[], [.pollerStopped r.sourceName], rfl, by simp [Occurrence.isOffCourse]⟩ empty rfl

theorem skips_offCourse (c : Cursor) (f : Fetched) : ∀ o ∈ skips c f, o.isOffCourse = true := by
  unfold skips
  split <;> simp [Occurrence.isOffCourse]

/-- A fault leaves the cursor where it is, and so does the death of the poller over it. -/
theorem Taken.steering {r : Relay σ} {id : TaskId} {failures : Nat} {token : TokenId} {result : FetchResult}
    {turn : Turn × Relay σ} (h : r.Taken id failures token result turn) : r.Steering turn.2 := by
  have told : ∀ {fault : FetchFault}, result.fault? = some fault →
      Adds Occurrence.isOffCourse r (r.note (.resultTaken id result)) := by
    intro fault stands
    cases result with
    | fetched => contradiction
    | failed | panicked => exact note_adds r rfl
  cases h with
  | orphaned => exact .held (.nothing rfl) rfl
  | exited _ empty => exact exitPoller_steering id empty
  | @passed f _ filled =>
    let taken := r.note (.resultTaken id (.fetched f))
    obtain ⟨handed, out, aside⟩ := handOut_adds (taken.moveCursor f) id f
    have same := handOut_aside (taken.moveCursor f) id f
    have facts : r.Notes (.resultTaken id (.fetched f)) ((taken.moveCursor f).handOut id f) := by
      refine ⟨[], handed ++ skips r.cursor f, ?_, fun o hm => ?_⟩
      · rw [out, moveCursor_past, List.append_assoc, List.append_assoc]
        rfl
      · rw [List.append_nil] at hm
        rcases List.mem_append.mp hm with hm | hm
        · exact Occurrence.isOffCourse_of_aside (aside o hm)
        · exact skips_offCourse r.cursor f o hm
    have registry : ((taken.moveCursor f).handOut id f).registry = r.registry := by
      rw [same.registry, (moveCursor_aside taken f).registry]
      rfl
    have cursor : ((taken.moveCursor f).handOut id f).cursor = r.cursor.moveTo f.index := by
      rw [same.cursor, (moveCursor_aside taken f).cursor]
      rfl
    exact .settled facts (registry ▸ filled) cursor
  | ignored _ _ stands => exact .held ((told stands).trans (note_adds _ rfl)) rfl
  | failed _ _ stands =>
    unfold pauseAfter
    split
    · exact .held (told stands) rfl
    · exact .held ((told stands).trans (note_adds _ rfl)) rfl

/-- The poller asks where the cursor is, and only then does the answer move it. -/
theorem PollerStep.steering {r : Relay σ} {id : TaskId} {failures : Nat} {stage : PollerStage} {turn : Turn × Relay σ}
    (h : r.PollerStep id failures stage turn) :
    r.Steering turn.2 ∨ ∃ r₁, r₁.past = .fetchStarted id r.cursor :: r.past ∧ (∃ s, r.slot = some s) ∧
      r.SameControl r₁ ∧ r.Unread r₁ ∧ r₁.Steering turn.2 := by
  have asks : ∀ {token reply r₁}, r.Consulted id stage token reply r₁ → r₁.Steering turn.2 →
      r.Steering turn.2 ∨ ∃ r₁, r₁.past = .fetchStarted id r.cursor :: r.past ∧ (∃ s, r.slot = some s) ∧
        r.SameControl r₁ ∧ r.Unread r₁ ∧ r₁.Steering turn.2 := by
    intro token reply r₁ consulted step
    have same := consulted.sameControl
    cases consulted with
    | declined => exact .inl step
    | asked _ _ hs => exact .inr ⟨_, rfl, ⟨_, hs⟩, same, ⟨rfl, rfl, rfl⟩, step⟩
    | withdrawn | resumed => exact .inl (step.follows (.nothing rfl) rfl ⟨rfl, rfl, rfl⟩)
  cases h with
  | orphaned | rested | asleep | resting => exact .inl (.held (.nothing rfl) rfl)
  | exited _ empty => exact .inl (exitPoller_steering id empty)
  | answered consulted => exact asks consulted (takeResult_taken ..).steering
  | queued consulted => exact asks consulted (.held (.nothing rfl) rfl)

theorem charted_invariant : Invariant (Charted : Relay σ → Prop) where
  act act h := (act.steering h.toTracked).charted h (act.lifecycle h.toLifecycle)
  poller {r id failures stage} hp h := by
    have life := pollerTurn_lifecycle h.toLifecycle hp
    rcases (pollerTurn_step r id failures stage).steering with step | ⟨r₁, past, occupied, same, -, step⟩
    · exact step.charted h life
    · exact step.charted (h.ask past occupied same) life
  firing hf h := (firingTurn_steering hf).charted h (h.toLifecycle.same (firingTurn_still hf).toSameControl)

theorem seen_charted {source : σ} {r : Relay σ} (h : Seen source r) : r.Charted :=
  charted_invariant.seen (fun _ => created_charted) h

/-- A poller that came to hold an answer takes it in the same step. -/
theorem Consulted.answered {r r₁ : Relay σ} {id : TaskId} {stage : PollerStage} {token : TokenId}
    {result : FetchResult} (h : r.Consulted id stage token (.ready result) r₁) (failures : Nat) :
    r.pollerTurn id failures stage = r₁.takeResult id failures token result := by
  cases h with
  | declined hc hr hs flag => simp [pollerTurn, prepareFetch, hc, hr, hs, beginFetch, flag]
  | asked hc hr hs flag answer =>
    simp only [pollerTurn, prepareFetch, hc, hr, hs, beginFetch, flag]
    change afterFetch _ _ _ _ (EventSource.fetch r.source r.cursor) = _
    rw [answer]
    rfl
  | withdrawn flag => simp [pollerTurn, resumeFetch, flag]
  | resumed flag awake answer =>
    simp only [pollerTurn, resumeFetch, flag, awake]
    change afterFetch _ _ _ _ (EventSource.resume r.source _ _) = _
    rw [answer]
    rfl

/-- An event that comes while somebody is registered is settled. -/
theorem Consulted.settles {r r₁ : Relay σ} {id : TaskId} {failures : Nat} {stage : PollerStage} {token : TokenId}
    {f : Fetched} (h : r.Consulted id stage token (.ready (.fetched f)) r₁) (hp : r.PollerAt id failures stage)
    (hc : r.hasController = true) (hr : r.registry.isEmpty = false) :
    r.Settles id f (r.pollerTurn id failures stage).2 := by
  have controller : r₁.hasController = true := h.sameControl.hasController.trans hc
  have filled : r₁.registry.isEmpty = false := h.sameControl.registry ▸ hr
  have passes :
      r₁.takeResult id failures token (.fetched f) = (r₁.note (.resultTaken id (.fetched f))).passOn id f := by
    simp [takeResult, controller, filled]
  rw [h.answered failures, passes]
  exact passOn_settles hp hc h

/-- The cursor was reset with nobody registered, or stamped with the next reading of the clock while it was unset. -/
def Restarted (r r' : Relay σ) : Prop :=
  (r'.cursor = .unset ∧ r'.registry.isEmpty = true) ∨
  (r.cursor = .unset ∧ r'.cursor = ⟨some (r.surroundings.reading r.readings), none⟩)

theorem Act.restarted {r r' : Relay σ} (h : Act r r') (ht : r.Tracked) (moved : r'.cursor ≠ r.cursor) :
    r.Restarted r' := by
  cases h.steering ht with
  | held _ same => exact absurd same moved
  | reset _ empty unset => exact .inl ⟨unset, empty⟩
  | stamped _ before stamp =>
    rcases before with unset | since
    · refine .inr ⟨unset, ?_⟩
      rw [stamp, unset]
      rfl
    · obtain ⟨time, told⟩ := Option.isSome_iff_exists.mp since
      have kept : r.cursor.stamp (r.surroundings.reading r.readings) = r.cursor :=
        Cursor.ext (by simp [Cursor.stamp, told]) rfl
      exact absurd (stamp.trans kept) moved
  | settled facts => exact absurd (facts.mem (h.lapStep ht).unsettled) Bool.false_ne_true

/-- A poller moves the cursor only when it settles an event or finds nobody registered. -/
theorem PollerStep.restarted {r : Relay σ} {id : TaskId} {failures : Nat} {stage : PollerStage}
    {turn : Turn × Relay σ} (h : r.PollerStep id failures stage turn) (hp : r.PollerAt id failures stage)
    (moved : turn.2.cursor ≠ r.cursor) :
    r.Restarted turn.2 ∨ ∃ f, r.Settles id f turn.2 ∧ r.registry.isEmpty = false := by
  cases h with
  | orphaned | rested | asleep | resting => exact absurd rfl moved
  | exited _ empty => exact .inl (.inl ⟨rfl, empty⟩)
  | queued consulted => exact absurd consulted.sameControl.cursor moved
  | @answered _ token result r₁ consulted =>
    have same := consulted.sameControl
    have taken := takeResult_taken r₁ id failures token result
    generalize r₁.takeResult id failures token result = turn at taken moved ⊢
    cases taken with
    | orphaned | ignored => exact absurd same.cursor moved
    | exited _ empty => exact .inl (.inl ⟨rfl, empty⟩)
    | @passed f hc filled =>
      exact .inr ⟨f, passOn_settles hp (same.hasController.symm.trans hc) consulted, same.registry ▸ filled⟩
    | failed =>
      refine absurd ?_ moved
      unfold pauseAfter
      split <;> exact same.cursor

/-- The time on a course is a reading that the clock gave. -/
theorem seen_firstStart {source : σ} {r : Relay σ} (h : Seen source r) {earlier : List Occurrence}
    (older : earlier <:+ r.past) {time : Instant} (first : firstStart earlier = some time) :
    ∃ n < r.readings, r.surroundings.reading n = time := by
  obtain ⟨start, created, strides⟩ := h.strides
  have clocked := clocked_invariant.strides strides (created_clocked created)
  obtain ⟨o, hm, told⟩ := firstStart_told first
  have time_told : time ∈ r.times :=
    List.mem_filterMap.mpr ⟨o, older.subset hm, Occurrence.reading?_of_start told⟩
  obtain ⟨n, hn, read⟩ := List.mem_map.mp (List.mem_reverse.mp (clocked.told.subset time_told))
  exact ⟨n, List.mem_range.mp hn, read⟩

/-- Every fetch begins at a cursor that has the reading of the clock with which the first poller started since the
cursor was reset, and the index of the event that was settled last since then, if there is one. What is settled are the
events that come while somebody is registered. At any stride the cursor is kept, unless it is reset with nobody
registered, stamped while it is unset, or an event is settled. -/
theorem fetches_begin_on_course {source : σ} {r : Relay σ} (h : Seen source r) :
    (∀ {id c earlier}, .fetchStarted id c :: earlier <:+ r.past →
      c.since = firstStart earlier ∧ c.last = (lastSettled earlier).map Fetched.index ∧
      ∃ n < r.readings, c.since = some (r.surroundings.reading n)) ∧
    r.cursor = courseOf r.past ∧
    (∀ {id failures stage token f r₁}, r.PollerAt id failures stage → r.hasController = true →
      r.registry.isEmpty = false → r.Consulted id stage token (.ready (.fetched f)) r₁ →
      r.Settles id f (r.pollerTurn id failures stage).2) ∧
    ∀ {r'}, Stride r r' → r'.cursor ≠ r.cursor →
      r.Restarted r' ∨ ∃ id f, r.Settles id f r' ∧ r.registry.isEmpty = false := by
  have charted := seen_charted h
  refine ⟨fun {id c earlier} begun => ?_, charted.cursor, fun hp hc hr consulted => consulted.settles hp hc hr,
    fun {r'} stride moved => ?_⟩
  · obtain ⟨rfl, stamped⟩ := charted.fetches begun
    obtain ⟨time, first⟩ := Option.isSome_iff_exists.mp stamped
    obtain ⟨n, hn, read⟩ := seen_firstStart h ((List.suffix_cons _ _).trans begun) first
    exact ⟨rfl, rfl, n, hn, read ▸ first⟩
  · cases stride with
    | act act => exact .inl (act.restarted charted.toTracked moved)
    | @poller id failures stage hp =>
      rcases (pollerTurn_step r id failures stage).restarted hp moved with restarted | ⟨f, settles, filled⟩
      · exact .inl restarted
      · exact .inr ⟨id, f, settles, filled⟩
    | firing hf => exact absurd (firingTurn_still hf).cursor moved

/-- The script gives an index below the one before and repeats it. The poller is stopped and revived over a timeout,
and is reset in the end. -/
theorem fetches_begin_on_course_plain :
    let r := (plain (Script.create [.fetched ⟨7, .named "a"⟩, .fetched ⟨3, .named "b"⟩, .fetched ⟨3, .named "a"⟩,
        .failed .timeout, .fetched ⟨5, .named "a"⟩])).follow
      [.request (.call (.add "a" 0)), .turn 0, .turn 0, .turn 0, .request (.call .shutdown),
        .request (.call (.add "a" 0)), .turn 0, .request (.call .shutdown), .turn 0,
        .request (.call (.add "a" 0)), .turn 2]
    r.story.filterMap (fun | .fetchStarted _ c => some c | _ => none) =
        [⟨some 0, none⟩, ⟨some 0, some 7⟩, ⟨some 0, some 3⟩, ⟨some 0, some 3⟩, ⟨some 1, none⟩] ∧
      r.cursor = courseOf r.past ∧ r.cursor = ⟨some 1, some 5⟩ := by
  intro r
  have seen : Seen _ r := .between ((Reachable.created (plain_created _)).follow _)
  exact ⟨by decide, (fetches_begin_on_course seen).2.1, by decide⟩

end Relay

end EventRelay
