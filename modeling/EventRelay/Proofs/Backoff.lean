import EventRelay.Proofs.Failures
import EventRelay.Proofs.Publishing

namespace EventRelay

/-- Without jitter the delay depends on the number of failures alone. -/
theorem Backoff.delay?_unvaried {b : Backoff} (unvaried : b.jitter = .none) (failures draw : Nat) :
    b.delay? failures draw = b.base? failures := by
  unfold delay?
  cases b.base? failures with
  | none => rfl
  | some delay => simp [unvaried, Jitter.vary]

namespace Relay

variable {σ : Type}

/-- No time is taken back and no stop flag is lowered, and the settings stay. -/
structure Onward (r r' : Relay σ) : Prop where
  settings : r'.settings = r.settings
  now : r.now ≤ r'.now
  flags : ∀ {token}, r.isCancelled token = true → r'.isCancelled token = true

theorem Onward.refl (r : Relay σ) : r.Onward r := ⟨rfl, Nat.le_refl _, fun h => h⟩

theorem Onward.trans {r r' r'' : Relay σ} (h : r.Onward r') (h' : r'.Onward r'') : r.Onward r'' :=
  ⟨h'.settings.trans h.settings, Nat.le_trans h.now h'.now, fun raised => h'.flags (h.flags raised)⟩

theorem Still.onward {r r' : Relay σ} (h : r.Still r') : r.Onward r' where
  settings := h.settings
  now := Nat.le_of_eq h.now.symm
  flags raised := by
    rw [isCancelled, h.cancelled]
    exact raised

/-- The latest fact reports that the poller `id` took an answer that stands for a failure. The poller pauses for as long as
its settings say after the failures that it had counted before. -/
structure Reported (r : Relay σ) (o : Occurrence) (id : TaskId) (result : FetchResult) (earlier : List Occurrence)
    (delay : Duration) (token : TokenId) : Prop where
  past : r.past = o :: .resultTaken id result :: earlier
  failure : ∃ source fault, result.fault? = some fault ∧ fault.isFailure = true ∧
    o = .fetchFailed id source fault (tally id (.resultTaken id result :: earlier)) delay
  computed : ∃ draw, r.settings.backoff.delay? (tally id earlier) draw = some delay
  pausing : r.PollerAt id (tally id (.resultTaken id result :: earlier)) (.pausing token (r.now + delay.nanos))

/-- The poller `id` took an answer that stands for an interrupt or a timeout, with somebody registered, and is ready to
fetch again. -/
structure Ignored (r : Relay σ) (id : TaskId) (result : FetchResult) (fault : FetchFault) (earlier : List Occurrence) :
    Prop where
  past : r.past = .nothingFetched fault :: .resultTaken id result :: earlier
  controller : r.hasController = true
  filled : r.registry.isEmpty = false
  ready : r.PollerAt id (tally id earlier) .ready

variable [EventSource σ]

/-- The poller `id` pauses: until the delay is over or the flag that it holds is raised, it stays where it is and nothing
is told of its fetches. -/
structure WaitsOut (r : Relay σ) (id : TaskId) (failures : Nat) (token : TokenId) (delay : Duration) : Prop where
  pausing : r.PollerAt id failures (.pausing token (r.now + delay.nanos))
  rests : ∀ moves, r.now + delay.nanos ≤ (r.follow moves).now ∨ (r.follow moves).isCancelled token = true ∨
    ((r.follow moves).PollerAt id failures (.pausing token (r.now + delay.nanos)) ∧
      Adds (Occurrence.isApart id) r (r.follow moves))

/-- The next step of the poller `id` starts a fetch, if somebody is registered then. -/
def FetchesNext (r : Relay σ) (id : TaskId) : Prop :=
  ∀ moves, .turn id ∉ moves → (r.follow moves).hasController = true → (r.follow moves).registry.isEmpty = false →
    .fetchStarted id (r.follow moves).cursor :: (r.follow moves).past <:+ ((r.follow moves).move (.turn id)).past

theorem Alignment.onward {r r' : Relay σ} (h : r.Alignment r') : r.Onward r' := by
  cases h with
  | stopped =>
    refine ⟨rfl, Nat.le_refl _, fun raised => ?_⟩
    exact isCancelled_iff.mpr (List.mem_cons_of_mem _ (isCancelled_iff.mp raised))
  | resting | started | buried | replaced | stopping | revived | running => exact ⟨rfl, Nat.le_refl _, fun h => h⟩

theorem letGo_onward (r : Relay σ) : r.Onward r.letGo := by
  have abandoned : r.Onward r.abandonPoller := by
    unfold abandonPoller
    split
    · exact .refl r
    · refine ⟨rfl, Nat.le_refl _, fun raised => ?_⟩
      exact isCancelled_iff.mpr (List.mem_cons_of_mem _ (isCancelled_iff.mp raised))
  have emptied := (withRegistry_aside r.abandonPoller r.registry.clear.2).toStill.onward
  exact abandoned.trans ⟨emptied.settings, emptied.now, emptied.flags⟩

theorem Deed.onward {r r' : Relay σ} (h : Deed r r') : r.Onward r' := by
  cases h with
  | told o _ => exact (note_aside r o).toStill.onward
  | aligned _ _ changed =>
    have before := changed.aside.toStill.onward
    exact Onward.trans ⟨before.settings, before.now, before.flags⟩ (followRegistry_alignment _).onward
  | discarded reason sub => exact (discardPending_aside r reason sub).toStill.onward
  | fired event _ => exact (fireEvent_aside r event).toStill.onward
  | posted accepted =>
    obtain ⟨source, -, rfl⟩ := postToSource_ok accepted
    exact ⟨rfl, Nat.le_refl _, fun h => h⟩
  | letGone _ =>
    have gone := letGo_onward { r with handles := r.handles - 1 }
    exact ⟨gone.settings, gone.now, gone.flags⟩
  | slept d => exact ⟨rfl, Nat.le_add_right _ _, fun h => h⟩
  | interrupted | closed | pushed | permitted | observed | cloned | dropped => exact ⟨rfl, Nat.le_refl _, fun h => h⟩

theorem Act.onward {r r' : Relay σ} (h : Act r r') : r.Onward r' := h.still.elim Deed.onward Still.onward

theorem Acts.onward {r r' : Relay σ} (h : Acts r r') : r.Onward r' := by
  induction h with
  | refl => exact .refl r
  | tail _ act ih => exact ih.trans act.onward

theorem Taken.onward {r : Relay σ} {id : TaskId} {failures : Nat} {token : TokenId} {result : FetchResult}
    {turn : Turn × Relay σ} (taken : r.Taken id failures token result turn) : r.Onward turn.2 := by
  cases taken with
  | orphaned | exited | ignored => exact ⟨rfl, Nat.le_refl _, fun h => h⟩
  | @passed f _ _ =>
    have moved := (moveCursor_aside (r.note (.resultTaken id (.fetched f))) f).toStill.onward
    have out := (handOut_aside ((r.note (.resultTaken id (.fetched f))).moveCursor f) id f).toStill.onward
    have both := moved.trans out
    exact ⟨both.settings, both.now, both.flags⟩
  | failed =>
    unfold pauseAfter
    split <;> exact ⟨rfl, Nat.le_refl _, fun h => h⟩

theorem Consulted.onward {r r₁ : Relay σ} {id : TaskId} {stage : PollerStage} {token : TokenId} {reply : FetchReply}
    (h : r.Consulted id stage token reply r₁) : r.Onward r₁ := by
  cases h with
  | declined | asked | withdrawn | resumed => exact ⟨rfl, Nat.le_refl _, fun h => h⟩

theorem PollerStep.onward {r : Relay σ} {id : TaskId} {failures : Nat} {stage : PollerStage} {turn : Turn × Relay σ}
    (step : r.PollerStep id failures stage turn) : r.Onward turn.2 := by
  cases step with
  | answered consulted => exact consulted.onward.trans (takeResult_taken ..).onward
  | queued consulted =>
    have asked := consulted.onward
    exact ⟨asked.settings, asked.now, asked.flags⟩
  | orphaned | exited | rested | asleep | resting => exact ⟨rfl, Nat.le_refl _, fun h => h⟩

theorem move_onward (r : Relay σ) (m : Move) : r.Onward (r.move m) := by
  rcases move_cases r m with acts | ⟨id, failures, stage, -, hp, he⟩ | ⟨id, event, targets, -, hf, he⟩
  · exact acts.onward
  · exact he ▸ (pollerTurn_step r id failures stage).onward
  · exact he ▸ (firingTurn_still hf).onward

theorem follow_onward (r : Relay σ) (moves : List Move) : r.Onward (r.follow moves) :=
  follow_keeps (fun r' m h => h.trans (move_onward r' m)) (.refl r) moves

theorem PollerAt.waits_out {r : Relay σ} {id : TaskId} {failures : Nat} {token : TokenId} {delay : Duration}
    (h : r.PollerAt id failures (.pausing token (r.now + delay.nanos))) : r.WaitsOut id failures token delay := by
  refine ⟨h, fun moves => ?_⟩
  induction moves using List.reverseRecOn with
  | nil => exact .inr (.inr ⟨h, .refl r⟩)
  | append_singleton moves m ih =>
    rw [follow_concat]
    have onward := move_onward (r.follow moves) m
    rcases ih with due | raised | ⟨pausing, quiet⟩
    · exact .inl (Nat.le_trans due onward.now)
    · exact .inr (.inl (onward.flags raised))
    · rcases move_passesOver (r.follow moves) m id with passed | ⟨f, p, -, hp, he⟩
      · exact .inr (.inr ⟨passed.stays pausing, quiet.trans passed.facts⟩)
      · obtain ⟨_, ht⟩ := pausing
        obtain ⟨_, ht'⟩ := hp
        cases ht.symm.trans ht'
        rw [he]
        have step := pollerTurn_step (r.follow moves) id failures (.pausing token (r.now + delay.nanos))
        generalize (r.follow moves).pollerTurn id failures (.pausing token (r.now + delay.nanos)) = turn at step
        cases step with
        | answered consulted | queued consulted => cases consulted
        | rested elapsed =>
          rcases elapsed with raised | due
          · exact .inr (.inl raised)
          · exact .inl due
        | resting => exact .inr (.inr ⟨⟨_, ht⟩, quiet⟩)

theorem Consulted.older_fact {r r₁ : Relay σ} {id : TaskId} {stage : PollerStage} {token : TokenId}
    {reply : FetchReply} (h : r.Consulted id stage token reply r₁) {o : Occurrence} {facts : List Occurrence}
    (hs : o :: facts <:+ r₁.past) (other : ∀ cursor, o ≠ .fetchStarted id cursor) : o :: facts <:+ r.past := by
  rcases h.past with same | began
  · exact same ▸ hs
  · exact suffix_cons_ne (began ▸ hs) (other _)

/-- An answer that stands for a failure is reported, and none else. -/
theorem Taken.reported {r : Relay σ} {id : TaskId} {failures : Nat} {token : TokenId} {result : FetchResult}
    {turn : Turn × Relay σ} (taken : r.Taken id failures token result turn) {stage : PollerStage}
    (hp : r.PollerAt id failures stage) (count : failures = tally id r.past) {source : String} {fault : FetchFault}
    {n : Nat} {delay : Duration} {facts : List Occurrence}
    (hs : .fetchFailed id source fault n delay :: facts <:+ turn.2.past) :
    .fetchFailed id source fault n delay :: facts <:+ r.past ∨
      (facts = .resultTaken id result :: r.past ∧
        turn.2.Reported (.fetchFailed id source fault n delay) id result r.past delay token) := by
  have told : ∀ {result'}, .fetchFailed id source fault n delay :: facts <:+ .resultTaken id result' :: r.past →
      .fetchFailed id source fault n delay :: facts <:+ r.past := fun hs => suffix_cons_ne hs nofun
  have apart : Occurrence.isApart id (.fetchFailed id source fault n delay) = false := bne_self_eq_false id
  cases taken with
  | orphaned => exact .inl hs
  | exited => exact .inl ((exitPoller_apart r id id).suffix hs apart)
  | @passed f _ _ =>
    have handed := handed_apart (r.note (.resultTaken id (.fetched f))) id f id
    exact .inl (told (handed.suffix hs apart))
  | ignored => exact .inl (told (suffix_cons_ne hs nofun))
  | @failed _ fault' _ _ stands hard =>
    unfold pauseAfter at hs ⊢
    split at hs
    · exact .inl (told hs)
    · rename_i delay' computed
      rcases List.suffix_cons_iff.mp hs with here | before
      · cases here
        refine .inr ⟨rfl, ⟨rfl, ⟨r.sourceName, fault, stands, hard, ?_⟩, ⟨_, count ▸ computed⟩, ?_⟩⟩
        · rw [tally_failed stands hard, ← count]
          rfl
        · rw [tally_failed stands hard, ← count]
          exact setWork_pollerAt hp _ _
      · exact .inl (told before)

/-- An answer that stands for an interrupt or a timeout is ignored, and the poller goes on. -/
theorem Taken.ignores {r : Relay σ} {id : TaskId} {failures : Nat} {token : TokenId} {result : FetchResult}
    {turn : Turn × Relay σ} (taken : r.Taken id failures token result turn) {stage : PollerStage}
    (hp : r.PollerAt id failures stage) (count : failures = tally id r.past) {result' : FetchResult}
    {fault : FetchFault} (stands : result'.fault? = some fault) (soft : fault.isFailure = false)
    {earlier : List Occurrence} (hs : .resultTaken id result' :: earlier <:+ turn.2.past) :
    .resultTaken id result' :: earlier <:+ r.past ∨ (turn.1 = .going ∧ turn.2.Ignored id result' fault earlier) := by
  have told : .resultTaken id result' :: earlier <:+ .resultTaken id result :: r.past →
      .resultTaken id result' :: earlier <:+ r.past ∨ (result' = result ∧ earlier = r.past) := by
    intro hs
    rcases List.suffix_cons_iff.mp hs with here | before
    · cases here
      exact .inr ⟨rfl, rfl⟩
    · exact .inl before
  have apart : Occurrence.isApart id (.resultTaken id result') = false := bne_self_eq_false id
  cases taken with
  | orphaned => exact .inl hs
  | exited => exact .inl ((exitPoller_apart r id id).suffix hs apart)
  | @passed f _ _ =>
    have handed := handed_apart (r.note (.resultTaken id (.fetched f))) id f id
    refine .inl ((told (handed.suffix hs apart)).resolve_right ?_)
    rintro ⟨rfl, -⟩
    contradiction
  | @ignored _ fault' hc hr stands' _ =>
    rcases told (suffix_cons_ne hs nofun) with before | ⟨rfl, rfl⟩
    · exact .inl before
    · cases stands.symm.trans stands'
      exact .inr ⟨rfl, rfl, hc, hr, count ▸ setWork_pollerAt hp _ _⟩
  | @failed _ fault' _ _ stands' hard =>
    refine .inl ((told ?_).resolve_right ?_)
    · unfold pauseAfter at hs
      split at hs
      · exact hs
      · exact suffix_cons_ne hs nofun
    · rintro ⟨rfl, -⟩
      cases stands.symm.trans stands'
      exact absurd (soft.symm.trans hard) Bool.false_ne_true

theorem PollerStep.reported {r : Relay σ} {id : TaskId} {failures : Nat} {stage : PollerStage} {turn : Turn × Relay σ}
    (step : r.PollerStep id failures stage turn) (tallied : r.Tallied) (hp : r.PollerAt id failures stage)
    {source : String} {fault : FetchFault} {n : Nat} {delay : Duration} {facts : List Occurrence}
    (hs : .fetchFailed id source fault n delay :: facts <:+ turn.2.past)
    (new : ¬ .fetchFailed id source fault n delay :: facts <:+ r.past) :
    ∃ result earlier token, facts = .resultTaken id result :: earlier ∧
      turn.2.Reported (.fetchFailed id source fault n delay) id result earlier delay token := by
  have count := tallied.counted hp
  cases step with
  | orphaned | rested | asleep | resting => exact absurd hs new
  | exited => exact absurd ((exitPoller_apart r id id).suffix hs (bne_self_eq_false id)) new
  | queued consulted => exact absurd (consulted.older_fact hs nofun) new
  | answered consulted =>
    have poller := consulted.sameControl.pollerAt.mpr hp
    rcases (takeResult_taken ..).reported poller (count.trans consulted.tally.symm) hs with old | ⟨he, reported⟩
    · exact absurd (consulted.older_fact old nofun) new
    · exact ⟨_, _, _, he, reported⟩

theorem PollerStep.ignores {r : Relay σ} {id : TaskId} {failures : Nat} {stage : PollerStage} {turn : Turn × Relay σ}
    (step : r.PollerStep id failures stage turn) (tallied : r.Tallied) (hp : r.PollerAt id failures stage)
    {result : FetchResult} {fault : FetchFault} (stands : result.fault? = some fault) (soft : fault.isFailure = false)
    {earlier : List Occurrence} (hs : .resultTaken id result :: earlier <:+ turn.2.past)
    (new : ¬ .resultTaken id result :: earlier <:+ r.past) :
    turn.1 = .going ∧ turn.2.Ignored id result fault earlier := by
  have count := tallied.counted hp
  cases step with
  | orphaned | rested | asleep | resting => exact absurd hs new
  | exited => exact absurd ((exitPoller_apart r id id).suffix hs (bne_self_eq_false id)) new
  | queued consulted => exact absurd (consulted.older_fact hs nofun) new
  | answered consulted =>
    have poller := consulted.sameControl.pollerAt.mpr hp
    have taken := (takeResult_taken ..).ignores poller (count.trans consulted.tally.symm) stands soft hs
    exact taken.resolve_left fun old => new (consulted.older_fact old nofun)

theorem Taken.older {r : Relay σ} {id : TaskId} {failures : Nat} {token : TokenId} {result : FetchResult}
    {turn : Turn × Relay σ} (taken : r.Taken id failures token result turn) {stage : PollerStage}
    (hp : r.PollerAt id failures stage) : r.past <:+ turn.2.past := by
  rcases taken.flow hp with ⟨f, rfl, -, he⟩ | ⟨calm, -⟩
  · have told : (r.note (.resultTaken id (.fetched f))).PollerAt id failures stage := hp
    rw [he]
    exact (List.suffix_cons _ _).trans (passOn_gained told f).past
  · exact calm.past

/-- While somebody is registered, a poller that is ready asks the source in its next step. -/
theorem PollerAt.fetches {r : Relay σ} (hl : r.Lifecycle) {id : TaskId} {failures : Nat}
    (hp : r.PollerAt id failures .ready) (hc : r.hasController = true) (hr : r.registry.isEmpty = false) :
    .fetchStarted id r.cursor :: r.past <:+ (r.pollerTurn id failures .ready).2.past := by
  have step := pollerTurn_step r id failures .ready
  generalize r.pollerTurn id failures .ready = turn at step
  cases step with
  | orphaned alone =>
    obtain ⟨token, hs⟩ := hl.current hc hp
    rw [alone hc] at hs
    contradiction
  | exited _ empty => exact absurd (hr.symm.trans empty) Bool.false_ne_true
  | queued consulted =>
    cases consulted with
    | asked => exact List.suffix_refl _
  | @answered _ token result _ consulted =>
    have poller := consulted.sameControl.pollerAt.mpr hp
    cases consulted with
    | declined _ _ slot flag => exact absurd ((hl.flag slot).symm.trans flag) (by simp [hr])
    | asked => exact (takeResult_taken _ id failures _ result).older poller

/-- Every report of a failed fetch comes from a step of its poller. -/
theorem move_reported {r : Relay σ} (tallied : r.Tallied) {m : Move} {id : TaskId} {source : String}
    {fault : FetchFault} {n : Nat} {delay : Duration} {facts : List Occurrence}
    (hs : .fetchFailed id source fault n delay :: facts <:+ (r.move m).past)
    (new : ¬ .fetchFailed id source fault n delay :: facts <:+ r.past) :
    m = .turn id ∧ ∃ result earlier token, facts = .resultTaken id result :: earlier ∧
      (r.move m).Reported (.fetchFailed id source fault n delay) id result earlier delay token := by
  rcases move_passesOver r m id with passed | ⟨failures, stage, rfl, hp, he⟩
  · exact absurd (passed.facts.suffix hs (bne_self_eq_false id)) new
  · rw [he] at hs ⊢
    exact ⟨rfl, (pollerTurn_step r id failures stage).reported tallied hp hs new⟩

/-- Every interrupt or timeout is ignored in a step of its poller, which goes on. -/
theorem move_ignores {r : Relay σ} (tallied : r.Tallied) {m : Move} {id : TaskId} {result : FetchResult}
    {fault : FetchFault} (stands : result.fault? = some fault) (soft : fault.isFailure = false)
    {earlier : List Occurrence} (hs : .resultTaken id result :: earlier <:+ (r.move m).past)
    (new : ¬ .resultTaken id result :: earlier <:+ r.past) :
    ∃ failures stage, m = .turn id ∧ r.PollerAt id failures stage ∧
      (r.pollerTurn id failures stage).1 = .going ∧ (r.move m).Ignored id result fault earlier := by
  rcases move_passesOver r m id with passed | ⟨failures, stage, rfl, hp, he⟩
  · exact absurd (passed.facts.suffix hs (bne_self_eq_false id)) new
  · rw [he] at hs ⊢
    have ignored := (pollerTurn_step r id failures stage).ignores tallied hp stands soft hs new
    exact ⟨failures, stage, rfl, hp, ignored⟩

/-- As long as no step of its own comes, a poller stays ready. -/
theorem PollerAt.fetches_next {source : σ} {r : Relay σ} (hr : Reachable source r) {id : TaskId} {failures : Nat}
    (hp : r.PollerAt id failures .ready) : r.FetchesNext id := by
  intro moves idle hc filled
  have ready : (r.follow moves).PollerAt id failures .ready := by
    clear hc filled
    induction moves using List.reverseRecOn with
    | nil => exact hp
    | append_singleton moves m ih =>
      rw [follow_concat]
      rcases move_passesOver (r.follow moves) m id with passed | ⟨_, _, rfl, -, -⟩
      · exact passed.stays (ih fun hm => idle (List.mem_append_left _ hm))
      · exact absurd (List.mem_append_right moves List.mem_cons_self) idle
  have lifecycle := seen_lifecycle (.between (hr.follow moves))
  have fetched := ready.fetches lifecycle hc filled
  obtain ⟨name, ht⟩ := ready
  simpa [move, advance, ht, Task.hasEnded, turn] using fetched

/-- Without jitter, whatever the source answers: every notice of a failed fetch carries the number of failures since the
last fetch of that poller that brought an event, and then the poller waits out the delay after one failure fewer. After
an interrupt or a timeout it goes on, and fetches in its next step. The bus has carried the notices. -/
theorem failures_are_waited_out {source : σ} {start : Relay σ} (h : Created source start)
    (unvaried : start.settings.backoff.jitter = .none) (moves : List Move) :
    (start.follow moves).Announced ∧
    (∀ {o facts body}, o :: facts <:+ (start.follow moves).past → o.notice? = some body → body.kind = .fetchFailed →
      ∃ id result fault earlier delay token before after, facts = .resultTaken id result :: earlier ∧
        result.fault? = some fault ∧ fault.isFailure = true ∧
        body = { kind := .fetchFailed, reason := some fault.label, count := some (tally id facts) } ∧
        (∀ draw, start.settings.backoff.delay? (tally id earlier) draw = some delay) ∧
        moves = before ++ .turn id :: after ∧ (start.follow (before ++ [.turn id])).past = o :: facts ∧
        (start.follow (before ++ [.turn id])).WaitsOut id (tally id facts) token delay) ∧
    ∀ {id result fault earlier}, .resultTaken id result :: earlier <:+ (start.follow moves).past →
      result.fault? = some fault → fault.isFailure = false →
      ∃ before after failures stage, moves = before ++ .turn id :: after ∧
        (start.follow before).PollerAt id failures stage ∧
        ((start.follow before).pollerTurn id failures stage).1 = .going ∧
        (start.follow (before ++ [.turn id])).Ignored id result fault earlier ∧
        (start.follow (before ++ [.turn id])).FetchesNext id := by
  have tallied : ∀ moves, (start.follow moves).Tallied := follow_keeps tallied_invariant.move (created_tallied h)
  refine ⟨seen_announced (.between ((Reachable.created h).follow moves)), ?_, ?_⟩
  · intro o facts body hs told kind
    obtain ⟨before, m, after, rfl, new, there⟩ := fact_origin h hs
    cases o with
    | fetchFailed id source fault n delay =>
      obtain ⟨rfl, result, earlier, token, rfl, reported⟩ := move_reported (tallied before) there new
      rw [← follow_concat] at reported
      obtain ⟨past, ⟨source', fault', stands, hard, he⟩, ⟨draw, computed⟩, pausing⟩ := reported
      cases he
      cases told
      have settings := (follow_onward start (before ++ [.turn id])).settings
      refine ⟨id, result, fault, earlier, delay, token, before, after, rfl, stands, hard, rfl, fun draw' => ?_, rfl,
        past, pausing.waits_out⟩
      calc start.settings.backoff.delay? (tally id earlier) draw'
        _ = start.settings.backoff.base? (tally id earlier) := Backoff.delay?_unvaried unvaried _ _
        _ = start.settings.backoff.delay? (tally id earlier) draw := (Backoff.delay?_unvaried unvaried _ _).symm
        _ = some delay := settings ▸ computed
    | discarded _ _ reason => cases reason <;> first | contradiction | (cases told; contradiction)
    | _ => first | contradiction | (cases told; contradiction)
  · intro id result fault earlier hs stands soft
    obtain ⟨before, m, after, rfl, new, there⟩ := fact_origin h hs
    obtain ⟨failures, stage, rfl, hp, going, ignored⟩ := move_ignores (tallied before) stands soft there new
    rw [← follow_concat] at ignored
    exact ⟨before, after, failures, stage, rfl, hp, going, ignored,
      ignored.ready.fetches_next ((Reachable.created h).follow _)⟩

/-- A fetch fails, one is interrupted at once after the pause, and at the next one the source panics. -/
theorem failures_are_waited_out_plain :
    let start := plain (Script.create [.failed .closed, .failed .interrupted, .panicked "overrun"])
    let moves := [Move.request (.call (.add "a" 0)), .turn 0, .sleep (.ofMillis 10), .turn 0, .turn 0, .turn 0]
    start.settings.backoff.jitter = .none ∧
      (start.follow moves).past.head? =
        some (.fetchFailed 0 "scripted" (.failed "source panicked: overrun") 2 (.ofMillis 20)) ∧
      ∃ id delay token before after, moves = before ++ .turn id :: after ∧
        (start.follow (before ++ [.turn id])).WaitsOut id 2 token delay := by
  intro start moves
  have head : (start.follow moves).past.head? =
      some (.fetchFailed 0 "scripted" (.failed "source panicked: overrun") 2 (.ofMillis 20)) := by decide +kernel
  obtain ⟨facts, past⟩ := List.head?_eq_some_iff.mp head
  obtain ⟨id, _, _, _, delay, token, before, after, -, -, -, body, -, split, -, waits⟩ :=
    (failures_are_waited_out (plain_created _) rfl moves).2.1 ⟨[], past.symm⟩ rfl rfl
  have count : 2 = tally id facts := Option.some.inj (congrArg NoticeBody.count body)
  exact ⟨rfl, head, id, delay, token, before, after, split, count ▸ waits⟩

end Relay

end EventRelay
