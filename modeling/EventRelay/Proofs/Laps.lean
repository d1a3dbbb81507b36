import EventRelay.Proofs.Delivery

namespace EventRelay

namespace Occurrence

/-- The event that a poller took from the source and handed on, or left to nobody. -/
def settled? : Occurrence → Option Fetched
  | .resultTaken _ (.fetched f) => some f
  | _ => none

/-- The fact has no part in the laps of the cursor. -/
def isOffLap : Occurrence → Bool
  | .cursorReset | .resultTaken _ (.fetched _) | .eventsSkipped .. => false
  | _ => true

theorem isOffLap_of_quiet {o : Occurrence} (h : o.isQuiet = true) : o.isOffLap = true := by
  cases o <;> first | rfl | contradiction

theorem isOffLap_of_aside {o : Occurrence} (h : o.isAside = true) : o.isOffLap = true :=
  isOffLap_of_quiet (isQuiet_of_aside h)

theorem settled?_of_offLap {o : Occurrence} (h : o.isOffLap = true) : o.settled? = none := by
  cases o with
  | resultTaken _ result => cases result <;> first | rfl | contradiction
  | _ => rfl

end Occurrence

/-- The facts since the cursor was last reset, the latest first. -/
def sinceReset (past : List Occurrence) : List Occurrence := past.takeWhile (· != .cursorReset)

/-- The event that was settled last since the cursor was reset. -/
def lastSettled (past : List Occurrence) : Option Fetched := ((sinceReset past).filterMap Occurrence.settled?).head?

theorem ne_reset_of_offLap {o : Occurrence} (h : o.isOffLap = true) : o ≠ .cursorReset := by
  rintro rfl
  contradiction

theorem sinceReset_append {news : List Occurrence} (past : List Occurrence) (h : .cursorReset ∉ news) :
    sinceReset (news ++ past) = news ++ sinceReset past := by
  apply List.takeWhile_append_of_pos
  intro o hm
  simp only [bne_iff_ne]
  rintro rfl
  exact h hm

theorem lastSettled_append {news : List Occurrence} (past : List Occurrence) (h : ∀ o ∈ news, o.isOffLap = true) :
    lastSettled (news ++ past) = lastSettled past := by
  have none : news.filterMap Occurrence.settled? = [] :=
    List.filterMap_eq_nil_iff.mpr fun o hm => Occurrence.settled?_of_offLap (h o hm)
  unfold lastSettled
  rw [sinceReset_append past fun hm => ne_reset_of_offLap (h _ hm) rfl, List.filterMap_append, none, List.nil_append]

theorem lastSettled_skips (c : Cursor) (f : Fetched) (past : List Occurrence) :
    lastSettled (Relay.skips c f ++ past) = lastSettled past := by
  unfold Relay.skips
  split <;> rfl

namespace Relay

variable {σ : Type}

/-- The cursor stayed in its lap, or was reset. No event was settled. -/
inductive LapStep (r r' : Relay σ) : Prop
  | kept (facts : Adds Occurrence.isOffLap r r') (cursor : r'.cursor = r.cursor) : LapStep r r'
  | stamped (facts : Adds Occurrence.isOffLap r r') (unset : r.cursor = .unset) (last : r'.cursor.last = none) :
      LapStep r r'
  | reset (before after : List Occurrence) (past : r'.past = after ++ .cursorReset :: before ++ r.past)
      (off : ∀ o ∈ after ++ before, o.isOffLap = true) (cursor : r'.cursor = .unset) : LapStep r r'

theorem LapStep.unsettled {r r' : Relay σ} (h : r.LapStep r') : Adds (fun o => o.settled?.isNone) r r' := by
  have off : ∀ o : Occurrence, o.isOffLap = true → o.settled?.isNone = true := by
    intro o ho
    rw [Occurrence.settled?_of_offLap ho]
    rfl
  cases h with
  | kept facts | stamped facts => exact facts.mono off
  | reset before after past all _ =>
    refine ⟨after ++ .cursorReset :: before, past, fun o hm => ?_⟩
    rcases List.mem_append.mp hm with ha | hb
    · exact off o (all o (List.mem_append_left _ ha))
    · rcases List.mem_cons.mp hb with rfl | hb
      · rfl
      · exact off o (all o (List.mem_append_right _ hb))

theorem LapStep.follows {r r₀ r' : Relay σ} (h : r₀.LapStep r') (facts : Adds Occurrence.isOffLap r r₀)
    (cursor : r₀.cursor = r.cursor) : r.LapStep r' := by
  cases h with
  | kept more same => exact .kept (facts.trans more) (same.trans cursor)
  | stamped more unset last => exact .stamped (facts.trans more) (cursor.symm.trans unset) last
  | reset before after past off unset =>
    obtain ⟨news, he, hn⟩ := facts
    refine .reset (before ++ news) after ?_ (fun o hm => ?_) unset
    · rw [past, he]
      simp
    · rw [← List.append_assoc] at hm
      exact (List.mem_append.mp hm).elim (off o) (hn o)

theorem told_offLap (r : Relay σ) (id : TaskId) {result : FetchResult} {fault : FetchFault}
    (stands : result.fault? = some fault) : Adds Occurrence.isOffLap r (r.note (.resultTaken id result)) := by
  cases result with
  | fetched => contradiction
  | failed | panicked => exact note_adds r rfl

theorem firingTurn_lapStep {r : Relay σ} {id : TaskId} {event : Event} {targets : List SubId}
    (hf : r.FiringAt id event targets) : r.LapStep (r.firingTurn id event targets) :=
  .kept ((firingTurn_adds r id event targets).mono fun _ => Occurrence.isOffLap_of_aside) (firingTurn_still hf).cursor

/-- The cursor is at the event that was settled last since it was reset. -/
def AtLast (r : Relay σ) : Prop := (lastSettled r.past).map Fetched.index = r.cursor.last

theorem LapStep.atLast {r r' : Relay σ} (h : r.LapStep r') (hr : r.AtLast) : r'.AtLast := by
  unfold AtLast at hr ⊢
  cases h with
  | kept facts cursor =>
    obtain ⟨news, he, off⟩ := facts
    rw [he, lastSettled_append r.past off, cursor]
    exact hr
  | stamped facts unset last =>
    obtain ⟨news, he, off⟩ := facts
    rw [he, lastSettled_append r.past off, last, hr, unset]
    rfl
  | reset before after past off cursor =>
    rw [past, cursor, List.append_assoc, lastSettled_append _ fun o hm => off o (List.mem_append_left _ hm)]
    rfl

variable [EventSource σ]

/-- The poller settled an event: the cursor is at it, and what lies between it and the one before is told. -/
structure Settles (r : Relay σ) (id : TaskId) (f : Fetched) (r' : Relay σ) : Prop where
  fetched : ∃ failures stage token r₁, r.PollerAt id failures stage ∧ r.hasController = true ∧
    r.Consulted id stage token (.ready (.fetched f)) r₁
  past : ∃ asked handed, r'.past = handed ++ skips r.cursor f ++ .resultTaken id (.fetched f) :: asked ++ r.past ∧
    ∀ o ∈ asked ++ handed, o.isOffLap = true
  cursor : r'.cursor = r.cursor.moveTo f.index

theorem Alignment.lapStep {r r' : Relay σ} (h : r.Alignment r') (ht : r.Tracked) (hc : r.hasController = true) :
    r.LapStep r' := by
  have off : ∀ o : Occurrence, o.isQuiet = true → o.isOffLap = true := fun _ => Occurrence.isOffLap_of_quiet
  cases h with
  | resting | stopping | running => exact .kept (.refl r) rfl
  | started hs =>
    have unset := ht.unset hc hs
    refine .stamped ((startPoller_quiet r).mono off) unset ?_
    change r.cursor.last = none
    rw [unset]
    rfl
  | buried =>
    exact .reset [.pollerReclaimed r.sourceName] [] rfl (by simp [Occurrence.isOffLap]) rfl
  | replaced hs =>
    have vacated : Adds Occurrence.isOffLap r r.vacate := note_adds _ rfl
    obtain ⟨since, hsince⟩ := Option.isSome_iff_exists.mp (ht.since hs)
    refine .kept (vacated.trans ((startPoller_quiet _).mono off)) ?_
    change r.cursor.stamp _ = r.cursor
    exact Cursor.ext (by simp [Cursor.stamp, hsince]) rfl
  | @stopped s => exact .kept ((stopPoller_quiet r s).mono off) rfl
  | revived => exact .kept (.one rfl rfl) rfl

theorem Deed.lapStep {r r' : Relay σ} (h : Deed r r') (ht : r.Tracked) : r.LapStep r' := by
  have off : ∀ o : Occurrence, o.isQuiet = true → o.isOffLap = true := fun _ => Occurrence.isOffLap_of_quiet
  rcases h.quiet with ⟨facts, cursor⟩ | ⟨r₀, registry, hc, changed, rfl⟩
  · exact .kept (facts.mono off) cursor
  · have step := (followRegistry_alignment r₀).lapStep (ht.changed changed) (changed.hasController.trans hc)
    exact step.follows (changed.quiet.mono off) changed.aside.cursor

theorem Act.lapStep {r r' : Relay σ} (h : Act r r') (ht : r.Tracked) : r.LapStep r' := by
  rcases h.aside with deed | ⟨still, adds⟩
  · exact deed.lapStep ht
  · exact .kept (adds.mono fun _ => Occurrence.isOffLap_of_aside) still.cursor

theorem exitPoller_lapStep (r : Relay σ) (id : TaskId) : r.LapStep (r.exitPoller id).2 :=
  .reset [] [.pollerStopped r.sourceName] rfl (by simp [Occurrence.isOffLap]) rfl

theorem Consulted.offLap {r r' : Relay σ} {id : TaskId} {stage : PollerStage} {token : TokenId} {reply : FetchReply}
    (h : r.Consulted id stage token reply r') : Adds Occurrence.isOffLap r r' := by
  rcases h.past with same | asked
  · exact .nothing same
  · exact .one asked rfl

theorem passOn_settles {r r₁ : Relay σ} {id : TaskId} {failures : Nat} {stage : PollerStage} {token : TokenId}
    {f : Fetched} (hp : r.PollerAt id failures stage) (hc : r.hasController = true)
    (consulted : r.Consulted id stage token (.ready (.fetched f)) r₁) :
    r.Settles id f (((r₁.note (.resultTaken id (.fetched f))).passOn id f).2) := by
  have cursor : (r₁.note (.resultTaken id (.fetched f))).cursor = r.cursor := consulted.sameControl.cursor
  obtain ⟨asked, he, ha⟩ := consulted.offLap
  obtain ⟨handed, ho, hh⟩ := handOut_adds ((r₁.note (.resultTaken id (.fetched f))).moveCursor f) id f
  refine ⟨⟨failures, stage, token, r₁, hp, hc, consulted⟩, ⟨asked, handed, ?_, fun o hm => ?_⟩, ?_⟩
  · rw [passOn_eq]
    change (((r₁.note (.resultTaken id (.fetched f))).moveCursor f).handOut id f).past = _
    rw [ho, moveCursor_past, cursor]
    change handed ++ (_ ++ _ :: r₁.past) = _
    rw [he]
    simp
  · exact (List.mem_append.mp hm).elim (ha o) fun hm => Occurrence.isOffLap_of_aside (hh o hm)
  · rw [passOn_eq]
    change (((r₁.note (.resultTaken id (.fetched f))).moveCursor f).handOut id f).cursor = _
    rw [(handOut_aside _ id f).cursor, (moveCursor_aside _ f).cursor, cursor]

/-- An answer settles its event, if it is one. -/
theorem Taken.lap {r r₁ : Relay σ} {id : TaskId} {failures : Nat} {token : TokenId} {result : FetchResult}
    {turn : Turn × Relay σ} (h : r₁.Taken id failures token result turn) {stage : PollerStage}
    (consulted : r.Consulted id stage token (.ready result) r₁) (hp : r.PollerAt id failures stage) :
    r.LapStep turn.2 ∨ ∃ f, r.Settles id f turn.2 := by
  have after : r₁.LapStep turn.2 → r.LapStep turn.2 :=
    fun step => step.follows consulted.offLap consulted.sameControl.cursor
  cases h with
  | orphaned => exact .inl (after (.kept (.nothing rfl) rfl))
  | exited => exact .inl (after (exitPoller_lapStep r₁ id))
  | @passed f hc _ => exact .inr ⟨f, passOn_settles hp (consulted.sameControl.hasController.symm.trans hc) consulted⟩
  | @ignored _ fault _ _ stands _ =>
    have noted : Adds Occurrence.isOffLap _ ((r₁.note (.resultTaken id result)).note (.nothingFetched fault)) :=
      note_adds _ rfl
    exact .inl (after (.kept ((told_offLap r₁ id stands).trans noted) rfl))
  | failed _ _ stands =>
    refine .inl (after ?_)
    unfold pauseAfter
    split
    · exact .kept (told_offLap r₁ id stands) rfl
    · exact .kept ((told_offLap r₁ id stands).trans (note_adds _ rfl)) rfl

/-- A step of a poller settles one event at most. -/
theorem PollerStep.lap {r : Relay σ} {id : TaskId} {failures : Nat} {stage : PollerStage} {turn : Turn × Relay σ}
    (h : r.PollerStep id failures stage turn) (hp : r.PollerAt id failures stage) :
    r.LapStep turn.2 ∨ ∃ f, r.Settles id f turn.2 := by
  cases h with
  | orphaned | rested | asleep | resting => exact .inl (.kept (.nothing rfl) rfl)
  | exited => exact .inl (exitPoller_lapStep r id)
  | queued consulted => exact .inl (.kept consulted.offLap consulted.sameControl.cursor)
  | answered consulted => exact (takeResult_taken ..).lap consulted hp

theorem Settles.atLast {r r' : Relay σ} {id : TaskId} {f : Fetched} (h : r.Settles id f r') : r'.AtLast := by
  obtain ⟨asked, handed, past, off⟩ := h.past
  unfold AtLast
  rw [past, h.cursor, List.append_assoc, List.append_assoc, lastSettled_append _ fun o hm =>
    off o (List.mem_append_right _ hm), lastSettled_skips]
  rfl

end Relay

end EventRelay
