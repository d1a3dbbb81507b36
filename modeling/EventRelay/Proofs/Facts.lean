import Mathlib.Data.List.Induction
import EventRelay.Proofs.Lifecycle

namespace EventRelay

/-- A fact about subscribers, their queues and handlers, or the tasks. The controller, its poller and the source are
left alone where it comes about. -/
def Occurrence.isAside : Occurrence → Bool
  | .subscriberAdded .. | .subscriberRemoved .. | .subscribersRemoved .. | .spawned .. | .unclaimed .. | .fired ..
  | .queued .. | .dropped .. | .discarded .. | .entered .. | .reacted .. | .written _ | .completed ..
  | .handlerPanicked .. => true
  | _ => false

/-- A fact that tells neither of a fetch nor of a reset of the cursor. -/
def Occurrence.isQuiet : Occurrence → Bool
  | .cursorReset | .fetchStarted .. | .resultTaken .. | .nothingFetched _ | .fetchFailed .. | .eventsSkipped .. => false
  | _ => true

/-- A fact of what a change of the registry brings about: in the registry, and in the slot of the poller. -/
def Occurrence.isUpkeep : Occurrence → Bool
  | .registryFilled | .registryEmptied | .subscriberAdded .. | .cursorReset | .spawned .. | .pollerStarted ..
  | .pollerReclaimed _ | .pollerRevived | .pollerInterrupted _ | .interruptCalled _ => true
  | _ => false

theorem Occurrence.isQuiet_of_aside {o : Occurrence} (h : o.isAside = true) : o.isQuiet = true := by
  cases o <;> first | rfl | contradiction

theorem Occurrence.isAside_of_remark {o : Occurrence} (h : o.isRemark = true) : o.isAside = true := by
  cases o <;> first | rfl | contradiction

/-- A fact that is not among the new ones was there before, with all that was before it. -/
theorem suffix_of_append {o : Occurrence} {earlier news past : List Occurrence} (h : o :: earlier <:+ news ++ past)
    (old : o ∉ news) : o :: earlier <:+ past := by
  obtain ⟨later, he⟩ := h
  rcases List.append_eq_append_iff.mp he with ⟨within, rfl, hw⟩ | ⟨between, rfl, hb⟩
  · cases within with
    | nil => exact hw ▸ List.suffix_refl _
    | cons p rest =>
      obtain ⟨rfl, -⟩ := List.cons.inj hw
      exact absurd (List.mem_append_right later List.mem_cons_self) old
  · exact hb ▸ List.suffix_append between _

theorem suffix_cons_ne {o p : Occurrence} {earlier past : List Occurrence} (h : o :: earlier <:+ p :: past)
    (other : o ≠ p) : o :: earlier <:+ past := by
  have old : o ∉ [p] := by simpa using other
  exact suffix_of_append h old

namespace Relay

variable {σ : Type}

/-- All new facts are of a kind. -/
def Adds (p : Occurrence → Bool) (r r' : Relay σ) : Prop :=
  ∃ news, r'.past = news ++ r.past ∧ ∀ o ∈ news, p o = true

section Kinds

variable {p q : Occurrence → Bool} {r r' r'' : Relay σ}

theorem Adds.nothing (h : r'.past = r.past) : Adds p r r' := ⟨[], h, fun _ hm => absurd hm List.not_mem_nil⟩

theorem Adds.refl (r : Relay σ) : Adds p r r := .nothing rfl

theorem Adds.one {o : Occurrence} (h : r'.past = o :: r.past) (ho : p o = true) : Adds p r r' :=
  ⟨[o], h, fun _ hm => List.mem_singleton.mp hm ▸ ho⟩

theorem note_adds (r : Relay σ) {o : Occurrence} (ho : p o = true) : Adds p r (r.note o) := .one rfl ho

theorem Adds.trans (h : Adds p r r') (h' : Adds p r' r'') : Adds p r r'' := by
  obtain ⟨news, he, hn⟩ := h
  obtain ⟨news', he', hn'⟩ := h'
  refine ⟨news' ++ news, by rw [he', he, List.append_assoc], fun o hm => ?_⟩
  exact (List.mem_append.mp hm).elim (hn' o) (hn o)

theorem Adds.mono (h : Adds p r r') (hp : ∀ o, p o = true → q o = true) : Adds q r r' := by
  obtain ⟨news, he, hn⟩ := h
  exact ⟨news, he, fun o hm => hp o (hn o hm)⟩

theorem Adds.foldl {α : Type} {f : Relay σ → α → Relay σ} (hf : ∀ (r : Relay σ) a, Adds p r (f r a)) (xs : List α)
    (r : Relay σ) : Adds p r (xs.foldl f r) :=
  xs.foldlRecOn f (.refl r) fun r' done a _ => done.trans (hf r' a)

theorem Adds.filterMap {α : Type} {f : Occurrence → Option α} (h : Adds p r r') (hf : ∀ o, p o = true → f o = none) :
    r'.past.filterMap f = r.past.filterMap f := by
  obtain ⟨news, he, hn⟩ := h
  rw [he, List.filterMap_append, List.filterMap_eq_nil_iff.mpr fun o hm => hf o (hn o hm), List.nil_append]

theorem Adds.filter (h : Adds p r r') (hq : ∀ o, p o = true → q o = false) :
    r'.past.filter q = r.past.filter q := by
  obtain ⟨news, he, hn⟩ := h
  have none : news.filter q = [] := List.filter_eq_nil_iff.mpr fun o hm => by simp [hq o (hn o hm)]
  rw [he, List.filter_append, none, List.nil_append]

theorem Adds.count (h : Adds p r r') {o : Occurrence} (ho : p o = false) : r'.past.count o = r.past.count o := by
  obtain ⟨news, he, hn⟩ := h
  have none : news.count o = 0 := List.count_eq_zero.mpr fun hm => by simp [hn o hm] at ho
  rw [he, List.count_append, none, Nat.zero_add]

/-- A fact of another kind stands where it stood. -/
theorem Adds.suffix (h : Adds p r r') {o : Occurrence} {earlier : List Occurrence} (hs : o :: earlier <:+ r'.past)
    (ho : p o = false) : o :: earlier <:+ r.past := by
  obtain ⟨news, he, hn⟩ := h
  exact suffix_of_append (he ▸ hs) fun new => by simp [hn o new] at ho

end Kinds

theorem startWorker_adds (r : Relay σ) (sub : SubId) (s : Subscriber) :
    Adds Occurrence.isAside r (r.startWorker sub s) := by
  unfold startWorker
  split
  · exact .refl r
  · exact note_adds _ rfl

theorem handTo_adds (r : Relay σ) (sub : SubId) (d : Delivery) : Adds Occurrence.isAside r (r.handTo sub d) := by
  unfold handTo
  split
  · exact .refl r
  · split
    · exact note_adds _ rfl
    · have queued : Adds Occurrence.isAside r ((r.updateSubscriber sub (·.append d)).note (.queued (r.party sub) d)) :=
        note_adds _ rfl
      exact queued.trans (startWorker_adds _ sub _)

theorem dispatch_adds (r : Relay σ) (targets : List SubId) (d : Delivery) :
    Adds Occurrence.isAside r (r.dispatch targets d) :=
  Adds.foldl (fun r sub => handTo_adds r sub d) targets r

theorem discardPending_adds (r : Relay σ) (reason : DiscardReason) (sub : SubId) :
    Adds Occurrence.isAside r (r.discardPending reason sub) := by
  unfold discardPending
  split
  · exact .refl r
  · split
    · exact .refl r
    · exact note_adds _ rfl

theorem fireEvent_adds (r : Relay σ) (event : Event) : Adds Occurrence.isAside r (r.fireEvent event).2 := by
  have told : Adds Occurrence.isAside r (r.note (.fired event (r.registry.membersOf event.name))) := note_adds r rfl
  unfold fireEvent
  dsimp only
  split
  · exact told
  · exact told.trans (note_adds _ rfl)

theorem reportOutcome_adds (r : Relay σ) (sub : SubId) (d : Delivery) (panic : Option String) :
    Adds Occurrence.isAside r (r.reportOutcome sub d panic) := by
  cases panic with
  | none => exact note_adds _ rfl
  | some message => exact note_adds _ rfl

theorem leaveHandler_adds (r : Relay σ) (id : TaskId) (sub : SubId) (d : Delivery) (panic : Option String) :
    Adds Occurrence.isAside r (r.leaveHandler id sub d panic).2 := by
  rw [leaveHandler_eq]
  exact reportOutcome_adds r sub d panic

theorem firingTurn_adds (r : Relay σ) (id : TaskId) (event : Event) (targets : List SubId) :
    Adds Occurrence.isAside r (r.firingTurn id event targets) :=
  dispatch_adds r targets ⟨event, id⟩

theorem handOut_adds (r : Relay σ) (id : TaskId) (f : Fetched) : Adds Occurrence.isAside r (r.handOut id f) := by
  unfold handOut
  split
  · exact note_adds r rfl
  · exact dispatch_adds r _ _

/-- What is told of the registry when it changes. -/
def turned (old new : Registry) : List Occurrence :=
  match old.isEmpty, new.isEmpty with
  | true, false => [.registryFilled]
  | false, true => [.registryEmptied]
  | _, _ => []

theorem withRegistry_past (r : Relay σ) (registry : Registry) :
    (r.withRegistry registry).past = turned r.registry registry ++ r.past := by
  unfold withRegistry turned
  cases r.registry.isEmpty <;> cases registry.isEmpty <;> rfl

theorem Changed.adds {r r' : Relay σ} {registry : Registry} (h : r.Changed registry r') :
    Adds Occurrence.isAside (r.withRegistry registry) r' := by
  cases h with
  | silent => exact .refl _
  | told => exact note_adds _ rfl

theorem withRegistry_quiet (r : Relay σ) (registry : Registry) :
    Adds Occurrence.isQuiet r (r.withRegistry registry) := by
  refine ⟨_, withRegistry_past r registry, ?_⟩
  unfold turned
  cases r.registry.isEmpty <;> cases registry.isEmpty <;> simp [Occurrence.isQuiet]

theorem Changed.quiet {r r' : Relay σ} {registry : Registry} (h : r.Changed registry r') :
    Adds Occurrence.isQuiet r r' :=
  (withRegistry_quiet r registry).trans (h.adds.mono fun _ => Occurrence.isQuiet_of_aside)

theorem Changed.upkeep {r r' : Relay σ} {registry : Registry} (h : r.Changed registry r') :
    Adds Occurrence.isUpkeep r r' := by
  have turned : Adds Occurrence.isUpkeep r (r.withRegistry registry) := by
    refine ⟨_, withRegistry_past r registry, ?_⟩
    unfold Relay.turned
    cases r.registry.isEmpty <;> cases registry.isEmpty <;> simp [Occurrence.isUpkeep]
  cases h with
  | silent => exact turned
  | told => exact turned.trans (note_adds _ rfl)

/-- The facts that a move of the cursor adds. -/
def skips (c : Cursor) (f : Fetched) : List Occurrence :=
  if c.skipped f.index = 0 then [] else [.eventsSkipped f.event.name f.index (c.skipped f.index)]

theorem moveCursor_past (r : Relay σ) (f : Fetched) : (r.moveCursor f).past = skips r.cursor f ++ r.past := by
  unfold moveCursor skips
  dsimp only
  split <;> rfl

variable [EventSource σ]

theorem startPoller_quiet (r : Relay σ) : Adds Occurrence.isQuiet r r.startPoller :=
  ⟨[.pollerStarted r.sourceName r.tasks.size r.readClock.1, .spawned r.tasks.size r.settings.pollerName], rfl,
    by simp [Occurrence.isQuiet]⟩

theorem stopPoller_quiet (r : Relay σ) (s : PollerSlot) : Adds Occurrence.isQuiet r (r.stopPoller s) :=
  ⟨[.pollerInterrupted r.sourceName, .interruptCalled .controller], rfl, by simp [Occurrence.isQuiet]⟩

theorem Alignment.upkeep {r r' : Relay σ} (h : r.Alignment r') : Adds Occurrence.isUpkeep r r' := by
  have started : ∀ r : Relay σ, Adds Occurrence.isUpkeep r r.startPoller := fun r =>
    ⟨[.pollerStarted r.sourceName r.tasks.size r.readClock.1, .spawned r.tasks.size r.settings.pollerName], rfl,
      by simp [Occurrence.isUpkeep]⟩
  have vacated : Adds Occurrence.isUpkeep r r.vacate := note_adds _ rfl
  cases h with
  | resting | stopping | running => exact .refl r
  | started => exact started r
  | buried => exact vacated.trans (note_adds _ rfl)
  | replaced => exact vacated.trans (started _)
  | stopped =>
    exact ⟨[.pollerInterrupted r.sourceName, .interruptCalled .controller], rfl, by simp [Occurrence.isUpkeep]⟩
  | revived => exact .one rfl rfl

theorem letGo_quiet (r : Relay σ) : Adds Occurrence.isQuiet r r.letGo ∧ r.letGo.cursor = r.cursor := by
  have stopped : Adds Occurrence.isQuiet r r.abandonPoller ∧ r.abandonPoller.cursor = r.cursor := by
    unfold abandonPoller
    split
    · exact ⟨.refl r, rfl⟩
    · exact ⟨note_adds _ rfl, rfl⟩
  exact ⟨stopped.1.trans (withRegistry_quiet _ _), (withRegistry_aside r.abandonPoller _).cursor.trans stopped.2⟩

/-- A deed adds quiet facts and leaves the cursor alone, unless it brings the poller in step with the registry. -/
theorem Deed.quiet {r r' : Relay σ} (h : Deed r r') :
    (Adds Occurrence.isQuiet r r' ∧ r'.cursor = r.cursor) ∨
    ∃ r₀ registry, r.hasController = true ∧ r.Changed registry r₀ ∧ r' = r₀.followRegistry := by
  have aside : ∀ o : Occurrence, o.isAside = true → o.isQuiet = true := fun _ => Occurrence.isQuiet_of_aside
  cases h with
  | told o remark => exact .inl ⟨note_adds r (aside o (o.isAside_of_remark remark)), rfl⟩
  | aligned hc _ changed => exact .inr ⟨_, _, hc, changed, rfl⟩
  | discarded reason sub =>
    exact .inl ⟨(discardPending_adds r reason sub).mono aside, (discardPending_aside r reason sub).cursor⟩
  | fired event _ => exact .inl ⟨(fireEvent_adds r event).mono aside, (fireEvent_aside r event).cursor⟩
  | posted accepted =>
    obtain ⟨source, -, rfl⟩ := postToSource_ok accepted
    exact .inl ⟨note_adds _ rfl, rfl⟩
  | interrupted => exact .inl ⟨note_adds _ rfl, rfl⟩
  | letGone _ =>
    have gone := letGo_quiet { r with handles := r.handles - 1 }
    have dropped : Adds Occurrence.isQuiet r { r with handles := r.handles - 1 } := .nothing rfl
    exact .inl ⟨dropped.trans gone.1, gone.2⟩
  | closed | pushed | permitted | slept | observed | cloned | dropped => exact .inl ⟨.nothing rfl, rfl⟩

/-- What a worker does adds facts about its subscriber alone, and leaves everything else as it is. -/
theorem Act.aside {r r' : Relay σ} (h : Act r r') :
    Deed r r' ∨ (r.Still r' ∧ Adds Occurrence.isAside r r') := by
  rcases h.still with deed | still
  · exact .inl deed
  · cases h with
    | deed h => exact .inl h
    | began => exact .inr ⟨still, note_adds _ rfl⟩
    | left _ d panic => exact .inr ⟨still, leaveHandler_adds r _ _ d panic⟩
    | waited | retired | orphaned => exact .inr ⟨still, .nothing rfl⟩

theorem Consulted.past {r r' : Relay σ} {id : TaskId} {stage : PollerStage} {token : TokenId} {reply : FetchReply}
    (h : r.Consulted id stage token reply r') : r'.past = r.past ∨ r'.past = .fetchStarted id r.cursor :: r.past := by
  cases h with
  | asked => exact .inr rfl
  | declined | withdrawn | resumed => exact .inl rfl

/-- Every fact comes about in one of the moves. -/
theorem fact_origin {source : σ} {start : Relay σ} (h : Created source start) {moves : List Move} {o : Occurrence}
    {earlier : List Occurrence} (hs : o :: earlier <:+ (start.follow moves).past) :
    ∃ before m after, moves = before ++ m :: after ∧ ¬ o :: earlier <:+ (start.follow before).past ∧
      o :: earlier <:+ ((start.follow before).move m).past := by
  induction moves using List.reverseRecOn with
  | nil =>
    obtain ⟨settings, surroundings, handlers, h⟩ := h
    obtain ⟨bus, -, rfl⟩ := Option.map_eq_some_iff.mp h
    exact absurd (List.suffix_nil.mp hs) (List.cons_ne_nil _ _)
  | append_singleton moves m ih =>
    by_cases old : o :: earlier <:+ (start.follow moves).past
    · obtain ⟨before, m', after, rfl, origin⟩ := ih old
      exact ⟨before, m', after ++ [m], by simp, origin⟩
    · rw [follow_concat] at hs
      exact ⟨moves, m, [], rfl, old, hs⟩

end Relay

end EventRelay
