import EventRelay.Proofs.Ledger
import EventRelay.Proofs.Lives
import Mathlib.Algebra.Ring.Nat

namespace EventRelay

namespace Occurrence

/-- The subscriber that lost an event, or several. -/
def loser? : Occurrence → Option Party
  | .dropped party _ => some party
  | .discarded party .. => some party
  | .handlerPanicked party .. => some party
  | _ => none

def isLossless (o : Occurrence) : Bool := o.loser?.isNone

/-- How many events of a subscriber were discarded without a notice. -/
def abandoned? (sub : SubId) : Occurrence → Option Nat
  | .discarded party ds .abandoned => if party.id = sub then some ds.length else none
  | _ => none

end Occurrence

/-- The notice is of a kind, and about a subscriber of that name. -/
def NoticeBody.isAbout (kind : NoticeKind) (name : String) (n : NoticeBody) : Bool :=
  decide (n.kind = kind) && decide (n.subscriber = some name)

/-- What the notices of these facts say of a subscriber of that name. -/
def about (past : List Occurrence) (kind : NoticeKind) (name : String) : List NoticeBody :=
  (past.filterMap Occurrence.notice?).filter (NoticeBody.isAbout kind name)

theorem about_cons (o : Occurrence) (past : List Occurrence) (kind : NoticeKind) (name : String) :
    about (o :: past) kind name = o.notice?.toList.filter (NoticeBody.isAbout kind name) ++ about past kind name := by
  cases told : o.notice? with
  | none => simp [about, told]
  | some n =>
    simp only [about, List.filterMap_cons, told, List.filter_cons, Option.toList_some]
    split <;> rfl

/-- Where a name tells the subscriber, the notices agree with what happened at its queue. -/
theorem tally_about {past : List Occurrence} {sub : SubId} {name : String}
    (told : ∀ o ∈ past, ∀ party, o.loser? = some party → (party.id = sub ↔ party.name = name)) :
    (QueueFact.tally (past.filterMap (Occurrence.queueFact? sub))).dropped =
      (about past .eventDropped name).length ∧
    (QueueFact.tally (past.filterMap (Occurrence.queueFact? sub))).panicked =
      (about past .handlerPanicked name).length ∧
    (QueueFact.tally (past.filterMap (Occurrence.queueFact? sub))).discarded =
      ((about past .queueDiscarded name).map fun n => n.count.getD 0).sum +
        (past.filterMap (Occurrence.abandoned? sub)).sum := by
  induction past with
  | nil => exact ⟨rfl, rfl, rfl⟩
  | cons o rest ih =>
    obtain ⟨here, others⟩ := List.forall_mem_cons.mp told
    obtain ⟨dropped, panicked, discarded⟩ := ih others
    simp only [List.filterMap_cons, about_cons]
    cases o with
    | dropped party d | handlerPanicked party d message =>
      have named := here party rfl
      by_cases he : party.name = name <;>
        simp [Occurrence.queueFact?, Occurrence.notice?, Occurrence.abandoned?, QueueFact.tally, NoticeBody.isAbout,
          named, he, dropped, panicked, discarded, Nat.add_comm]
    | discarded party ds reason =>
      have named := here party rfl
      cases reason <;> by_cases he : party.name = name <;>
        simp [Occurrence.queueFact?, Occurrence.notice?, Occurrence.abandoned?, QueueFact.tally, NoticeBody.isAbout,
          named, he, dropped, panicked, discarded] <;> omega
    | queued party d | entered party d | completed party d =>
      by_cases he : party.id = sub <;>
        simp [Occurrence.queueFact?, Occurrence.notice?, Occurrence.abandoned?, QueueFact.tally, he, dropped, panicked,
          discarded]
    | _ =>
      simp [Occurrence.queueFact?, Occurrence.notice?, Occurrence.abandoned?, NoticeBody.isAbout, dropped, panicked,
        discarded]

namespace Relay

variable {σ : Type}

/-- Whoever lost an event is named as it is. -/
def signs (r : Relay σ) (o : Occurrence) : Bool := o.loser?.all fun party => decide (party = r.party party.id)

theorem signs_of_lossless (r : Relay σ) {o : Occurrence} (h : o.isLossless = true) : r.signs o = true := by
  have none : o.loser? = none := by simpa [Occurrence.isLossless] using h
  simp [signs, none]

/-- Subscribers keep their names, and new facts name them as they are. -/
structure Signed (r r' : Relay σ) : Prop where
  parties : ∀ sub, r'.party sub = r.party sub
  facts : Adds r.signs r r'

theorem Signed.refl (r : Relay σ) : r.Signed r := ⟨fun _ => rfl, .refl r⟩

theorem Signed.signs {r r' : Relay σ} (h : r.Signed r') : r'.signs = r.signs := by
  funext o
  simp only [Relay.signs, h.parties]

theorem Signed.trans {r r' r'' : Relay σ} (h : r.Signed r') (h' : r'.Signed r'') : r.Signed r'' :=
  ⟨fun sub => (h'.parties sub).trans (h.parties sub), h.facts.trans (h.signs ▸ h'.facts)⟩

/-- Nobody lost anything, and the subscribers are the same. -/
theorem Signed.lossless {r r' : Relay σ} (subscribers : r'.subscribers = r.subscribers)
    (facts : Adds Occurrence.isLossless r r') : r.Signed r' :=
  ⟨fun sub => by simp [party, subscribers], facts.mono fun _ => r.signs_of_lossless⟩

theorem Signed.told {r r' : Relay σ} (news : List Occurrence) (subscribers : r'.subscribers = r.subscribers)
    (past : r'.past = news ++ r.past) (lossless : news.all Occurrence.isLossless = true) : r.Signed r' :=
  .lossless subscribers ⟨news, past, List.all_eq_true.mp lossless⟩

theorem note_signed (r : Relay σ) {o : Occurrence} (h : r.signs o = true) : r.Signed (r.note o) :=
  ⟨fun _ => rfl, note_adds r h⟩

theorem note_lossless (r : Relay σ) {o : Occurrence} (h : o.isLossless = true) : r.Signed (r.note o) :=
  .lossless rfl (note_adds r h)

/-- A subscriber that kept its name lost something. -/
theorem Signed.lose {r r' : Relay σ} (h : r.Signed r') {sub : SubId} {o : Occurrence}
    (loser : o.loser? = some (r.party sub)) : r.Signed (r'.note o) := by
  refine h.trans (note_signed r' ?_)
  have named : r'.party sub = r.party sub := h.parties sub
  simp only [Relay.signs, loser, Option.all_some, decide_eq_true_eq]
  exact named.symm

theorem updateSubscriber_signed (r : Relay σ) (sub : SubId) {f : Subscriber → Subscriber}
    (named : ∀ s, (f s).name = s.name) : r.Signed (r.updateSubscriber sub f) := by
  refine ⟨fun sub' => ?_, .nothing rfl⟩
  unfold party
  change Party.mk sub' ((((r.subscribers.update sub f).get? sub').map _).getD "") = _
  rw [Table.get?_update]
  split
  · cases r.subscribers.get? sub' <;> simp [named]
  · rfl

theorem startWorker_signed (r : Relay σ) (sub : SubId) (s : Subscriber) : r.Signed (r.startWorker sub s) := by
  unfold startWorker
  split
  · exact .refl r
  · have spawned : r.Signed (r.spawn (workerName s.name) (.worker sub .idle)).2 := .lossless rfl (.one rfl rfl)
    exact spawned.trans (updateSubscriber_signed _ sub fun _ => rfl)

theorem handTo_signed (r : Relay σ) (sub : SubId) (d : Delivery) : r.Signed (r.handTo sub d) := by
  unfold handTo
  split
  · exact .refl r
  · split
    · have counted : r.Signed (r.updateSubscriber sub Subscriber.countDropped) :=
        updateSubscriber_signed r sub fun _ => rfl
      exact counted.lose rfl
    · have appended := updateSubscriber_signed r sub (f := (·.append d)) fun _ => rfl
      exact (appended.trans (note_lossless _ rfl)).trans (startWorker_signed _ sub _)

theorem dispatch_signed (r : Relay σ) (targets : List SubId) (d : Delivery) : r.Signed (r.dispatch targets d) :=
  targets.foldlRecOn _ (.refl r) fun r' done sub _ => done.trans (handTo_signed r' sub d)

theorem discardPending_signed (r : Relay σ) (reason : DiscardReason) (sub : SubId) :
    r.Signed (r.discardPending reason sub) := by
  unfold discardPending
  split
  · exact .refl r
  · split
    · exact .refl r
    · have emptied : r.Signed (r.updateSubscriber sub Subscriber.discard) :=
        updateSubscriber_signed r sub fun _ => rfl
      exact emptied.lose rfl

theorem fireEvent_signed (r : Relay σ) (event : Event) : r.Signed (r.fireEvent event).2 := by
  unfold fireEvent
  dsimp only
  split
  · exact note_lossless r rfl
  · exact (note_lossless r rfl).trans (.lossless rfl (.one rfl rfl))

theorem withRegistry_signed (r : Relay σ) (registry : Registry) : r.Signed (r.withRegistry registry) := by
  refine .lossless ?_ ⟨_, withRegistry_past r registry, ?_⟩
  · unfold withRegistry
    dsimp only
    split <;> rfl
  · unfold turned
    cases r.registry.isEmpty <;> cases registry.isEmpty <;> simp [Occurrence.isLossless, Occurrence.loser?]

theorem Changed.signed {r r' : Relay σ} {registry : Registry} (h : r.Changed registry r') : r.Signed r' := by
  cases h with
  | silent => exact withRegistry_signed r registry
  | told => exact (withRegistry_signed r registry).trans (note_lossless _ rfl)

theorem reportOutcome_signed (r : Relay σ) (sub : SubId) (d : Delivery) (panic : Option String) :
    r.Signed (r.reportOutcome sub d panic) := by
  unfold reportOutcome
  cases panic with
  | none =>
    have counted := updateSubscriber_signed r sub (f := Subscriber.countDelivered) fun _ => rfl
    exact counted.trans (note_lossless _ rfl)
  | some message =>
    have counted : r.Signed (r.updateSubscriber sub Subscriber.countPanicked) :=
      updateSubscriber_signed r sub fun _ => rfl
    exact counted.lose rfl

theorem leaveHandler_signed (r : Relay σ) (id : TaskId) (sub : SubId) (d : Delivery) (panic : Option String) :
    r.Signed (r.leaveHandler id sub d panic).2 := by
  rw [leaveHandler_eq]
  exact (reportOutcome_signed r sub d panic).trans (.lossless rfl (.nothing rfl))

theorem beginHandling_signed (r : Relay σ) (sub : SubId) (d : Delivery) (rest : List Delivery) :
    r.Signed (r.beginHandling sub d rest) := by
  have taken := updateSubscriber_signed r sub (f := fun s => { s with pending := rest }) fun _ => rfl
  exact (taken.trans (note_lossless _ rfl)).trans (updateSubscriber_signed _ sub fun _ => rfl)

theorem passOn_signed (r : Relay σ) (id : TaskId) (f : Fetched) : r.Signed (r.passOn id f).2 := by
  have moved : r.Signed (r.moveCursor f) := by
    refine .lossless ?_ ⟨_, moveCursor_past r f, ?_⟩
    · unfold moveCursor
      dsimp only
      split <;> rfl
    · unfold skips
      split <;> simp [Occurrence.isLossless, Occurrence.loser?]
  have handed : (r.moveCursor f).Signed ((r.moveCursor f).handOut id f) := by
    unfold handOut
    split
    · exact note_lossless _ rfl
    · exact dispatch_signed _ _ _
  exact (moved.trans handed).trans (.lossless rfl (.nothing rfl))

theorem firingTurn_signed (r : Relay σ) (id : TaskId) (event : Event) (targets : List SubId) :
    r.Signed (r.firingTurn id event targets) :=
  (dispatch_signed r targets ⟨event, id⟩).trans (.lossless rfl (.nothing rfl))

/-- All facts name the losers as they are. -/
def WellSigned (r : Relay σ) : Prop := ∀ o ∈ r.past, r.signs o = true

theorem Signed.wellSigned {r r' : Relay σ} (h : r.Signed r') (hr : r.WellSigned) : r'.WellSigned := by
  have same := h.signs
  obtain ⟨news, past, signed⟩ := h.facts
  intro o hm
  rw [same]
  rw [past] at hm
  exact (List.mem_append.mp hm).elim (signed o) (hr o)

variable [EventSource σ]

theorem Alignment.signed {r r' : Relay σ} (h : r.Alignment r') : r.Signed r' := by
  cases h with
  | resting | stopping | running => exact .refl r
  | started => exact .told [.pollerStarted _ _ _, .spawned _ _] rfl rfl rfl
  | buried => exact .told [.cursorReset, .pollerReclaimed _] rfl rfl rfl
  | replaced => exact .told [.pollerStarted _ _ _, .spawned _ _, .pollerReclaimed _] rfl rfl rfl
  | stopped => exact .told [.pollerInterrupted _, .interruptCalled _] rfl rfl rfl
  | revived => exact .told [.pollerRevived] rfl rfl rfl

theorem exitPoller_signed (r : Relay σ) (id : TaskId) : r.Signed (r.exitPoller id).2 :=
  .told [.pollerStopped r.sourceName, .cursorReset] rfl rfl rfl

theorem letGo_signed (r : Relay σ) : r.Signed r.letGo := by
  have stopped : r.Signed r.abandonPoller := by
    unfold abandonPoller
    split
    · exact .refl r
    · exact .lossless rfl (.one rfl rfl)
  exact stopped.trans (withRegistry_signed _ _)

theorem Deed.signed {r r' : Relay σ} (h : Deed r r') : r.Signed r' := by
  cases h with
  | told o remark =>
    apply note_lossless
    cases o <;> first | rfl | contradiction
  | aligned _ _ changed => exact changed.signed.trans (followRegistry_alignment _).signed
  | discarded reason sub => exact discardPending_signed r reason sub
  | fired event _ => exact fireEvent_signed r event
  | posted accepted =>
    obtain ⟨source, -, rfl⟩ := postToSource_ok accepted
    exact .lossless rfl (.one rfl rfl)
  | interrupted => exact .lossless rfl (.one rfl rfl)
  | permitted sub f => exact updateSubscriber_signed r sub fun _ => rfl
  | letGone _ =>
    have dropped : r.Signed { r with handles := r.handles - 1 } := .lossless rfl (.nothing rfl)
    exact dropped.trans (letGo_signed _)
  | closed | pushed | slept | observed | cloned | dropped => exact .lossless rfl (.nothing rfl)

theorem Act.signed {r r' : Relay σ} (h : Act r r') : r.Signed r' := by
  cases h with
  | deed h => exact h.signed
  | began => exact beginHandling_signed r _ _ _
  | left _ d panic => exact leaveHandler_signed r _ _ d panic
  | waited | orphaned => exact .lossless rfl (.nothing rfl)
  | retired =>
    exact (updateSubscriber_signed r _ (f := fun s => { s with worker := none }) fun _ => rfl).trans
      (.lossless rfl (.nothing rfl))

theorem Taken.signed {r : Relay σ} {id : TaskId} {failures : Nat} {token : TokenId} {result : FetchResult}
    {turn : Turn × Relay σ} (h : r.Taken id failures token result turn) : r.Signed turn.2 := by
  have told : r.Signed (r.note (.resultTaken id result)) := note_lossless r rfl
  cases h with
  | orphaned => exact .lossless rfl (.nothing rfl)
  | exited => exact exitPoller_signed r id
  | @passed f _ _ => exact told.trans (passOn_signed _ id f)
  | ignored => exact told.trans (.lossless rfl (.one rfl rfl))
  | failed =>
    apply told.trans
    unfold pauseAfter
    split
    · exact .lossless rfl (.nothing rfl)
    · exact .lossless rfl (.one rfl rfl)

theorem PollerStep.signed {r : Relay σ} {id : TaskId} {failures : Nat} {stage : PollerStage} {turn : Turn × Relay σ}
    (h : r.PollerStep id failures stage turn) : r.Signed turn.2 := by
  have asked : ∀ {token reply r'}, r.Consulted id stage token reply r' → r.Signed r' := by
    intro token reply r' h
    cases h with
    | asked => exact .lossless rfl (.one rfl rfl)
    | declined | withdrawn | resumed => exact .lossless rfl (.nothing rfl)
  cases h with
  | orphaned | rested | asleep | resting => exact .lossless rfl (.nothing rfl)
  | exited => exact exitPoller_signed r id
  | answered h => exact (asked h).trans (takeResult_taken _ id failures _ _).signed
  | queued h => exact (asked h).trans (.lossless rfl (.nothing rfl))

theorem wellSigned_invariant : Invariant (WellSigned : Relay σ → Prop) :=
  ⟨fun act hr => act.signed.wellSigned hr, fun _ hr => (pollerTurn_step _ _ _ _).signed.wellSigned hr,
    fun _ hr => (firingTurn_signed _ _ _ _).wellSigned hr⟩

omit [EventSource σ] in
theorem created_wellSigned {source : σ} {r : Relay σ} (h : Created source r) : r.WellSigned := by
  obtain ⟨settings, surroundings, handlers, h⟩ := h
  obtain ⟨bus, -, rfl⟩ := Option.map_eq_some_iff.mp h
  exact fun o hm => absurd hm List.not_mem_nil

/-- The notices of a kind about a subscriber of that name, in order. -/
def noticesAbout (r : Relay σ) (kind : NoticeKind) (name : String) : List NoticeBody :=
  r.notices.filter (NoticeBody.isAbout kind name)

/-- How many events of a subscriber were discarded because the last handle was gone. -/
def abandoned (r : Relay σ) (sub : SubId) : Nat := (r.story.filterMap (Occurrence.abandoned? sub)).sum

/-- The event that the handler of a subscriber was given and has not left yet. -/
def inHandler (r : Relay σ) (sub : SubId) : Option Delivery := QueueFact.inHand (r.queueFacts sub)

omit [EventSource σ] in
theorem noticesAbout_eq (r : Relay σ) (kind : NoticeKind) (name : String) :
    r.noticesAbout kind name = (about r.past kind name).reverse := by
  simp [noticesAbout, notices, story, about]

/-- A discard that is told of took something. -/
theorem discarded_some {source : σ} {r : Relay σ} (h : Seen source r) {party : Party} {ds : List Delivery}
    {reason : DiscardReason} (hm : .discarded party ds reason ∈ r.past) : ds ≠ [] := by
  apply (seen_booked h party.id).taken
  exact List.mem_filterMap.mpr ⟨_, hm, by simp [Occurrence.queueFact?]⟩

/-- What a subscriber lost is counted in its books. -/
theorem loser_loses {source : σ} {r : Relay σ} (h : Seen source r) {o : Occurrence} (hm : o ∈ r.past) {party : Party}
    (loser : o.loser? = some party) : ∃ fact ∈ r.queueFacts party.id, 0 < fact.loss := by
  have among : ∀ {fact}, o.queueFact? party.id = some fact → fact ∈ r.queueFacts party.id :=
    fun told => List.mem_filterMap.mpr ⟨o, hm, told⟩
  cases o with
  | dropped p d =>
    cases loser
    exact ⟨.dropped d, among (by simp [Occurrence.queueFact?]), Nat.one_pos⟩
  | discarded p ds reason =>
    cases loser
    exact ⟨.discarded ds, among (by simp [Occurrence.queueFact?]), List.length_pos_iff.mpr (discarded_some h hm)⟩
  | handlerPanicked p d message =>
    cases loser
    exact ⟨.left d true, among (by simp [Occurrence.queueFact?]), Nat.one_pos⟩
  | _ => contradiction

/-- Whoever lost an event is there, and was named as it is. -/
theorem loser_found {source : σ} {r : Relay σ} (h : Seen source r) {o : Occurrence} (hm : o ∈ r.past) {party : Party}
    (loser : o.loser? = some party) : ∃ s, r.subscribers.get? party.id = some s ∧ s.name = party.name := by
  have signed := wellSigned_invariant.seen (fun _ => created_wellSigned) h o hm
  simp only [signs, loser, Option.all_some, decide_eq_true_eq] at signed
  cases found : r.subscribers.get? party.id with
  | some s =>
    refine ⟨s, rfl, ?_⟩
    rw [signed]
    simp [Relay.party, found]
  | none =>
    -- nobody is there whose counters could show the loss
    have tally : ⟨0, 0, 0, 0⟩ = QueueFact.tally (r.queueFacts party.id) := by
      have shown := (seen_booked h party.id).tally
      simp only [station, Station.ofSubscriber, found] at shown
      exact shown
    obtain ⟨fact, there, lost⟩ := loser_loses h hm loser
    have counted := QueueFact.loss_le there
    rw [← tally] at counted
    exact absurd lost (Nat.not_lt.mpr counted)

theorem discard_notice {source : σ} {r : Relay σ} (h : Seen source r) {n : NoticeBody} (hn : n ∈ r.notices)
    (kind : n.kind = .queueDiscarded) : ∃ k, n.count = some k ∧ 0 < k := by
  obtain ⟨o, hm, published⟩ := List.mem_filterMap.mp hn
  cases o with
  | discarded party ds reason =>
    cases reason with
    | abandoned => contradiction
    | unregistered name =>
      cases published
      exact ⟨_, rfl, List.length_pos_iff.mpr (discarded_some h (List.mem_reverse.mp hm))⟩
  | _ =>
    first
      | contradiction
      | cases published
        contradiction

/-- Between two moves, a worker waits with the event that is inside the handler. -/
theorem inHandler_iff {source : σ} {r : Relay σ} (h : Reachable source r) (sub : SubId) (d : Delivery) :
    r.inHandler sub = some d ↔ ∃ id, r.WorkerAt id sub (.inside d) := by
  have sound := reachable_sound h sub
  simp only [← workersOf_eq_some]
  constructor
  · intro inside
    have handled := sound.hand.symm.trans inside
    obtain ⟨stage, hs, hd⟩ := Option.bind_eq_some_iff.mp handled
    obtain ⟨id, -, hw⟩ := Option.bind_eq_some_iff.mp hs
    cases stage with
    | idle => contradiction
    | inside d' =>
      cases hd
      exact ⟨id, hw⟩
  · rintro ⟨id, hw⟩
    exact sound.inside hw

/-- A name that nobody else has tells the subscriber in every fact about a loss. -/
theorem name_tells {source : σ} {r : Relay σ} (h : Seen source r) {sub : SubId} {s : Subscriber}
    (found : r.subscribers.get? sub = some s)
    (alone : ∀ {sub' s'}, r.subscribers.get? sub' = some s' → s'.name = s.name → sub' = sub) {o : Occurrence}
    (hm : o ∈ r.past) {party : Party} (loser : o.loser? = some party) : party.id = sub ↔ party.name = s.name := by
  obtain ⟨s', found', named⟩ := loser_found h hm loser
  constructor
  · intro same
    rw [same, found] at found'
    cases found'
    exact named.symm
  · intro same
    exact alone found' (named.trans same)

/-- What a subscriber was offered, what became of it, and what was published about that. -/
structure Balanced (r : Relay σ) (sub : SubId) (s : Subscriber) : Prop where
  offers : (sentTo sub r.handings).length = s.tally.delivered + s.tally.panicked + s.tally.dropped + s.tally.discarded +
    s.pending.length + (r.inHandler sub).toList.length
  dropped : s.tally.dropped = (r.noticesAbout .eventDropped s.name).length
  panicked : s.tally.panicked = (r.noticesAbout .handlerPanicked s.name).length
  discarded : s.tally.discarded =
    ((r.noticesAbout .queueDiscarded s.name).map fun n => n.count.getD 0).sum + r.abandoned sub

/-- A subscriber whose name nobody else has is accounted for in full: every event that it was offered was handled, made
the handler panic, was dropped or discarded, waits, or is inside the handler; and the notices about it agree with its
counters, but for what was discarded with the last handle. No notice tells of a discard that took nothing. These are the
notices that the bus has carried. -/
theorem deliveries_balance {source : σ} {r : Relay σ} (h : Seen source r) {sub : SubId} {s : Subscriber}
    (found : r.subscribers.get? sub = some s)
    (alone : ∀ {sub' s'}, r.subscribers.get? sub' = some s' → s'.name = s.name → sub' = sub) :
    r.Balanced sub s ∧ r.Announced ∧
    (∀ n ∈ r.notices, n.kind = .queueDiscarded → ∃ k, n.count = some k ∧ 0 < k) ∧
    (Reachable source r → ∀ d, r.inHandler sub = some d ↔ ∃ id, r.WorkerAt id sub (.inside d)) := by
  have booked := seen_booked h sub
  have tally : s.tally = QueueFact.tally (r.queueFacts sub) := by
    have shown := booked.tally
    rw [station_of found] at shown
    exact shown
  obtain ⟨dropped, panicked, discarded⟩ := tally_about fun o hm party => name_tells h found alone hm
  refine ⟨⟨?_, ?_, ?_, ?_⟩, seen_announced h, fun _ => discard_notice h, fun hr => inHandler_iff hr sub⟩
  · obtain ⟨e, sound⟩ := seen_sound h sub
    have balance := sound.balance booked
    rw [station_of found] at balance
    have offers : QueueFact.offered (r.queueFacts sub) = sentTo sub r.handings := offered_queueFacts r.past sub
    rw [← offers]
    exact balance
  · rw [tally, noticesAbout_eq, List.length_reverse]
    exact dropped
  · rw [tally, noticesAbout_eq, List.length_reverse]
    exact panicked
  · rw [tally, noticesAbout_eq, List.map_reverse, List.sum_reverse, abandoned, story, List.filterMap_reverse,
      List.sum_reverse]
    exact discarded

/-- One event is handled, one is discarded as the subscriber is removed, and one with the last handle. -/
theorem deliveries_balance_plain :
    let r := (plain (EventRing.create .standard)).follow [.request (.call (.add "a" 0)),
      .request (.call (.fire (.named "a"))), .request (.call (.fire (.named "a"))), .turn 1, .turn 2, .turn 3,
      .request (.call (.removeName "a")), .request (.call (.add "a" 0)), .request (.call (.fire (.named "a"))), .turn 4,
      .dropHandle]
    ∃ s, r.subscribers.get? 0 = some s ∧ Seen (EventRing.create .standard) r ∧ s.tally = ⟨1, 0, 0, 2⟩ ∧
      r.abandoned 0 = 1 ∧ (sentTo 0 r.handings).length = 3 ∧ r.Balanced 0 s := by
  intro r
  have seen : Seen (EventRing.create .standard) r := .between ((Reachable.created (plain_created _)).follow _)
  obtain ⟨s, found⟩ : ∃ s, r.subscribers.get? 0 = some s := Table.get?_of_lt (by decide)
  have tally : (r.subscribers.get? 0).map Subscriber.tally = some ⟨1, 0, 0, 2⟩ := by decide
  rw [found] at tally
  have one : r.subscribers.size = 1 := by decide
  have alone : ∀ {sub' s'}, r.subscribers.get? sub' = some s' → s'.name = s.name → sub' = 0 :=
    fun found' _ => Nat.lt_one_iff.mp (one ▸ Table.lt_of_get? found')
  exact ⟨s, found, seen, Option.some.inj tally, by decide, by decide, (deliveries_balance seen found alone).1⟩

end Relay

end EventRelay
