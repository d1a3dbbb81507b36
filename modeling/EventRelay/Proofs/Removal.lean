import EventRelay.Proofs.Queue
import EventRelay.Proofs.Stride

namespace EventRelay

theorem Subscriber.discard_of_empty {s : Subscriber} (h : s.pending = []) : s.discard = s := by
  obtain ⟨handler, reactions, pending, worker, permits, tally⟩ := s
  cases h
  rfl

theorem Subscriber.discard_discard (s : Subscriber) : s.discard.discard = s.discard := discard_of_empty rfl

/-- What is in hand stays there until it is done with. -/
theorem QueueFact.inHand_append {news facts : List QueueFact} {d : Delivery}
    (fits : ∀ fact before, fact :: before <:+ news ++ facts → fact.Fits before) (h : inHand facts = some d) :
    inHand (news ++ facts) = some d ∨ ∃ panicked, .left d panicked ∈ news := by
  induction news with
  | nil => exact .inl h
  | cons fact news ih =>
    have fit := fits fact (news ++ facts) (List.suffix_refl _)
    rcases ih fun g before hg => fits g before (hg.trans (List.suffix_cons _ _)) with kept | ⟨panicked, done⟩
    · cases fact with
      | entered d' => exact absurd (kept.symm.trans fit) (Option.some_ne_none d)
      | left d' panicked =>
        obtain rfl : d = d' := Option.some.inj (kept.symm.trans fit)
        exact .inr ⟨panicked, List.mem_cons_self⟩
      | queued _ | dropped _ | discarded _ => exact .inl kept
    · exact .inr ⟨panicked, List.mem_cons_of_mem _ done⟩

namespace Relay

variable {σ : Type}

/-- Some subscribers lost what they had pending. Nothing else happened at any queue. -/
structure Cleared (subs : List SubId) (r r' : Relay σ) : Prop where
  subscribers : ∀ sub, r'.subscribers.get? sub =
    if sub ∈ subs then (r.subscribers.get? sub).map Subscriber.discard else r.subscribers.get? sub
  tasks : ∀ id t, t.isPoller = false → (r'.tasks.get? id = some t ↔ r.tasks.get? id = some t)
  entered : ∀ sub, r'.enteredBy sub = r.enteredBy sub
  inHand : ∀ sub, QueueFact.inHand (r'.queueFacts sub) = QueueFact.inHand (r.queueFacts sub)

theorem Cleared.trans {subs subs' : List SubId} {r r' r'' : Relay σ} (h : r.Cleared subs r')
    (h' : r'.Cleared subs' r'') : r.Cleared (subs ++ subs') r'' where
  subscribers sub := by
    rw [h'.subscribers, h.subscribers]
    by_cases first : sub ∈ subs <;> by_cases second : sub ∈ subs' <;> simp [first, second, Function.comp_def,
      Subscriber.discard_discard]
  tasks id t ht := (h'.tasks id t ht).trans (h.tasks id t ht)
  entered sub := (h'.entered sub).trans (h.entered sub)
  inHand sub := (h'.inHand sub).trans (h.inHand sub)

theorem enteredBy_eq_given (r : Relay σ) (sub : SubId) : r.enteredBy sub = QueueFact.given (r.queueFacts sub) :=
  (given_queueFacts r.past sub).symm

/-- Only facts that tell of no queue were added, and nothing was done but by pollers. -/
theorem Cleared.aloof {r r' : Relay σ} (news : List Occurrence) (hp : r'.past = news ++ r.past)
    (aloof : ∀ o ∈ news, ∀ sub, o.queueFact? sub = none) (hs : r'.subscribers = r.subscribers)
    (tasks : ∀ id t, t.isPoller = false → (r'.tasks.get? id = some t ↔ r.tasks.get? id = some t)) :
    r.Cleared [] r' := by
  have facts : ∀ sub, r'.queueFacts sub = r.queueFacts sub := by
    intro sub
    have none : news.filterMap (Occurrence.queueFact? sub) = [] :=
      List.filterMap_eq_nil_iff.mpr fun o ho => aloof o ho sub
    rw [queueFacts, hp, List.filterMap_append, none]
    rfl
  refine ⟨fun sub => by simp [hs], tasks, fun sub => ?_, fun sub => by rw [facts]⟩
  rw [enteredBy_eq_given, enteredBy_eq_given, facts]

theorem note_cleared (r : Relay σ) {o : Occurrence} (aloof : ∀ sub, o.queueFact? sub = none) :
    r.Cleared [] (r.note o) :=
  .aloof [o] rfl (fun _ ho => List.mem_singleton.mp ho ▸ aloof) rfl fun _ _ _ => Iff.rfl

theorem Cleared.note {subs : List SubId} {r r' : Relay σ} (h : r.Cleared subs r') {o : Occurrence}
    (aloof : ∀ sub, o.queueFact? sub = none) : r.Cleared subs (r'.note o) := by
  have noted := h.trans (note_cleared r' aloof)
  rwa [List.append_nil] at noted

theorem withRegistry_cleared (r : Relay σ) (registry : Registry) : r.Cleared [] (r.withRegistry registry) := by
  have changed : r.Cleared [] { r with registry } := .aloof [] rfl (by simp) rfl fun _ _ _ => Iff.rfl
  unfold withRegistry
  dsimp only
  split
  · exact changed.trans (note_cleared _ fun _ => rfl)
  · exact changed.trans (note_cleared _ fun _ => rfl)
  · exact changed

theorem discardPending_cleared (r : Relay σ) (reason : DiscardReason) (sub : SubId) :
    r.Cleared [sub] (r.discardPending reason sub) := by
  have nothing : (r.subscribers.get? sub).map Subscriber.discard = r.subscribers.get? sub → r.Cleared [sub] r := by
    intro same
    refine ⟨fun sub' => ?_, fun _ _ _ => Iff.rfl, fun _ => rfl, fun _ => rfl⟩
    by_cases he : sub' = sub
    · subst he
      simp [same]
    · simp [he]
  unfold discardPending
  split
  · rename_i absent
    exact nothing (by rw [absent]; rfl)
  · rename_i s found
    split
    · rename_i empty
      exact nothing (by rw [found, Option.map_some, Subscriber.discard_of_empty (List.isEmpty_iff.mp empty)])
    · refine ⟨fun sub' => ?_, fun _ _ _ => Iff.rfl, fun sub' => ?_, fun sub' => ?_⟩
      · change (r.subscribers.update sub Subscriber.discard).get? sub' = _
        rw [Table.get?_update]
        by_cases he : sub = sub' <;> simp [he, eq_comm]
      · exact (enteredBy_append (r := r) [_] rfl sub').trans (List.append_nil _)
      · rw [queueFacts_note]
        by_cases he : sub = sub' <;> simp [Occurrence.queueFact?, party, he] <;> rfl

theorem discardAll_cleared (r : Relay σ) (reason : DiscardReason) (subs : List SubId) :
    r.Cleared subs (r.discardAll reason subs) := by
  induction subs generalizing r with
  | nil => exact .aloof [] rfl (by simp) rfl fun _ _ _ => Iff.rfl
  | cons sub rest ih => exact (discardPending_cleared r reason sub).trans (ih _)

theorem discardEnrolments_cleared (r : Relay σ) (enrolments : List Enrolment) :
    r.Cleared (enrolments.flatMap Prod.snd) (r.discardEnrolments enrolments) := by
  induction enrolments generalizing r with
  | nil => exact .aloof [] rfl (by simp) rfl fun _ _ _ => Iff.rfl
  | cons e rest ih =>
    rw [List.flatMap_cons]
    exact (discardAll_cleared r (.unregistered e.1) e.2).trans (ih _)

theorem Cleared.emptied {subs : List SubId} {r r' : Relay σ} (h : r.Cleared subs r') {sub : SubId}
    (removed : sub ∈ subs) : r'.pendingOf sub = [] := by
  unfold pendingOf
  rw [h.subscribers, if_pos removed]
  cases r.subscribers.get? sub <;> rfl

theorem Cleared.workerAt {subs : List SubId} {r r' : Relay σ} (h : r.Cleared subs r') {id : TaskId} {sub : SubId}
    {stage : WorkerStage} : r'.WorkerAt id sub stage ↔ r.WorkerAt id sub stage :=
  ⟨fun ⟨name, ht⟩ => ⟨name, (h.tasks id _ rfl).mp ht⟩, fun ⟨name, ht⟩ => ⟨name, (h.tasks id _ rfl).mpr ht⟩⟩

theorem Cleared.firingAt {subs : List SubId} {r r' : Relay σ} (h : r.Cleared subs r') {id : TaskId} {event : Event}
    {targets : List SubId} : r'.FiringAt id event targets ↔ r.FiringAt id event targets :=
  ⟨fun ⟨name, ht⟩ => ⟨name, (h.tasks id _ rfl).mp ht⟩, fun ⟨name, ht⟩ => ⟨name, (h.tasks id _ rfl).mpr ht⟩⟩

variable [EventSource σ]

theorem startPoller_cleared (r : Relay σ) : r.Cleared [] r.startPoller := by
  refine .aloof [.pollerStarted r.sourceName r.tasks.size r.readClock.1,
    .spawned r.tasks.size r.settings.pollerName] (startPoller_past r) (by simp [Occurrence.queueFact?]) rfl
    fun id t other => ?_
  rw [startPoller_get?]
  split
  · rename_i he
    rw [he, Table.get?_size]
    constructor
    · intro new
      cases new
      contradiction
    · intro absent
      contradiction
  · rfl

theorem vacate_cleared (r : Relay σ) : r.Cleared [] r.vacate :=
  .aloof [.pollerReclaimed r.sourceName] rfl (by simp [Occurrence.queueFact?]) rfl fun _ _ _ => Iff.rfl

theorem Alignment.cleared {r r' : Relay σ} (h : r.Alignment r') : r.Cleared [] r' := by
  have told : ∀ news, r'.past = news ++ r.past → (∀ o ∈ news, ∀ sub, o.queueFact? sub = none) →
      r'.subscribers = r.subscribers → r'.tasks = r.tasks → r.Cleared [] r' := by
    intro news hp aloof hs ht
    exact .aloof news hp aloof hs fun _ _ _ => by rw [ht]
  cases h with
  | resting | stopping | running => exact told [] rfl (by simp) rfl rfl
  | started => exact startPoller_cleared r
  | replaced => exact (vacate_cleared r).trans (startPoller_cleared _)
  | buried => exact told [.cursorReset, .pollerReclaimed r.sourceName] rfl (by simp [Occurrence.queueFact?]) rfl rfl
  | stopped =>
    exact told [.pollerInterrupted r.sourceName, .interruptCalled .controller] rfl (by simp [Occurrence.queueFact?])
      rfl rfl
  | revived => exact told [.pollerRevived] rfl (by simp [Occurrence.queueFact?]) rfl rfl

/-- A change of the registry alone takes nothing from any queue. -/
theorem realigned_cleared (r : Relay σ) (registry : Registry) :
    r.Cleared [] (r.withRegistry registry).followRegistry :=
  (withRegistry_cleared r registry).trans (followRegistry_alignment _).cleared

/-- A call was answered by which these subscribers were taken off the registry: one that was there, all of one name, or
all there were. At a shutdown names are gone through in any order. -/
inductive Removal (r r' : Relay σ) : List SubId → Prop
  | one {name : String} {sub : SubId} (answer : r.perform (.call (.remove name sub)) = (.flag true, r')) :
      Removal r r' [sub]
  | name {name : String} {n : Nat} (answer : r.perform (.call (.removeName name)) = (.number n, r')) :
      Removal r r' (r.registry.membersOf name)
  | all {enrolments : List Enrolment} {n : Nat} (controller : r.hasController = true)
      (order : enrolments.Perm r.registry.entries) (answer : r.shutdownInOrder enrolments = (n, r')) :
      Removal r r' (enrolments.flatMap Prod.snd)

/-- A call that is answered as one that was carried out. -/
theorem carryOut_of_call {r r' : Relay σ} {c : Call} {reply : Reply} (answer : r.call c = (reply, r'))
    (controller : reply ≠ .noController) (valid : reply ≠ .refused emptyName) :
    r.hasController = true ∧ r.carryOut c = (reply, r') := by
  unfold call at answer
  split at answer
  · exact absurd (congrArg Prod.fst answer).symm controller
  · rename_i hc
    split at answer
    · exact absurd (congrArg Prod.fst answer).symm valid
    · exact ⟨by simpa using hc, answer⟩

theorem Removal.cleared {r r' : Relay σ} {removed : List SubId} (h : r.Removal r' removed) :
    r.Cleared removed r' := by
  cases h with
  | @one name sub answer =>
    obtain ⟨-, done⟩ := carryOut_of_call answer (by simp) (by simp)
    have found : (r.registry.remove name sub).1 = true := Reply.flag.inj (congrArg Prod.fst done)
    have state : (r.removeSubscriber name sub).2 = r' := congrArg Prod.snd done
    rw [← state]
    unfold removeSubscriber
    dsimp only
    rw [if_pos found]
    have discarded := (realigned_cleared r (r.registry.remove name sub).2).trans
      (discardPending_cleared _ (.unregistered name) sub)
    exact discarded.note fun _ => rfl
  | @name name n answer =>
    obtain ⟨-, done⟩ := carryOut_of_call answer (by simp) (by simp)
    have state : (r.removeSubscribers name).2 = r' := congrArg Prod.snd done
    have discarded := (realigned_cleared r (r.registry.removeName name).2).trans
      (discardAll_cleared _ (.unregistered name) (r.registry.membersOf name))
    rw [← state]
    unfold removeSubscribers
    dsimp only
    split
    · exact discarded
    · exact discarded.note fun _ => rfl
  | @all enrolments n _ _ answer =>
    have state : (r.shutdownInOrder enrolments).2 = r' := congrArg Prod.snd answer
    rw [← state]
    exact (realigned_cleared r r.registry.clear.2).trans (discardEnrolments_cleared _ enrolments)

/-- A worker that waits at the gate of its handler is done with the event as soon as there is a permit. -/
theorem inside_turn {r : Relay σ} {id : TaskId} {sub : SubId} {d : Delivery} (worker : r.WorkerAt id sub (.inside d))
    {s : Subscriber} (found : r.subscribers.get? sub = some s) (permitted : s.permits ≠ 0) :
    ∃ panicked, (r.move (.turn id)).queueFacts sub = .left d panicked :: r.queueFacts sub := by
  have left : ∀ (r : Relay σ) (panic : Option String), (r.leaveHandler id sub d panic).2.queueFacts sub =
      .left d panic.isSome :: r.queueFacts sub := by
    intro r panic
    rw [leaveHandler_eq]
    cases panic <;> simp [queueFacts, reportOutcome, note, setWork, updateSubscriber, Occurrence.queueFact?, party]
  have turn : r.move (.turn id) = (r.passGate id sub d (s.handler.conduct d.event)).2 := by
    obtain ⟨name, ht⟩ := worker
    simp [move, advance, ht, Task.hasEnded, Relay.turn, workerTurn, found]
  rw [turn]
  unfold passGate
  split
  · exact ⟨_, left r _⟩
  · have gate : ((r.subscribers.get? sub).map Subscriber.permits).getD 0 ≠ 0 := by simpa [found] using permitted
    rw [if_neg gate]
    exact ⟨_, left _ _⟩

/-- The handler is not interrupted over an event: whenever somebody looks later, it is done with it, or the event is
still inside; and between two moves its worker is there, and needs no more than a permit to be done with it. -/
def Finishes (source : σ) (r : Relay σ) (sub : SubId) (d : Delivery) : Prop :=
  ∀ {r'}, Seen source r' → r.past <:+ r'.past →
    (∃ news panicked, r'.queueFacts sub = news ++ r.queueFacts sub ∧ .left d panicked ∈ news) ∨
    QueueFact.inHand (r'.queueFacts sub) = some d ∧ (Reachable source r' →
      ∃ id s, r'.WorkerAt id sub (.inside d) ∧ r'.subscribers.get? sub = some s ∧ (s.permits ≠ 0 →
        ∃ panicked, (r'.move (.turn id)).queueFacts sub = .left d panicked :: r'.queueFacts sub))

theorem finishes_of_inHand {source : σ} {r : Relay σ} {sub : SubId} {d : Delivery}
    (h : QueueFact.inHand (r.queueFacts sub) = some d) : Finishes source r sub d := by
  intro r' seen later
  obtain ⟨news, facts⟩ : r.queueFacts sub <:+ r'.queueFacts sub := later.filterMap _
  obtain ⟨_, whole⟩ := seen_sound seen sub
  have fits : ∀ fact before, fact :: before <:+ r'.queueFacts sub → fact.Fits before := whole.fits
  rw [← facts] at fits
  rcases QueueFact.inHand_append fits h with kept | ⟨panicked, done⟩
  · rw [facts] at kept
    refine .inr ⟨kept, fun reachable => ?_⟩
    have sound := reachable_sound reachable sub
    have hand : (r'.station sub).handled none = some d := sound.hand.symm.trans kept
    obtain ⟨stage, worker, inside⟩ := Option.bind_eq_some_iff.mp hand
    obtain ⟨id, slot, worker⟩ := Option.bind_eq_some_iff.mp worker
    obtain ⟨s, found, -⟩ := Option.bind_eq_some_iff.mp slot
    cases stage with
    | idle => contradiction
    | inside d' =>
      cases inside
      have worker := workersOf_eq_some.mp worker
      exact ⟨id, s, worker, found, inside_turn worker found⟩
  · exact .inl ⟨news, panicked, facts.symm, done⟩

end Relay

end EventRelay
