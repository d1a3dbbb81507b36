import EventRelay.Proofs.Lifecycle

namespace EventRelay

/-- The event that the handler of a subscriber was given. -/
def Occurrence.entryOf? (sub : SubId) : Occurrence → Option Delivery
  | .entered party d => if party.id = sub then some d else none
  | _ => none

/-- No handler was given anything, and nothing was stored. -/
def Occurrence.isPlain : Occurrence → Bool
  | .entered .. | .posted .. => false
  | _ => true

theorem Occurrence.entryOf?_of_plain {o : Occurrence} (h : o.isPlain = true) (sub : SubId) :
    o.entryOf? sub = none := by
  cases o <;> first | rfl | contradiction

namespace Relay

variable {σ : Type}

/-- What the handler of a subscriber was given so far, in order. -/
def enteredBy (r : Relay σ) (sub : SubId) : List Delivery := r.story.filterMap (Occurrence.entryOf? sub)

def pendingOf (r : Relay σ) (sub : SubId) : List Delivery :=
  ((r.subscribers.get? sub).map Subscriber.pending).getD []

def flow (r : Relay σ) (sub : SubId) : List Delivery := r.enteredBy sub ++ r.pendingOf sub

/-- Tasks are still of the kind that they were, and what has happened stays as it was. -/
structure Ongoing (r r' : Relay σ) : Prop where
  kinds : ∀ {id t}, r.tasks.get? id = some t → ∃ t', r'.tasks.get? id = some t' ∧ t'.isPoller = t.isPoller
  past : r.past <:+ r'.past

theorem Ongoing.refl (r : Relay σ) : r.Ongoing r := ⟨fun h => ⟨_, h, rfl⟩, List.suffix_refl _⟩

theorem Ongoing.trans {r r' r'' : Relay σ} (h : r.Ongoing r') (h' : r'.Ongoing r'') : r.Ongoing r'' where
  kinds ht := by
    obtain ⟨t', ht', hk⟩ := h.kinds ht
    obtain ⟨t'', ht'', hk'⟩ := h'.kinds ht'
    exact ⟨t'', ht'', hk'.trans hk⟩
  past := h.past.trans h'.past

/-- No flow has gained anything. -/
structure Steady (r r' : Relay σ) : Prop extends Ongoing r r' where
  flow : ∀ sub, (r'.flow sub).Sublist (r.flow sub)

theorem Steady.refl (r : Relay σ) : r.Steady r := ⟨.refl r, fun _ => List.Sublist.refl _⟩

theorem Steady.trans {r r' r'' : Relay σ} (h : r.Steady r') (h' : r'.Steady r'') : r.Steady r'' :=
  ⟨h.toOngoing.trans h'.toOngoing, fun sub => (h'.flow sub).trans (h.flow sub)⟩

/-- Nothing was stored either. -/
structure Calm (r r' : Relay σ) : Prop extends Steady r r' where
  posts : ∀ {i t e}, .posted i t e ∈ r'.past → .posted i t e ∈ r.past

theorem Calm.refl (r : Relay σ) : r.Calm r := ⟨.refl r, fun h => h⟩

theorem Calm.trans {r r' r'' : Relay σ} (h : r.Calm r') (h' : r'.Calm r'') : r.Calm r'' :=
  ⟨h.toSteady.trans h'.toSteady, fun hm => h.posts (h'.posts hm)⟩

theorem enteredBy_append {r r' : Relay σ} (news : List Occurrence) (h : r'.past = news ++ r.past) (sub : SubId) :
    r'.enteredBy sub = r.enteredBy sub ++ news.reverse.filterMap (Occurrence.entryOf? sub) := by
  simp only [enteredBy, story, h, List.reverse_append, List.filterMap_append]

/-- Plain facts disturb nobody. -/
theorem Calm.facts {r r' : Relay σ} (news : List Occurrence) (hp : r'.past = news ++ r.past)
    (plain : ∀ o ∈ news, o.isPlain = true) (hs : r'.subscribers = r.subscribers)
    (rows : ∀ id t, r.tasks.get? id = some t → r'.tasks.get? id = some t) : r.Calm r' where
  flow sub := by
    have none : news.reverse.filterMap (Occurrence.entryOf? sub) = [] :=
      List.filterMap_eq_nil_iff.mpr fun o ho => Occurrence.entryOf?_of_plain (plain o (List.mem_reverse.mp ho)) sub
    have same : r'.flow sub = r.flow sub := by
      simp only [Relay.flow, enteredBy_append news hp, none, List.append_nil, pendingOf, hs]
    exact same ▸ List.Sublist.refl _
  kinds ht := ⟨_, rows _ _ ht, rfl⟩
  past := ⟨news, hp.symm⟩
  posts {i t e} hm := by
    rw [hp] at hm
    rcases List.mem_append.mp hm with hn | ho
    · exact absurd (plain _ hn) Bool.false_ne_true
    · exact ho

theorem Calm.same {r r' : Relay σ} (hp : r'.past = r.past) (hs : r'.subscribers = r.subscribers)
    (rows : ∀ id t, r.tasks.get? id = some t → r'.tasks.get? id = some t) : r.Calm r' :=
  .facts [] hp (fun _ hm => absurd hm List.not_mem_nil) hs rows

theorem note_calm (r : Relay σ) {o : Occurrence} (ho : o.isPlain = true) : r.Calm (r.note o) :=
  .facts [o] rfl (fun _ hm => List.mem_singleton.mp hm ▸ ho) rfl fun _ _ h => h

/-- What is new to a handler, and what is pending then, was pending before or was added. -/
theorem fresh_of_flow {r r' : Relay σ} {sub : SubId} {extra : List Delivery} (older : r.past <:+ r'.past)
    (flow : (r'.flow sub).Sublist (r.flow sub ++ extra)) : ∃ fresh, r'.enteredBy sub = r.enteredBy sub ++ fresh ∧
      (fresh ++ r'.pendingOf sub).Sublist (r.pendingOf sub ++ extra) := by
  obtain ⟨news, he⟩ := older
  refine ⟨_, enteredBy_append news he.symm sub, ?_⟩
  unfold Relay.flow at flow
  rw [enteredBy_append news he.symm sub, List.append_assoc, List.append_assoc] at flow
  exact (List.append_sublist_append_left _).mp flow

theorem Steady.pending {r r' : Relay σ} (h : r.Steady r') (sub : SubId) :
    (r'.pendingOf sub).Sublist (r.pendingOf sub) := by
  have flow : (r'.flow sub).Sublist (r.flow sub ++ []) := by simpa using h.flow sub
  obtain ⟨fresh, -, shorter⟩ := fresh_of_flow h.past flow
  rw [List.append_nil] at shorter
  exact (List.sublist_append_right fresh _).trans shorter

theorem pendingOf_update (r : Relay σ) (sub sub' : SubId) (f : Subscriber → Subscriber) :
    (r.updateSubscriber sub f).pendingOf sub' =
      if sub = sub' then ((r.subscribers.get? sub').map (fun s => (f s).pending)).getD [] else r.pendingOf sub' := by
  unfold pendingOf
  change (((r.subscribers.update sub f).get? sub').map _).getD [] = _
  rw [Table.get?_update]
  split
  · rw [Option.map_map]
    rfl
  · rfl

/-- A queue may lose something. -/
theorem updateSubscriber_calm (r : Relay σ) (sub : SubId) {f : Subscriber → Subscriber}
    (hf : ∀ s, (f s).pending.Sublist s.pending) : r.Calm (r.updateSubscriber sub f) where
  flow sub' := by
    apply List.Sublist.append (List.Sublist.refl _)
    rw [pendingOf_update]
    split
    · unfold pendingOf
      cases r.subscribers.get? sub' with
      | none => exact List.Sublist.refl _
      | some s => exact hf s
    · exact List.Sublist.refl _
  kinds ht := ⟨_, ht, rfl⟩
  past := List.suffix_refl _
  posts hm := hm

theorem spawn_calm (r : Relay σ) (name : String) (work : Work) : r.Calm (r.spawn name work).2 :=
  .facts [.spawned r.tasks.size name] rfl (fun _ hm => List.mem_singleton.mp hm ▸ rfl) rfl
    (spawn_grown r name work).rows

/-- A task goes on, or ends, as the task that it is. -/
theorem updateTask_calm {r : Relay σ} {id : TaskId} {t : Task} (ht : r.tasks.get? id = some t) {f : Task → Task}
    (hf : (f t).isPoller = t.isPoller) : r.Calm { r with tasks := r.tasks.update id f } where
  flow _ := List.Sublist.refl _
  kinds {j u} hu := by
    dsimp only
    rw [Table.get?_update]
    by_cases he : id = j
    · subst he
      cases ht.symm.trans hu
      exact ⟨f t, by simp [ht], hf⟩
    · exact ⟨u, by simp [he, hu], rfl⟩
  past := List.suffix_refl _
  posts hm := hm

theorem startWorker_calm (r : Relay σ) (sub : SubId) (s : Subscriber) : r.Calm (r.startWorker sub s) := by
  unfold startWorker
  split
  · exact .refl r
  · exact (spawn_calm r _ _).trans (updateSubscriber_calm _ sub fun _ => List.Sublist.refl _)

theorem discardPending_calm (r : Relay σ) (reason : DiscardReason) (sub : SubId) :
    r.Calm (r.discardPending reason sub) := by
  unfold discardPending
  split
  · exact .refl r
  · split
    · exact .refl r
    · exact (updateSubscriber_calm r sub fun _ => List.nil_sublist _).trans (note_calm _ rfl)

theorem fireEvent_calm (r : Relay σ) (event : Event) : r.Calm (r.fireEvent event).2 := by
  unfold fireEvent
  dsimp only
  split
  · exact note_calm r rfl
  · exact (note_calm r rfl).trans (spawn_calm _ _ _)

theorem withRegistry_calm (r : Relay σ) (registry : Registry) : r.Calm (r.withRegistry registry) := by
  have changed : r.Calm { r with registry } := .same rfl rfl fun _ _ h => h
  unfold withRegistry
  dsimp only
  split
  · exact changed.trans (note_calm _ rfl)
  · exact changed.trans (note_calm _ rfl)
  · exact changed

theorem Changed.calm {r r' : Relay σ} {registry : Registry} (h : r.Changed registry r') : r.Calm r' := by
  cases h with
  | silent => exact withRegistry_calm r registry
  | told => exact (withRegistry_calm r registry).trans (note_calm _ rfl)

theorem reportOutcome_calm (r : Relay σ) (sub : SubId) (d : Delivery) (panic : Option String) :
    r.Calm (r.reportOutcome sub d panic) := by
  unfold reportOutcome
  cases panic with
  | none =>
    have counted := updateSubscriber_calm r sub (f := Subscriber.countDelivered) fun _ => List.Sublist.refl _
    exact counted.trans (note_calm _ rfl)
  | some message =>
    have counted := updateSubscriber_calm r sub (f := Subscriber.countPanicked) fun _ => List.Sublist.refl _
    exact counted.trans (note_calm _ rfl)

/-- An event that a handler is given was the next in its flow. -/
theorem beginHandling_calm {r : Relay σ} {sub : SubId} {s : Subscriber} {d : Delivery} {rest : List Delivery}
    (found : r.subscribers.get? sub = some s) (head : s.pending = d :: rest) :
    r.Calm (r.beginHandling sub d rest) where
  flow sub' := by
    have entered : (r.beginHandling sub d rest).enteredBy sub' =
        r.enteredBy sub' ++ (if sub = sub' then [d] else []) := by
      rw [enteredBy_append (r := r) [.entered ⟨sub, _⟩ d] rfl]
      by_cases he : sub = sub' <;> simp [Occurrence.entryOf?, he]
    have pending : (r.beginHandling sub d rest).pendingOf sub' = if sub = sub' then rest else r.pendingOf sub' := by
      unfold beginHandling
      rw [pendingOf_update]
      by_cases he : sub = sub'
      · subst he
        simp only [if_true]
        change (((r.subscribers.update sub _).get? sub).map _).getD [] = rest
        rw [Table.get?_update_self, found]
        rfl
      · rw [if_neg he, if_neg he]
        change (r.updateSubscriber sub _).pendingOf sub' = _
        rw [pendingOf_update, if_neg he]
    have same : (r.beginHandling sub d rest).flow sub' = r.flow sub' := by
      unfold flow
      rw [entered, pending]
      by_cases he : sub = sub'
      · subst he
        have queue : r.pendingOf sub = d :: rest := by simp [pendingOf, found, head]
        simp [queue]
      · simp [he]
    exact same ▸ List.Sublist.refl _
  kinds ht := ⟨_, ht, rfl⟩
  past := (beginHandling_aside r sub d rest).past
  posts hm := by
    rcases List.mem_cons.mp hm with he | hm
    · contradiction
    · exact hm

/-- Events were added at the ends of flows, to each target at most as often as it is named. -/
structure Gained (r r' : Relay σ) (targets : List SubId) (d : Delivery) : Prop extends Ongoing r r' where
  flow : ∀ sub, ∃ k, k ≤ targets.count sub ∧ (r'.flow sub).Sublist (r.flow sub ++ List.replicate k d)
  posts : ∀ {i t e}, .posted i t e ∈ r'.past → .posted i t e ∈ r.past

theorem Calm.gained {r r' : Relay σ} (h : r.Calm r') (targets : List SubId) (d : Delivery) : r.Gained r' targets d :=
  ⟨h.toOngoing, fun sub => ⟨0, Nat.zero_le _, by simpa using h.flow sub⟩, h.posts⟩

theorem Gained.trans {r r' r'' : Relay σ} {targets targets' : List SubId} {d : Delivery} (h : r.Gained r' targets d)
    (h' : r'.Gained r'' targets' d) : r.Gained r'' (targets ++ targets') d where
  toOngoing := h.toOngoing.trans h'.toOngoing
  flow sub := by
    obtain ⟨k, hk, hs⟩ := h.flow sub
    obtain ⟨k', hk', hs'⟩ := h'.flow sub
    refine ⟨k + k', by rw [List.count_append]; omega, hs'.trans ?_⟩
    rw [← List.replicate_append_replicate, ← List.append_assoc]
    exact hs.append (List.Sublist.refl _)
  posts hm := h.posts (h'.posts hm)

theorem handTo_gained (r : Relay σ) (sub : SubId) (d : Delivery) : r.Gained (r.handTo sub d) [sub] d := by
  unfold handTo
  split
  · exact (Calm.refl r).gained _ d
  · rename_i s found
    split
    · have counted := updateSubscriber_calm r sub (f := Subscriber.countDropped) fun _ => List.Sublist.refl _
      exact (counted.trans (note_calm _ rfl)).gained _ d
    · have appended : r.Gained (r.updateSubscriber sub (·.append d)) [sub] d := by
        refine ⟨⟨fun ht => ⟨_, ht, rfl⟩, List.suffix_refl _⟩, fun sub' => ?_, fun hm => hm⟩
        by_cases he : sub = sub'
        · subst he
          have queue : r.pendingOf sub = s.pending := by simp [pendingOf, found]
          have longer : (r.updateSubscriber sub (·.append d)).pendingOf sub = s.pending ++ [d] := by
            simp [pendingOf_update, found, Subscriber.append]
          have same : (r.updateSubscriber sub (·.append d)).flow sub = r.flow sub ++ [d] := by
            change r.enteredBy sub ++ _ = (r.enteredBy sub ++ _) ++ [d]
            rw [longer, queue, List.append_assoc]
          exact ⟨1, by simp, same ▸ List.Sublist.refl _⟩
        · have same : (r.updateSubscriber sub (·.append d)).flow sub' = r.flow sub' := by
            change r.enteredBy sub' ++ _ = r.enteredBy sub' ++ _
            rw [pendingOf_update, if_neg he]
          exact ⟨0, Nat.zero_le _, by simpa using same ▸ List.Sublist.refl _⟩
      exact appended.trans (((note_calm _ rfl).trans (startWorker_calm _ sub s)).gained [] d)

theorem dispatch_gained (r : Relay σ) (targets : List SubId) (d : Delivery) :
    r.Gained (r.dispatch targets d) targets d := by
  induction targets generalizing r with
  | nil => exact (Calm.refl r).gained [] d
  | cons sub rest ih => exact (handTo_gained r sub d).trans (ih _)

theorem firingTurn_gained {r : Relay σ} {id : TaskId} {event : Event} {targets : List SubId}
    (hf : r.FiringAt id event targets) : r.Gained (r.firingTurn id event targets) targets ⟨event, id⟩ := by
  obtain ⟨name, ht⟩ := hf
  have ended : (r.dispatch targets ⟨event, id⟩).Calm (r.firingTurn id event targets) :=
    updateTask_calm ((dispatch_aside r targets ⟨event, id⟩).rows id _ ht) rfl
  have out := (dispatch_gained r targets ⟨event, id⟩).trans (ended.gained [] ⟨event, id⟩)
  rwa [List.append_nil] at out

theorem handOut_gained (r : Relay σ) (id : TaskId) (f : Fetched) :
    r.Gained (r.handOut id f) (r.registry.membersOf f.event.name) ⟨f.event.indexed f.index, id⟩ := by
  unfold handOut
  split
  · exact (note_calm r rfl).gained _ _
  · exact dispatch_gained r _ _

theorem moveCursor_calm (r : Relay σ) (f : Fetched) : r.Calm (r.moveCursor f) := by
  have moved : r.Calm { r with cursor := r.cursor.moveTo f.index } := .same rfl rfl fun _ _ h => h
  unfold moveCursor
  dsimp only
  split
  · exact moved
  · exact moved.trans (note_calm _ rfl)

theorem leaveHandler_calm {r : Relay σ} {id : TaskId} {sub : SubId} {stage : WorkerStage}
    (h : r.WorkerAt id sub stage) (d : Delivery) (panic : Option String) :
    r.Calm (r.leaveHandler id sub d panic).2 := by
  obtain ⟨name, ht⟩ := h
  have row := (reportOutcome_aside r sub d panic).rows id _ ht
  rw [leaveHandler_eq]
  exact (reportOutcome_calm r sub d panic).trans (updateTask_calm row rfl)

theorem setWork_calm {r : Relay σ} {id : TaskId} {failures : Nat} {stage : PollerStage}
    (h : r.PollerAt id failures stage) (failures' : Nat) (stage' : PollerStage) :
    r.Calm (r.setWork id (.poller failures' stage')) := by
  obtain ⟨name, ht⟩ := h
  exact updateTask_calm ht rfl

theorem endTask_calm {r : Relay σ} {id : TaskId} {failures : Nat} {stage : PollerStage}
    (h : r.PollerAt id failures stage) (ending : Ending) : r.Calm (r.endTask id ending) := by
  obtain ⟨name, ht⟩ := h
  exact updateTask_calm ht rfl

theorem resetCursor_calm (r : Relay σ) : r.Calm r.resetCursor :=
  .facts [.cursorReset] rfl (fun _ hm => List.mem_singleton.mp hm ▸ rfl) rfl fun _ _ h => h

theorem passOn_gained {r : Relay σ} {id : TaskId} {failures : Nat} {stage : PollerStage}
    (h : r.PollerAt id failures stage) (f : Fetched) :
    r.Gained (r.passOn id f).2 (r.registry.membersOf f.event.name) ⟨f.event.indexed f.index, id⟩ := by
  have moved := moveCursor_aside r f
  have out := handOut_aside (r.moveCursor f) id f
  have worked : ((r.moveCursor f).handOut id f).Calm (r.passOn id f).2 :=
    setWork_calm (out.pollerAt (moved.pollerAt h)) 0 .ready
  have gained := ((moveCursor_calm r f).gained [] _).trans (handOut_gained (r.moveCursor f) id f)
  rw [moved.registry, List.nil_append] at gained
  have all := gained.trans (worked.gained [] _)
  rwa [List.append_nil] at all

variable [EventSource σ]

theorem startPoller_past (r : Relay σ) : r.startPoller.past =
    .pollerStarted r.sourceName r.tasks.size r.readClock.1 :: .spawned r.tasks.size r.settings.pollerName :: r.past :=
  rfl

theorem startPoller_calm (r : Relay σ) : r.Calm r.startPoller := by
  refine .facts [.pollerStarted r.sourceName r.tasks.size r.readClock.1, .spawned r.tasks.size r.settings.pollerName]
    (startPoller_past r) ?_ rfl (startPoller_grown r).rows
  simp [Occurrence.isPlain]

theorem vacate_calm (r : Relay σ) : r.Calm r.vacate :=
  .facts [.pollerReclaimed r.sourceName] rfl (fun _ hm => List.mem_singleton.mp hm ▸ rfl) rfl fun _ _ h => h

theorem Alignment.calm {r r' : Relay σ} (h : r.Alignment r') : r.Calm r' := by
  cases h with
  | resting | stopping | running => exact .refl r
  | started => exact startPoller_calm r
  | buried => exact (vacate_calm r).trans (resetCursor_calm _)
  | replaced => exact (vacate_calm r).trans (startPoller_calm _)
  | stopped =>
    refine .facts [.pollerInterrupted r.sourceName, .interruptCalled .controller] rfl ?_ rfl fun _ _ h => h
    simp [Occurrence.isPlain]
  | revived =>
    refine .facts [.pollerRevived] rfl ?_ rfl fun _ _ h => h
    simp [Occurrence.isPlain]

theorem letGo_calm (r : Relay σ) : r.Calm r.letGo := by
  have stopped : r.Calm r.abandonPoller := by
    unfold abandonPoller
    split
    · exact .refl r
    · refine .facts [.interruptCalled .controller] rfl ?_ rfl fun _ _ h => h
      simp [Occurrence.isPlain]
  exact stopped.trans (withRegistry_calm _ _)

theorem postToSource_steady {r r' : Relay σ} {event : Event} {index : Nat}
    (h : r.postToSource event = .ok (index, r')) : r.Steady r' := by
  obtain ⟨source, -, rfl⟩ := postToSource_ok h
  have entered : ∀ sub, ({ r.readClock.2 with source }.note (.posted index r.readClock.1 event)).enteredBy sub =
      r.enteredBy sub := by
    intro sub
    rw [enteredBy_append (r := r) [.posted index r.readClock.1 event] rfl]
    exact List.append_nil _
  refine ⟨⟨fun ht => ⟨_, ht, rfl⟩, List.suffix_cons _ _⟩, fun sub => ?_⟩
  unfold flow
  rw [entered]
  exact List.Sublist.refl _

/-- Whatever is done at one go leaves the flows alone, and stores nothing unless it is a post. -/
theorem Deed.calm {r r' : Relay σ} (h : Deed r r') :
    r.Calm r' ∨ ∃ index event, r.postToSource event = .ok (index, r') := by
  cases h with
  | told o remark =>
    refine .inl (note_calm r ?_)
    cases o <;> first | rfl | contradiction
  | aligned _ _ changed => exact .inl (changed.calm.trans (followRegistry_alignment _).calm)
  | discarded reason sub => exact .inl (discardPending_calm r reason sub)
  | fired event _ => exact .inl (fireEvent_calm r event)
  | posted accepted => exact .inr ⟨_, _, accepted⟩
  | interrupted =>
    refine .inl (.facts [.interruptCalled .client] rfl ?_ rfl fun _ _ h => h)
    simp [Occurrence.isPlain]
  | permitted sub f => exact .inl (updateSubscriber_calm r sub fun _ => List.Sublist.refl _)
  | letGone _ =>
    have dropped : r.Calm { r with handles := r.handles - 1 } := .same rfl rfl fun _ _ h => h
    exact .inl (dropped.trans (letGo_calm _))
  | closed | pushed | slept | observed | cloned | dropped => exact .inl (.same rfl rfl fun _ _ h => h)

theorem Act.calm {r r' : Relay σ} (h : Act r r') :
    r.Calm r' ∨ ∃ index event, r.postToSource event = .ok (index, r') := by
  cases h with
  | deed h => exact h.calm
  | began _ found head => exact .inl (beginHandling_calm found head)
  | left worker d panic => exact .inl (leaveHandler_calm worker d panic)
  | waited worker _ =>
    obtain ⟨name, ht⟩ := worker
    exact .inl (updateTask_calm ht rfl)
  | @retired id sub _ worker _ _ =>
    obtain ⟨name, ht⟩ := worker
    have freed : r.Calm (r.updateSubscriber sub (fun s => { s with worker := none })) :=
      updateSubscriber_calm r sub fun _ => List.Sublist.refl _
    have row : (r.updateSubscriber sub (fun s => { s with worker := none })).tasks.get? id = _ := ht
    exact .inl (freed.trans (updateTask_calm row rfl))
  | orphaned worker _ =>
    obtain ⟨name, ht⟩ := worker
    exact .inl (updateTask_calm ht rfl)

theorem Acts.steady {r r' : Relay σ} (h : Acts r r') : r.Steady r' := by
  induction h with
  | refl => exact .refl r
  | tail _ act ih =>
    rcases act.calm with calm | ⟨_, _, posted⟩
    · exact ih.trans calm.toSteady
    · exact ih.trans (postToSource_steady posted)

theorem exitPoller_calm {r : Relay σ} {id : TaskId} {failures : Nat} {stage : PollerStage}
    (h : r.PollerAt id failures stage) : r.Calm (r.exitPoller id).2 := by
  have left : r.Calm ({ r with slot := none }.resetCursor.note (.pollerStopped r.sourceName)) := by
    refine .facts [.pollerStopped r.sourceName, .cursorReset] rfl ?_ rfl fun _ _ h => h
    simp [Occurrence.isPlain]
  have poller : ({ r with slot := none }.resetCursor.note (.pollerStopped r.sourceName)).PollerAt id failures stage := h
  exact left.trans (endTask_calm poller .finished)

theorem pauseAfter_calm {r : Relay σ} {id : TaskId} {failures : Nat} {stage : PollerStage}
    (h : r.PollerAt id failures stage) (token : TokenId) (fault : FetchFault) :
    r.Calm (r.pauseAfter id failures token fault).2 ∧ (r.pauseAfter id failures token fault).2.cursor = r.cursor := by
  unfold pauseAfter
  split
  · exact ⟨endTask_calm h .panicked, rfl⟩
  · rename_i delay _
    have drawn : r.Calm { r with draws := r.draws + 1 } := .same rfl rfl fun _ _ h => h
    have told := drawn.trans (note_calm _
      (o := .fetchFailed id r.sourceName fault (min (failures + 1) maxFailures) delay) rfl)
    have poller : ({ r with draws := r.draws + 1 }.note
        (.fetchFailed id r.sourceName fault (min (failures + 1) maxFailures) delay)).PollerAt id failures stage := h
    exact ⟨told.trans (setWork_calm poller _ _), rfl⟩

/-- An answer is either a fetched event that is passed on, or it disturbs nobody. -/
theorem Taken.flow {r : Relay σ} {id : TaskId} {failures : Nat} {token : TokenId} {result : FetchResult}
    {turn : Turn × Relay σ} (taken : r.Taken id failures token result turn) {stage : PollerStage}
    (h : r.PollerAt id failures stage) :
    (∃ f, result = .fetched f ∧ r.hasController = true ∧
      turn.2 = ((r.note (.resultTaken id result)).passOn id f).2) ∨
    (r.Calm turn.2 ∧ (turn.2.cursor = r.cursor ∨ turn.2.cursor = .unset)) := by
  have told : r.Calm (r.note (.resultTaken id result)) := note_calm r rfl
  have poller : (r.note (.resultTaken id result)).PollerAt id failures stage := h
  cases taken with
  | orphaned => exact .inr ⟨endTask_calm h .finished, .inl rfl⟩
  | exited => exact .inr ⟨exitPoller_calm h, .inr rfl⟩
  | @passed f hc _ => exact .inl ⟨f, rfl, hc, rfl⟩
  | @ignored _ fault =>
    have noted := told.trans (note_calm _ (o := .nothingFetched fault) rfl)
    have next : ((r.note (.resultTaken id result)).note (.nothingFetched fault)).PollerAt id failures stage := h
    exact .inr ⟨noted.trans (setWork_calm next failures .ready), .inl rfl⟩
  | failed => exact .inr ⟨told.trans (pauseAfter_calm poller token _).1, .inl (pauseAfter_calm poller token _).2⟩

theorem Consulted.calm {r r' : Relay σ} {id : TaskId} {stage : PollerStage} {token : TokenId}
    {reply : FetchReply} (h : r.Consulted id stage token reply r') : r.Calm r' := by
  cases h with
  | declined => exact .refl r
  | asked =>
    refine .facts [.fetchStarted id r.cursor] rfl ?_ rfl fun _ _ h => h
    simp [Occurrence.isPlain]
  | withdrawn | resumed => exact .same rfl rfl fun _ _ h => h

/-- A step of a poller passes one fetched event on, or disturbs nobody. -/
theorem PollerStep.flow {r : Relay σ} {id : TaskId} {failures : Nat} {stage : PollerStage} {turn : Turn × Relay σ}
    (step : r.PollerStep id failures stage turn) (h : r.PollerAt id failures stage) :
    (∃ token f r₁, r.Consulted id stage token (.ready (.fetched f)) r₁ ∧ r₁.hasController = true ∧
      turn.2 = ((r₁.note (.resultTaken id (.fetched f))).passOn id f).2) ∨
    (r.Calm turn.2 ∧ (turn.2.cursor = r.cursor ∨ turn.2.cursor = .unset)) := by
  cases step with
  | orphaned => exact .inr ⟨endTask_calm h .finished, .inl rfl⟩
  | exited => exact .inr ⟨exitPoller_calm h, .inr rfl⟩
  | @answered _ token result r₁ consulted =>
    have poller := consulted.sameControl.pollerAt.mpr h
    rcases (takeResult_taken r₁ id failures token result).flow poller with ⟨f, rfl, hc, he⟩ | ⟨calm, cursor⟩
    · exact .inl ⟨token, f, r₁, consulted, hc, he⟩
    · rw [consulted.sameControl.cursor] at cursor
      exact .inr ⟨consulted.calm.trans calm, cursor⟩
  | queued consulted =>
    have poller := consulted.sameControl.pollerAt.mpr h
    exact .inr ⟨consulted.calm.trans (setWork_calm poller _ _), .inl consulted.sameControl.cursor⟩
  | rested => exact .inr ⟨setWork_calm h _ _, .inl rfl⟩
  | asleep | resting => exact .inr ⟨.refl r, .inl rfl⟩

/-- A step of a poller adds to the past, and posts nothing. -/
theorem PollerStep.keepsPosts {r : Relay σ} {id : TaskId} {failures : Nat} {stage : PollerStage}
    {turn : Turn × Relay σ} (step : r.PollerStep id failures stage turn) (h : r.PollerAt id failures stage) :
    r.past <:+ turn.2.past ∧ ∀ {i t e}, .posted i t e ∈ turn.2.past → .posted i t e ∈ r.past := by
  rcases step.flow h with ⟨token, f, r₁, consulted, -, he⟩ | ⟨calm, -⟩
  · have poller : (r₁.note (.resultTaken id (.fetched f))).PollerAt id failures stage :=
      consulted.sameControl.pollerAt.mpr h
    have told : r.Calm (r₁.note (.resultTaken id (.fetched f))) := consulted.calm.trans (note_calm _ rfl)
    have passed := passOn_gained poller f
    rw [he]
    exact ⟨told.past.trans passed.past, fun hm => told.posts (passed.posts hm)⟩
  · exact ⟨calm.past, calm.posts⟩

theorem PollerStep.older {r : Relay σ} {id : TaskId} {failures : Nat} {stage : PollerStage}
    {turn : Turn × Relay σ} (step : r.PollerStep id failures stage turn) (h : r.PollerAt id failures stage) :
    r.past <:+ turn.2.past :=
  (step.keepsPosts h).1

end Relay

end EventRelay
