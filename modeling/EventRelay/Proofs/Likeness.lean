import EventRelay.Proofs.Vantage
import EventRelay.Relay.Worker

namespace EventRelay

theorem Subscriber.Resembles.length {s s' : Subscriber} (h : s.Resembles s') :
    s.pending.length = s'.pending.length := by
  have lengths := congrArg List.length h.events
  simpa using lengths

theorem Subscriber.Resembles.isEmpty {s s' : Subscriber} (h : s.Resembles s') :
    s.pending.isEmpty = s'.pending.isEmpty := by
  have empty := congrArg List.isEmpty h.events
  simpa using empty

theorem Subscriber.Resembles.isFull {s s' : Subscriber} (h : s.Resembles s') : s.isFull = s'.isFull := by
  simp only [Subscriber.isFull, Subscriber.capacity, h.handler, h.length]

theorem Subscriber.Resembles.due {s s' : Subscriber} (h : s.Resembles s') (name : String) :
    s.due name = s'.due name := by
  simp only [Subscriber.due, h.reactions]

namespace Vantage

variable {σ : Type} [EventSource σ] {v : Vantage σ} {pairs : TaskId → TaskId → Prop} {r r' : Relay σ}

theorem Peers.resembles {sub : SubId} {s s' : Subscriber} (h : v.Peers sub s s') (seen : v.hides sub = false) :
    s.Resembles s' := by
  unfold Peers at h
  rwa [if_neg (by simp [seen])] at h

theorem Peers.quiet {sub : SubId} {s s' : Subscriber} (h : v.Peers sub s s') (hidden : v.hides sub = true) :
    s.reactions = [] ∧ s'.reactions = [] := by
  unfold Peers at h
  rwa [if_pos hidden] at h

/-- A change that leaves a hidden subscriber without requests, and that depends on nothing unseen in another one. -/
theorem Peers.change {sub : SubId} {s s' : Subscriber} (h : v.Peers sub s s') {f g : Subscriber → Subscriber}
    (hidden : ∀ s, s.reactions = [] → (f s).reactions = [] ∧ (g s).reactions = [])
    (seen : s.Resembles s' → (f s).Resembles (g s')) : v.Peers sub (f s) (g s') := by
  unfold Peers at h ⊢
  split
  · rename_i hides
    rw [if_pos hides] at h
    exact ⟨(hidden s h.1).1, (hidden s' h.2).2⟩
  · rename_i shows
    rw [if_neg shows] at h
    exact seen h

theorem Peers.change_right {sub : SubId} {s s' : Subscriber} (h : v.Peers sub s s') (hides : v.hides sub = true)
    {g : Subscriber → Subscriber} (quiet : s'.reactions = [] → (g s').reactions = []) : v.Peers sub s (g s') := by
  unfold Peers
  rw [if_pos hides]
  exact ⟨(h.quiet hides).1, quiet (h.quiet hides).2⟩

theorem Twins.spawn {i j : TaskId} (h : v.Twins r r' i j) (name name' : String) (w w' : Work) :
    v.Twins (r.spawn name w).2 (r'.spawn name' w').2 i j := by
  have marks : v.marks (r.spawn name w).2.tasks = v.marks r.tasks ++ [v.shows w] := marks_add r.tasks ⟨name, w, none⟩
  have marks' : v.marks (r'.spawn name' w').2.tasks = v.marks r'.tasks ++ [v.shows w'] :=
    marks_add r'.tasks ⟨name', w', none⟩
  unfold Twins
  rw [marks, marks']
  exact h.extend _ _

theorem Twins.spawn_right {i j : TaskId} (h : v.Twins r r' i j) (name : String) (w : Work) :
    v.Twins r (r'.spawn name w).2 i j := by
  have marks : v.marks (r'.spawn name w).2.tasks = v.marks r'.tasks ++ [v.shows w] := marks_add r'.tasks ⟨name, w, none⟩
  have longer := Twin.extend h [] [v.shows w]
  rw [List.append_nil] at longer
  unfold Twins
  rw [marks]
  exact longer

/-- A pair of tasks that are seen. -/
theorem Twins.found {i j : TaskId} (h : v.Twins r r' i j) : (∃ t, r.tasks.get? i = some t ∧ v.shows t.work = true) ∧
    ∃ t', r'.tasks.get? j = some t' ∧ v.shows t'.work = true := by
  have find : ∀ {tasks : Table Task} {k : Nat}, (v.marks tasks)[k]? = some true →
      ∃ t, tasks.get? k = some t ∧ v.shows t.work = true := by
    intro tasks k marked
    unfold marks at marked
    rw [List.getElem?_map] at marked
    exact Option.map_eq_some_iff.mp marked
  exact ⟨find h.left, find h.right⟩

theorem Twins.shown {i j : TaskId} (h : v.Twins r r' i j) {t : Task} (ht : r.tasks.get? i = some t) :
    v.shows t.work = true := by
  obtain ⟨⟨u, hu, shown⟩, -⟩ := h.found
  cases hu.symm.trans ht
  exact shown

theorem Twins.shown_right {i j : TaskId} (h : v.Twins r r' i j) {t' : Task} (ht' : r'.tasks.get? j = some t') :
    v.shows t'.work = true := by
  obtain ⟨-, u, hu, shown⟩ := h.found
  cases hu.symm.trans ht'
  exact shown

namespace Alike

theorem symm (h : v.Alike pairs r r') : v.Alike (fun i j => pairs j i) r' r where
  frame := h.frame.symm
  slot := by
    have slot := h.slot
    generalize r.slot = x at slot
    generalize r'.slot = x' at slot
    cases slot with
    | none => exact .none
    | some same => exact .some ⟨same.1.symm, same.2.symm⟩
  subscribers sub := by
    have peers := h.subscribers sub
    generalize r.subscribers.get? sub = x at peers
    generalize r'.subscribers.get? sub = x' at peers
    cases peers with
    | none => exact .none
    | some peers => exact .some peers.symm
  rows := h.rows.symm
  pairs hp := (h.pairs hp).symm
  sights := h.sights.symm

theorem only (h : v.Alike pairs r r') {pairs' : TaskId → TaskId → Prop}
    (known : ∀ {i j}, pairs' i j → v.Twins r r' i j) : v.Alike pairs' r r' :=
  ⟨h.frame, h.slot, h.subscribers, h.rows, known, h.sights⟩

/-- Relays look alike as long as their frames do and nothing else changes. -/
theorem reframe (h : v.Alike pairs r r') {r₁ r₁' : Relay σ} (frame : v.frame r₁ = v.frame r₁')
    (same : contents r₁ = contents r) (same' : contents r₁' = contents r') : v.Alike pairs r₁ r₁' := by
  simp only [contents, Prod.mk.injEq] at same same'
  obtain ⟨slot, subscribers, tasks, past⟩ := same
  obtain ⟨slot', subscribers', tasks', past'⟩ := same'
  refine ⟨frame, ?_, fun sub => ?_, ?_, ?_, ?_⟩
  · simp only [Twins, slot, slot', tasks, tasks']
    exact h.slot
  · rw [subscribers, subscribers']
    exact h.subscribers sub
  · rw [tasks, tasks', h.rows]
  · simp only [Twins, tasks, tasks']
    exact h.pairs
  · simp only [Vantage.sights, past, past']
    exact h.sights

theorem seen (h : v.Alike pairs r r') {α : Type} (f : Relay σ → α) (unmasked : ∀ r, f (v.frame r) = f r) :
    f r = f r' := by
  rw [← unmasked r, ← unmasked r', h.frame]

theorem settings (h : v.Alike pairs r r') : r.settings = r'.settings := h.seen Relay.settings fun _ => rfl

theorem source (h : v.Alike pairs r r') : v.mask r.source = v.mask r'.source := by
  have he := congrArg Relay.source h.frame
  exact he

theorem surroundings (h : v.Alike pairs r r') : r.surroundings = r'.surroundings :=
  h.seen Relay.surroundings fun _ => rfl

theorem registry (h : v.Alike pairs r r') : r.registry = r'.registry := h.seen Relay.registry fun _ => rfl

theorem cursor (h : v.Alike pairs r r') : r.cursor = r'.cursor := h.seen Relay.cursor fun _ => rfl

theorem handles (h : v.Alike pairs r r') : r.handles = r'.handles := h.seen Relay.handles fun _ => rfl

theorem hasController (h : v.Alike pairs r r') : r.hasController = r'.hasController :=
  h.seen Relay.hasController fun _ => rfl

theorem isCancelled (h : v.Alike pairs r r') (token : TokenId) : r.isCancelled token = r'.isCancelled token :=
  h.seen (Relay.isCancelled · token) fun _ => rfl

theorem sourceName (h : v.Alike pairs r r') : r.sourceName = r'.sourceName := v.name h.source

theorem subscriber (h : v.Alike pairs r r') (sub : SubId) :
    (r.subscribers.get? sub = none ∧ r'.subscribers.get? sub = none) ∨
    ∃ s s', r.subscribers.get? sub = some s ∧ r'.subscribers.get? sub = some s' ∧ v.Peers sub s s' := by
  have peers := h.subscribers sub
  generalize r.subscribers.get? sub = x at peers
  generalize r'.subscribers.get? sub = x' at peers
  cases peers with
  | none => exact .inl ⟨rfl, rfl⟩
  | some peers => exact .inr ⟨_, _, rfl, rfl, peers⟩

theorem slots (h : v.Alike pairs r r') : (r.slot = none ∧ r'.slot = none) ∨
    ∃ s s', r.slot = some s ∧ r'.slot = some s' ∧ s.token = s'.token ∧ v.Twins r r' s.task s'.task := by
  have slot := h.slot
  generalize r.slot = x at slot
  generalize r'.slot = x' at slot
  cases slot with
  | none => exact .inl ⟨rfl, rfl⟩
  | some same => exact .inr ⟨_, _, rfl, rfl, same.1, same.2⟩

/-- A task of the one and its twin are at the same work, and have ended in the same way. -/
theorem row (h : v.Alike pairs r r') {i j : TaskId} (twins : v.Twins r r' i j) {t t' : Task}
    (ht : r.tasks.get? i = some t) (ht' : r'.tasks.get? j = some t') :
    v.work t.work = v.work t'.work ∧ t.ending = t'.ending := by
  have row := rows_get? ht (twins.shown ht)
  have row' := rows_get? ht' (twins.shown_right ht')
  rw [twins.rank, h.rows, row'] at row
  exact ⟨(congrArg Prod.fst (Option.some.inj row)).symm, (congrArg Prod.snd (Option.some.inj row)).symm⟩

/-- As many tasks are seen in the one as in the other. -/
theorem count (h : v.Alike pairs r r') : (v.marks r.tasks).count true = (v.marks r'.tasks).count true := by
  rw [count_marks, count_marks, h.rows]

theorem note (h : v.Alike pairs r r') {o o' : Occurrence} (same : v.sight? o = v.sight? o') :
    v.Alike pairs (r.note o) (r'.note o') := by
  refine ⟨h.frame, h.slot, h.subscribers, h.rows, h.pairs, ?_⟩
  have sights := h.sights
  unfold Vantage.sights at sights ⊢
  simp only [Relay.note, List.filterMap_cons, same, sights]

theorem note_right (h : v.Alike pairs r r') {o : Occurrence} (unseen : v.sight? o = none) :
    v.Alike pairs r (r'.note o) := by
  refine ⟨h.frame, h.slot, h.subscribers, h.rows, h.pairs, ?_⟩
  have sights := h.sights
  unfold Vantage.sights at sights ⊢
  simp only [Relay.note, List.filterMap_cons, unseen, sights]

theorem update (h : v.Alike pairs r r') (sub : SubId) {f g : Subscriber → Subscriber}
    (peers : ∀ s s', v.Peers sub s s' → v.Peers sub (f s) (g s')) :
    v.Alike pairs (r.updateSubscriber sub f) (r'.updateSubscriber sub g) := by
  refine ⟨h.frame, h.slot, fun sub' => ?_, h.rows, h.pairs, h.sights⟩
  unfold Relay.updateSubscriber
  simp only [Table.get?_update]
  rcases h.subscriber sub' with ⟨hn, hn'⟩ | ⟨s, s', hs, hs', same⟩
  · simp only [hn, hn', Option.map_none, ite_self]
    exact .none
  · simp only [hs, hs', Option.map_some]
    split
    · rename_i he
      subst he
      exact .some (peers s s' same)
    · exact .some same

theorem update_right (h : v.Alike pairs r r') {sub : SubId} (hides : v.hides sub = true) {g : Subscriber → Subscriber}
    (quiet : ∀ s, s.reactions = [] → (g s).reactions = []) : v.Alike pairs r (r'.updateSubscriber sub g) := by
  refine ⟨h.frame, h.slot, fun sub' => ?_, h.rows, h.pairs, h.sights⟩
  unfold Relay.updateSubscriber
  simp only [Table.get?_update]
  rcases h.subscriber sub' with ⟨hn, hn'⟩ | ⟨s, s', hs, hs', same⟩
  · simp only [hn, hn', Option.map_none, ite_self]
    exact .none
  · simp only [hs, hs', Option.map_some]
    split
    · rename_i he
      subst he
      exact .some (same.change_right hides (quiet s'))
    · exact .some same

theorem spawn (h : v.Alike pairs r r') (name name' : String) {w w' : Work} (shown : v.shows w = true)
    (shown' : v.shows w' = true) (same : v.work w = v.work w') :
    v.Alike pairs (r.spawn name w).2 (r'.spawn name' w').2 := by
  refine ⟨h.frame, ?_, h.subscribers, ?_, fun hp => (h.pairs hp).spawn name name' w w', ?_⟩
  · rcases h.slots with ⟨hn, hn'⟩ | ⟨s, s', hs, hs', same, twins⟩
    · change Option.Rel _ r.slot r'.slot
      rw [hn, hn']
      exact .none
    · change Option.Rel _ r.slot r'.slot
      rw [hs, hs']
      exact .some ⟨same, twins.spawn name name' w w'⟩
  · have rows : v.rows (r.spawn name w).2.tasks = v.rows r.tasks ++ [(v.work w, none)] :=
      rows_add (t := ⟨name, w, none⟩) shown
    have rows' : v.rows (r'.spawn name' w').2.tasks = v.rows r'.tasks ++ [(v.work w', none)] :=
      rows_add (t := ⟨name', w', none⟩) shown'
    rw [rows, rows', h.rows, same]
  · have sights := h.sights
    unfold Vantage.sights at sights ⊢
    simp only [Relay.spawn, Relay.note, List.filterMap_cons, Vantage.sight?, sights]

/-- Two tasks that were started at once are the same task. -/
theorem spawn_twins (h : v.Alike pairs r r') (name name' : String) {w w' : Work} (shown : v.shows w = true)
    (shown' : v.shows w' = true) :
    v.Twins (r.spawn name w).2 (r'.spawn name' w').2 r.tasks.size r'.tasks.size := by
  have last := Twin.last h.count
  have marks : v.marks (r.spawn name w).2.tasks = v.marks r.tasks ++ [v.shows w] := marks_add r.tasks ⟨name, w, none⟩
  have marks' : v.marks (r'.spawn name' w').2.tasks = v.marks r'.tasks ++ [v.shows w'] :=
    marks_add r'.tasks ⟨name', w', none⟩
  have size : ∀ tasks : Table Task, (v.marks tasks).length = tasks.size := fun tasks => List.length_map _
  unfold Twins
  rw [marks, marks', shown, shown', ← size, ← size]
  exact last

theorem spawn_right (h : v.Alike pairs r r') (name : String) {w : Work} (unseen : v.shows w = false) :
    v.Alike pairs r (r'.spawn name w).2 := by
  refine ⟨h.frame, ?_, h.subscribers, ?_, fun hp => (h.pairs hp).spawn_right name w, ?_⟩
  · rcases h.slots with ⟨hn, hn'⟩ | ⟨s, s', hs, hs', same, twins⟩
    · change Option.Rel _ r.slot r'.slot
      rw [hn, hn']
      exact .none
    · change Option.Rel _ r.slot r'.slot
      rw [hs, hs']
      exact .some ⟨same, twins.spawn_right name w⟩
  · have rows : v.rows (r'.spawn name w).2.tasks = v.rows r'.tasks := rows_add_of_not (t := ⟨name, w, none⟩) unseen
    rw [rows, h.rows]
  · have sights := h.sights
    unfold Vantage.sights at sights ⊢
    simp only [Relay.spawn, Relay.note, List.filterMap_cons, Vantage.sight?, sights]

/-- A task and its twin change in the same way. -/
theorem updateTask (h : v.Alike pairs r r') {i j : TaskId} (twins : v.Twins r r' i j) {f g : Task → Task}
    (shown : ∀ t, v.shows t.work = true → v.shows (f t).work = true ∧ v.shows (g t).work = true)
    (same : ∀ t t', v.work t.work = v.work t'.work → t.ending = t'.ending →
      v.work (f t).work = v.work (g t').work ∧ (f t).ending = (g t').ending) :
    v.Alike pairs { r with tasks := r.tasks.update i f } { r' with tasks := r'.tasks.update j g } := by
  obtain ⟨⟨t, ht, seen⟩, t', ht', seen'⟩ := twins.found
  have fseen := (shown t seen).1
  have gseen := (shown t' seen').2
  have marks : v.marks (r.tasks.update i f) = v.marks r.tasks := marks_update ht (fseen.trans seen.symm)
  have marks' : v.marks (r'.tasks.update j g) = v.marks r'.tasks := marks_update ht' (gseen.trans seen'.symm)
  obtain ⟨work, ending⟩ := h.row twins ht ht'
  obtain ⟨work', ending'⟩ := same t t' work ending
  refine ⟨h.frame, ?_, h.subscribers, ?_, ?_, h.sights⟩
  · simp only [Twins, marks, marks']
    exact h.slot
  · rw [rows_update ht seen fseen, rows_update ht' seen' gseen, h.rows, twins.rank, work', ending']
  · simp only [Twins, marks, marks']
    exact h.pairs

theorem updateTask_right (h : v.Alike pairs r r') {j : TaskId} {t : Task} (ht : r'.tasks.get? j = some t)
    {g : Task → Task} (unseen : v.shows t.work = false) (unseen' : v.shows (g t).work = false) :
    v.Alike pairs r { r' with tasks := r'.tasks.update j g } := by
  have marks : v.marks (r'.tasks.update j g) = v.marks r'.tasks := marks_update ht (unseen'.trans unseen.symm)
  refine ⟨h.frame, ?_, h.subscribers, ?_, ?_, h.sights⟩
  · simp only [Twins, marks]
    exact h.slot
  · rw [rows_update_of_not ht unseen unseen', h.rows]
  · simp only [Twins, marks]
    exact h.pairs

theorem setWork (h : v.Alike pairs r r') {i j : TaskId} (twins : v.Twins r r' i j) {w w' : Work}
    (shown : v.shows w = true) (shown' : v.shows w' = true) (same : v.work w = v.work w') :
    v.Alike pairs (r.setWork i w) (r'.setWork j w') :=
  h.updateTask twins (fun _ _ => ⟨shown, shown'⟩) fun _ _ _ ending => ⟨same, ending⟩

theorem endTask (h : v.Alike pairs r r') {i j : TaskId} (twins : v.Twins r r' i j) (ending : Ending) :
    v.Alike pairs (r.endTask i ending) (r'.endTask j ending) :=
  h.updateTask twins (fun _ seen => ⟨seen, seen⟩) fun _ _ work _ => ⟨work, rfl⟩

theorem taskEnded (h : v.Alike pairs r r') {i j : TaskId} (twins : v.Twins r r' i j) :
    r.taskEnded i = r'.taskEnded j := by
  obtain ⟨⟨t, ht, -⟩, t', ht', -⟩ := twins.found
  obtain ⟨-, ending⟩ := h.row twins ht ht'
  simp [Relay.taskEnded, Task.hasEnded, ht, ht', ending]

theorem updateSeen (h : v.Alike pairs r r') (sub : SubId) {f g : Subscriber → Subscriber}
    (hidden : ∀ s, s.reactions = [] → (f s).reactions = [] ∧ (g s).reactions = [])
    (seen : ∀ s s', s.Resembles s' → (f s).Resembles (g s')) :
    v.Alike pairs (r.updateSubscriber sub f) (r'.updateSubscriber sub g) :=
  h.update sub fun s s' peers => peers.change hidden (seen s s')

/-- Facts about a subscriber look the same, whatever it is called. -/
theorem startWorker (h : v.Alike pairs r r') {sub : SubId} (seen : v.hides sub = false) {s s' : Subscriber}
    (served : s.isServed = s'.isServed) : v.Alike pairs (r.startWorker sub s) (r'.startWorker sub s') := by
  unfold Relay.startWorker
  rw [served]
  split
  · exact h
  · have shown : v.shows (.worker sub .idle) = true := by simp [Vantage.shows, seen]
    have spawned := h.spawn (Relay.workerName s.name) (Relay.workerName s'.name) shown shown rfl
    exact spawned.updateSeen sub (fun _ quiet => ⟨quiet, quiet⟩)
      fun _ _ same => ⟨same.handler, same.reactions, same.events, rfl, same.permits, same.tally⟩

theorem startWorker_right (h : v.Alike pairs r r') {sub : SubId} (hides : v.hides sub = true) (s : Subscriber) :
    v.Alike pairs r (r'.startWorker sub s) := by
  unfold Relay.startWorker
  split
  · exact h
  · have unseen : v.shows (.worker sub .idle) = false := by simp [Vantage.shows, hides]
    exact (h.spawn_right (Relay.workerName s.name) unseen).update_right hides fun _ quiet => quiet

theorem handTo_right (h : v.Alike pairs r r') {sub : SubId} (hides : v.hides sub = true) (d : Delivery) :
    v.Alike pairs r (r'.handTo sub d) := by
  unfold Relay.handTo
  split
  · exact h
  · split
    · exact (h.update_right (g := Subscriber.countDropped) hides fun _ quiet => quiet).note_right rfl
    · have appended := h.update_right (g := (·.append d)) hides fun _ quiet => quiet
      exact (appended.note_right (o := .queued (r'.party sub) d) rfl).startWorker_right hides _

theorem handTo (h : v.Alike pairs r r') (sub : SubId) {d d' : Delivery} (same : d.event = d'.event) :
    v.Alike pairs (r.handTo sub d) (r'.handTo sub d') := by
  cases hides : v.hides sub with
  | true => exact ((h.handTo_right hides d').symm.handTo_right hides d).symm
  | false =>
    rcases h.subscriber sub with ⟨hn, hn'⟩ | ⟨s, s', hs, hs', peers⟩
    · simp only [Relay.handTo, hn, hn']
      exact h
    · have alike := peers.resembles hides
      simp only [Relay.handTo, hs, hs', alike.isFull]
      split
      · have counted := h.updateSeen sub (f := Subscriber.countDropped) (g := Subscriber.countDropped)
          (fun _ quiet => ⟨quiet, quiet⟩)
          fun t t' same => ⟨same.handler, same.reactions, same.events, same.served, same.permits, by
            simp only [Subscriber.countDropped, same.tally]⟩
        exact counted.note rfl
      · have appended := h.updateSeen sub (f := (·.append d)) (g := (·.append d'))
          (fun _ quiet => ⟨quiet, quiet⟩)
          fun t t' like => ⟨like.handler, like.reactions, by
            simp only [Subscriber.append, List.map_append, like.events, List.map_cons, same], like.served,
            like.permits, like.tally⟩
        have queued : v.Alike pairs ((r.updateSubscriber sub (·.append d)).note (.queued (r.party sub) d))
          ((r'.updateSubscriber sub (·.append d')).note (.queued (r'.party sub) d')) := appended.note rfl
        exact queued.startWorker hides alike.served

theorem dispatch (h : v.Alike pairs r r') (targets : List SubId) {d d' : Delivery} (same : d.event = d'.event) :
    v.Alike pairs (r.dispatch targets d) (r'.dispatch targets d') := by
  induction targets generalizing r r' with
  | nil => exact h
  | cons sub rest ih => exact ih (h.handTo sub same)

theorem discardPending_right (h : v.Alike pairs r r') {sub : SubId} (hides : v.hides sub = true)
    (reason : DiscardReason) : v.Alike pairs r (r'.discardPending reason sub) := by
  unfold Relay.discardPending
  split
  · exact h
  · split
    · exact h
    · exact (h.update_right (g := Subscriber.discard) hides fun _ quiet => quiet).note_right rfl

theorem discardPending (h : v.Alike pairs r r') (reason : DiscardReason) (sub : SubId) :
    v.Alike pairs (r.discardPending reason sub) (r'.discardPending reason sub) := by
  cases hides : v.hides sub with
  | true => exact ((h.discardPending_right hides reason).symm.discardPending_right hides reason).symm
  | false =>
    rcases h.subscriber sub with ⟨hn, hn'⟩ | ⟨s, s', hs, hs', peers⟩
    · simp only [Relay.discardPending, hn, hn']
      exact h
    · simp only [Relay.discardPending, hs, hs', (peers.resembles hides).isEmpty]
      split
      · exact h
      · have discarded := h.updateSeen sub (f := Subscriber.discard) (g := Subscriber.discard)
          (fun _ quiet => ⟨quiet, quiet⟩)
          fun t t' like => ⟨like.handler, like.reactions, rfl, like.served, like.permits, by
            simp only [Subscriber.discard, like.tally, like.length]⟩
        exact discarded.note rfl

theorem discardAll (h : v.Alike pairs r r') (reason : DiscardReason) (subs : List SubId) :
    v.Alike pairs (r.discardAll reason subs) (r'.discardAll reason subs) := by
  induction subs generalizing r r' with
  | nil => exact h
  | cons sub rest ih => exact ih (h.discardPending reason sub)

theorem discardEnrolments (h : v.Alike pairs r r') (enrolments : List Enrolment) :
    v.Alike pairs (r.discardEnrolments enrolments) (r'.discardEnrolments enrolments) := by
  induction enrolments generalizing r r' with
  | nil => exact h
  | cons e rest ih => exact ih (h.discardAll _ e.2)

theorem fireEvent (h : v.Alike pairs r r') (event : Event) :
    (r.fireEvent event).1 = (r'.fireEvent event).1 ∧ v.Alike pairs (r.fireEvent event).2 (r'.fireEvent event).2 := by
  have told : v.Alike pairs (r.note (.fired event (r'.registry.membersOf event.name)))
    (r'.note (.fired event (r'.registry.membersOf event.name))) := h.note rfl
  unfold Relay.fireEvent
  rw [h.registry]
  refine ⟨rfl, ?_⟩
  dsimp only
  split
  · exact told
  · exact told.spawn _ _ rfl rfl rfl

theorem withRegistry (h : v.Alike pairs r r') (registry : Registry) :
    v.Alike pairs (r.withRegistry registry) (r'.withRegistry registry) := by
  have changed : v.Alike pairs { r with registry } { r' with registry } :=
    h.reframe (congrArg (fun r : Relay σ => { r with registry }) h.frame) rfl rfl
  unfold Relay.withRegistry
  rw [h.registry]
  dsimp only
  split
  · exact changed.note rfl
  · exact changed.note rfl
  · exact changed

theorem withSource (h : v.Alike pairs r r') {s s' : σ} (same : v.mask s = v.mask s') :
    v.Alike pairs { r with source := s } { r' with source := s' } := by
  refine h.reframe ?_ rfl rfl
  change { v.frame r with source := v.mask s } = { v.frame r' with source := v.mask s' }
  rw [h.frame, same]

theorem withCursor (h : v.Alike pairs r r') (cursor : Cursor) : v.Alike pairs { r with cursor } { r' with cursor } :=
  h.reframe (congrArg (fun r : Relay σ => { r with cursor }) h.frame) rfl rfl

theorem interruptSource (h : v.Alike pairs r r') (caller : Caller) :
    v.Alike pairs (r.interruptSource caller) (r'.interruptSource caller) :=
  (h.withSource (v.interrupt h.source)).note rfl

theorem resetCursor (h : v.Alike pairs r r') : v.Alike pairs r.resetCursor r'.resetCursor :=
  (h.withCursor .unset).note rfl

theorem vacate (h : v.Alike pairs r r') : v.Alike pairs { r with slot := none } { r' with slot := none } :=
  ⟨h.frame, .none, h.subscribers, h.rows, h.pairs, h.sights⟩

end Alike

end Vantage

end EventRelay
