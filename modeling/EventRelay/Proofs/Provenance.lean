import EventRelay.Proofs.CutOff

namespace EventRelay

/-- The event that was fired. -/
def Occurrence.firedEvent? : Occurrence → Option Event
  | .fired event _ => some event
  | _ => none

namespace Relay

variable {σ : Type}

theorem fireEvent_told (r : Relay σ) (event : Event) :
    event ∈ (r.fireEvent event).2.past.filterMap Occurrence.firedEvent? := by
  refine List.mem_filterMap.mpr ⟨.fired event (r.registry.membersOf event.name), ?_, rfl⟩
  unfold fireEvent
  dsimp only
  split
  · exact List.mem_cons_self
  · exact List.mem_cons_of_mem _ List.mem_cons_self

variable [EventSource σ]

/-- The ways by which an event can come to a subscriber. -/
inductive Traced (start r : Relay σ) (d : Delivery) : Prop
  | polled {t : Task} {f : Fetched} (row : r.tasks.get? d.carrier = some t) (poller : t.isPoller = true)
      (taken : .resultTaken d.carrier (.fetched f) ∈ r.past) (stamped : d.event = f.event.indexed f.index) :
      Traced start r d
  | fired {t : Task} {before : Relay σ} (row : r.tasks.get? d.carrier = some t) (other : t.isPoller = false)
      (origin : FiredIn start r d.carrier d.event before) : Traced start r d

theorem Traced.later {start r r' : Relay σ} {d : Delivery} (h : Traced start r d) (stride : Stride r r') :
    Traced start r' d := by
  cases h with
  | polled row poller taken stamped =>
    obtain ⟨t', row', kind⟩ := stride.ongoing.kinds row
    exact .polled row' (kind.trans poller) (stride.ongoing.past.subset taken) stamped
  | fired row other origin =>
    obtain ⟨t', row', kind⟩ := stride.ongoing.kinds row
    exact .fired row' (kind.trans other)
      ⟨origin.reached, origin.controller, origin.task, origin.since.tail stride⟩

/-- Whatever is in a flow came there on one of the two ways. -/
theorem Strides.traced {source : σ} {start r : Relay σ} (h : Created source start) (hs : Strides start r) :
    ∀ {sub d}, d ∈ r.flow sub → Traced start r d := by
  induction hs with
  | refl =>
    intro sub d hd
    rw [created_flow h] at hd
    contradiction
  | @tail r r' reached stride ih =>
    intro sub d hd
    have added : ∀ {targets e}, r.Gained r' targets e → d ∈ r.flow sub ∨ d = e := by
      intro targets e gained
      obtain ⟨k, -, flow⟩ := gained.flow sub
      exact (List.mem_append.mp (flow.subset hd)).imp_right fun new => (List.mem_replicate.mp new).2
    rcases stride.supply with steady | ⟨id, failures, stage, f, ⟨name, row⟩, taken, gained⟩ |
      ⟨id, event, targets, fires, gained⟩
    · exact (ih ((steady.flow sub).subset hd)).later stride
    · rcases added gained with old | rfl
      · exact (ih old).later stride
      · obtain ⟨t, row', kind⟩ := stride.ongoing.kinds row
        exact .polled row' kind taken rfl
    · rcases added gained with old | rfl
      · exact (ih old).later stride
      · obtain ⟨before, origin, -⟩ := fired_origin h reached fires
        obtain ⟨name, row⟩ := fires
        have waiting : Traced start r ⟨event, id⟩ := .fired row rfl origin
        exact waiting.later stride

/-- An event that a handler is given through the poller bears the index under which the source returned it, whatever
index it had before; one that was fired is given as it was fired. So the index tells the way by which an event came, as
long as no event is fired that has one already. -/
theorem index_tells_the_way {source : σ} {r : Relay σ} (seen : Seen source r) {sub : SubId} {d : Delivery}
    (entered : d ∈ r.enteredBy sub) :
    (r.isPolled d = true → d.event.isFired = false ∧
      ∃ f, .resultTaken d.carrier (.fetched f) ∈ r.past ∧ d.event = f.event.indexed f.index) ∧
    (r.isPolled d = false → ∃ start before, Created source start ∧ FiredIn start r d.carrier d.event before) ∧
    ((∀ event ∈ r.past.filterMap Occurrence.firedEvent?, event.index = none) →
      (d.event.isFired = true ↔ r.isPolled d = false)) := by
  obtain ⟨start, created, strides⟩ := seen.strides
  have traced := strides.traced created (List.mem_append_left (r.pendingOf sub) entered)
  cases traced with
  | @polled t f row poller taken stamped =>
    have polled : r.isPolled d = true := by simp [isPolled, row, poller]
    have marked : d.event.isFired = false := by simp [stamped, Event.isFired, Event.indexed]
    exact ⟨fun _ => ⟨marked, f, taken, stamped⟩, by simp [polled], fun _ => by simp [polled, marked]⟩
  | @fired t before row other origin =>
    have fired : r.isPolled d = false := by simp [isPolled, row, other]
    refine ⟨by simp [fired], fun _ => ⟨start, before, created, origin⟩, fun unset => ?_⟩
    have later := origin.since.ongoing.past.sublist.filterMap Occurrence.firedEvent?
    have none := unset d.event (later.subset (fireEvent_told before d.event))
    simp [fired, Event.isFired, none]

/-- A posted event that had an index is given with that of the source, and a fired one without an index with none. -/
theorem index_tells_the_way_plain :
    let r := (plain (EventRing.create .standard)).follow [.request (.call (.add "a" 0)),
      .request (.call (.post ((Event.named "a").indexed 7))), .request (.call (.fire (.named "a"))), .turn 0, .turn 1,
      .turn 2, .turn 2]
    r.enteredBy 0 = [⟨(Event.named "a").indexed 0, 0⟩, ⟨.named "a", 1⟩] ∧
      (∀ event ∈ r.past.filterMap Occurrence.firedEvent?, event.index = none) ∧
      ∀ d ∈ r.enteredBy 0, d.event.isFired = true ↔ r.isPolled d = false := by
  intro r
  have seen : Seen (EventRing.create .standard) r := .between ((Reachable.created (plain_created _)).follow _)
  have entered : r.enteredBy 0 = [⟨(Event.named "a").indexed 0, 0⟩, ⟨.named "a", 1⟩] := by decide
  have unset : ∀ event ∈ r.past.filterMap Occurrence.firedEvent?, event.index = none := by decide
  exact ⟨entered, unset, fun d hd => (index_tells_the_way seen hd).2.2 unset⟩

/-- An event that is fired with an index reaches the handler with it, and looks as if it came from the source. -/
theorem fired_index_is_kept :
    let r := (plain (EventRing.create .standard)).follow [.request (.call (.add "a" 0)),
      .request (.call (.fire ((Event.named "a").indexed 5))), .turn 1, .turn 2]
    Seen (EventRing.create .standard) r ∧ r.enteredBy 0 = [⟨(Event.named "a").indexed 5, 1⟩] ∧
      r.isPolled ⟨(Event.named "a").indexed 5, 1⟩ = false ∧ ((Event.named "a").indexed 5).isFired = false :=
  ⟨.between ((Reachable.created (plain_created _)).follow _), by decide, by decide, rfl⟩

end Relay

end EventRelay
