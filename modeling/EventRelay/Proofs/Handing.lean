import EventRelay.Proofs.Frame

namespace EventRelay

/-- An event was put into the queue of a subscriber, or dropped because the queue was full. -/
def Occurrence.handing? : Occurrence → Option (SubId × Delivery)
  | .queued party d => some (party.id, d)
  | .dropped party d => some (party.id, d)
  | _ => none

namespace Subscriber

/-- An event handed over goes to the end of the queue. A full queue is left as it is, and the loss is counted. -/
def offer (s : Subscriber) (d : Delivery) : Subscriber :=
  if ∃ room ∈ s.capacity, room ≤ s.pending.length then
    { s with tally := { s.tally with dropped := s.tally.dropped + 1 } }
  else { s with pending := s.pending ++ [d] }

def offerAll (s : Subscriber) (ds : List Delivery) : Subscriber := ds.foldl offer s

theorem isFull_iff {s : Subscriber} : s.isFull = true ↔ ∃ room ∈ s.capacity, room ≤ s.pending.length := by
  simp [isFull, Option.any_eq_true]

theorem countDropped_eq_offer {s : Subscriber} (full : s.isFull = true) (d : Delivery) :
    s.countDropped = s.offer d :=
  (if_pos (isFull_iff.mp full)).symm

theorem append_eq_offer {s : Subscriber} (free : ¬ s.isFull = true) (d : Delivery) : s.append d = s.offer d :=
  (if_neg (mt isFull_iff.mpr free)).symm

theorem offer_served (s : Subscriber) (worker : Option TaskId) (d : Delivery) :
    { s with worker }.offer d = { s.offer d with worker } := by
  have capacity : { s with worker }.capacity = s.capacity := rfl
  unfold offer
  rw [capacity]
  split <;> rfl

theorem offerAll_served (s : Subscriber) (worker : Option TaskId) (ds : List Delivery) :
    { s with worker }.offerAll ds = { s.offerAll ds with worker } := by
  induction ds generalizing s with
  | nil => rfl
  | cons d rest ih =>
    change ({ s with worker }.offer d).offerAll rest = { (s.offer d).offerAll rest with worker }
    rw [offer_served, ih]

theorem offerAll_append (s : Subscriber) (ds ds' : List Delivery) :
    s.offerAll (ds ++ ds') = (s.offerAll ds).offerAll ds' := List.foldl_append

end Subscriber

/-- What was handed to one subscriber, in order. -/
def sentTo (sub : SubId) (handings : List (SubId × Delivery)) : List Delivery :=
  (handings.filter (fun h => h.1 == sub)).map Prod.snd

theorem sentTo_append (sub : SubId) (hs hs' : List (SubId × Delivery)) :
    sentTo sub (hs ++ hs') = sentTo sub hs ++ sentTo sub hs' := by
  simp [sentTo]

namespace Relay

variable {σ : Type}

/-- All that was handed over so far, in order. -/
def handings (r : Relay σ) : List (SubId × Delivery) := r.story.filterMap Occurrence.handing?

/-- Just these events were handed over, in this order; workers may have been started. -/
structure Handed (r r' : Relay σ) (hs : List (SubId × Delivery)) : Prop where
  facts : r'.handings = r.handings ++ hs
  queues : ∀ {sub s}, r.subscribers.get? sub = some s →
    ∃ worker, r'.subscribers.get? sub = some { s.offerAll (sentTo sub hs) with worker }

theorem Handed.nothing {r r' : Relay σ} (hf : r'.handings = r.handings) (hs : r'.subscribers = r.subscribers) :
    r.Handed r' [] :=
  ⟨by rw [hf, List.append_nil], fun {_ s} h => ⟨s.worker, by rw [hs, h]; rfl⟩⟩

theorem Handed.trans {r r' r'' : Relay σ} {hs hs' : List (SubId × Delivery)} (h : r.Handed r' hs)
    (h' : r'.Handed r'' hs') : r.Handed r'' (hs ++ hs') := by
  refine ⟨by rw [h'.facts, h.facts, List.append_assoc], fun {sub s} hg => ?_⟩
  obtain ⟨worker, hw⟩ := h.queues hg
  obtain ⟨worker', hw'⟩ := h'.queues hw
  refine ⟨worker', ?_⟩
  rw [hw', sentTo_append, Subscriber.offerAll_append, Subscriber.offerAll_served]

theorem handings_note (r : Relay σ) (o : Occurrence) :
    (r.note o).handings = r.handings ++ o.handing?.toList := by
  simp only [handings, story, note, List.reverse_cons, List.filterMap_append]
  cases ho : o.handing? <;> simp [ho]

theorem note_handed (r : Relay σ) {o : Occurrence} (ho : o.handing? = none) : r.Handed (r.note o) [] :=
  .nothing (by rw [handings_note, ho]; exact List.append_nil _) rfl

theorem startWorker_handed (r : Relay σ) (sub : SubId) (s : Subscriber) : r.Handed (r.startWorker sub s) [] := by
  unfold startWorker
  split
  · exact .nothing rfl rfl
  · refine ⟨?_, fun {sub' s'} hg => ?_⟩
    · change ((r.note (.spawned r.tasks.size (workerName s.name)))).handings = _
      rw [handings_note]
      rfl
    · have updated : ((r.spawn (workerName s.name) (.worker sub .idle)).2.updateSubscriber sub
          (fun x => { x with worker := some r.tasks.size })).subscribers.get? sub' =
          if sub = sub' then some { s' with worker := some r.tasks.size } else some s' := by
        change (r.subscribers.update sub _).get? sub' = _
        rw [Table.get?_update, hg]
        rfl
      refine ⟨if sub = sub' then some r.tasks.size else s'.worker, updated.trans ?_⟩
      split <;> rfl

theorem handTo_handed (r : Relay σ) {sub : SubId} {s : Subscriber} (hs : r.subscribers.get? sub = some s)
    (d : Delivery) : r.Handed (r.handTo sub d) [(sub, d)] := by
  have offered : ∀ (f : Subscriber → Subscriber) (o : Occurrence), o.handing? = some (sub, d) → f s = s.offer d →
      r.Handed ((r.updateSubscriber sub f).note o) [(sub, d)] := by
    intro f o ho hf
    refine ⟨by rw [handings_note, ho]; rfl, fun {sub' s'} hg => ?_⟩
    change ∃ worker, (r.subscribers.update sub f).get? sub' = _
    rw [Table.get?_update, hg]
    by_cases he : sub = sub'
    · subst he
      cases hs.symm.trans hg
      refine ⟨(s.offer d).worker, ?_⟩
      simp [sentTo, hf, Subscriber.offerAll]
    · refine ⟨s'.worker, ?_⟩
      simp [sentTo, he, Subscriber.offerAll]
  unfold handTo
  rw [hs]
  dsimp only
  split
  · rename_i full
    exact offered _ _ rfl (Subscriber.countDropped_eq_offer full d)
  · rename_i free
    exact (offered _ _ rfl (Subscriber.append_eq_offer free d)).trans (startWorker_handed _ sub s)

/-- A dispatch hands the event once to each target, in order. -/
theorem dispatch_handed (r : Relay σ) {targets : List SubId} (d : Delivery)
    (known : ∀ sub ∈ targets, sub < r.subscribers.size) :
    r.Handed (r.dispatch targets d) (targets.map (fun sub => (sub, d))) := by
  induction targets generalizing r with
  | nil => exact .nothing rfl rfl
  | cons sub rest ih =>
    obtain ⟨s, hs⟩ := Table.get?_of_lt (known sub List.mem_cons_self)
    refine (handTo_handed r hs d).trans (ih _ fun x hx => ?_)
    rw [(handTo_aside r sub d).size]
    exact known x (List.mem_cons_of_mem sub hx)

end Relay

end EventRelay
