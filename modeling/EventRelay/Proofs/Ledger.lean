import EventRelay.Proofs.Handing
import EventRelay.Proofs.Queue

namespace EventRelay

namespace QueueFact

/-- What the counters show after these facts, the latest first. -/
def tally : List QueueFact → Tally
  | [] => ⟨0, 0, 0, 0⟩
  | .dropped _ :: before => { tally before with dropped := (tally before).dropped + 1 }
  | .discarded ds :: before => { tally before with discarded := (tally before).discarded + ds.length }
  | .left _ true :: before => { tally before with panicked := (tally before).panicked + 1 }
  | .left _ false :: before => { tally before with delivered := (tally before).delivered + 1 }
  | _ :: before => tally before

/-- The events that the queue was offered, in order: it accepted them or dropped them. -/
def offered : List QueueFact → List Delivery
  | [] => []
  | .queued d :: before => offered before ++ [d]
  | .dropped d :: before => offered before ++ [d]
  | _ :: before => offered before

/-- What the handler was given, it has left again, but for the event that is inside. -/
theorem given_length {facts : List QueueFact} (fits : ∀ fact before, fact :: before <:+ facts → fact.Fits before) :
    (given facts).length = (tally facts).delivered + (tally facts).panicked + (inHand facts).toList.length := by
  induction facts with
  | nil => rfl
  | cons fact before ih =>
    have here := fits fact before (List.suffix_refl _)
    have earlier := ih fun f b h => fits f b (h.trans (List.suffix_cons fact before))
    cases fact with
    | queued | dropped | discarded => exact earlier
    | entered d =>
      have free : inHand before = none := here
      simp [given, tally, inHand, earlier, free]
    | left d panicked =>
      have inside : inHand before = some d := here
      rw [inside] at earlier
      cases panicked <;> simp [given, tally, inHand, earlier] <;> omega

/-- What the queue was offered, it has retained, dropped or discarded. -/
theorem offered_length {facts : List QueueFact} (fits : ∀ fact before, fact :: before <:+ facts → fact.Fits before) :
    (offered facts).length = (retained facts).length + (tally facts).dropped + (tally facts).discarded := by
  induction facts with
  | nil => rfl
  | cons fact before ih =>
    have here := fits fact before (List.suffix_refl _)
    have earlier := ih fun f b h => fits f b (h.trans (List.suffix_cons fact before))
    cases fact with
    | queued | dropped =>
      simp only [offered, retained, tally, List.length_append, List.length_singleton]
      omega
    | discarded ds =>
      have taken : retained before = given before ++ ds := here
      simp only [offered, retained, tally, List.length_take, earlier, taken, List.length_append]
      omega
    | entered => exact earlier
    | left d panicked => cases panicked <;> exact earlier

/-- How many events were lost by it: dropped, discarded, or given to a handler that panicked. -/
def loss : QueueFact → Nat
  | .dropped _ => 1
  | .discarded ds => ds.length
  | .left _ true => 1
  | _ => 0

/-- Every loss is counted. -/
theorem loss_le {fact : QueueFact} {facts : List QueueFact} (h : fact ∈ facts) :
    fact.loss ≤ (tally facts).panicked + (tally facts).dropped + (tally facts).discarded := by
  induction facts with
  | nil => contradiction
  | cons latest before ih =>
    rcases List.mem_cons.mp h with rfl | earlier
    · cases fact with
      | left d panicked => cases panicked <;> simp only [loss, tally] <;> omega
      | queued | dropped | discarded | entered => simp only [loss, tally]; omega
    · have counted := ih earlier
      cases latest with
      | left d panicked => cases panicked <;> simp only [tally] <;> omega
      | queued | dropped | discarded | entered => simp only [tally]; omega

end QueueFact

namespace Station

/-- The counters show what happened, and no discard was reported that took nothing. -/
structure Booked (v : Station) : Prop where
  tally : v.tally = QueueFact.tally v.facts
  taken : ∀ {ds}, .discarded ds ∈ v.facts → ds ≠ []

theorem Booked.fact {v v' : Station} (h : v.Booked) {fact : QueueFact} (facts : v'.facts = fact :: v.facts)
    (tally : v'.tally = QueueFact.tally (fact :: v.facts)) (taken : ∀ ds, fact = .discarded ds → ds ≠ []) :
    v'.Booked := by
  refine ⟨facts ▸ tally, fun {ds} hm => ?_⟩
  rw [facts] at hm
  rcases List.mem_cons.mp hm with latest | earlier
  · exact taken ds latest.symm
  · exact h.taken earlier

theorem Step.booked {e e' : Option Engagement} {v v' : Station} (step : Step (e, v) (e', v')) (h : v.Booked) :
    v'.Booked := by
  cases step with
  | accepted | started | began => exact h.fact rfl h.tally fun _ he => QueueFact.noConfusion he
  | refused d =>
    exact h.fact rfl (by simp [refuse, QueueFact.tally, h.tally]) fun _ he => QueueFact.noConfusion he
  | discarded some =>
    refine h.fact rfl (by simp [discard, QueueFact.tally, h.tally]) fun ds he => ?_
    cases he
    exact some
  | left _ panicked =>
    refine h.fact rfl ?_ fun _ he => QueueFact.noConfusion he
    cases panicked <;> simp [leave, QueueFact.tally, h.tally]
  | resumed | waited | retired | orphaned => exact ⟨h.tally, h.taken⟩

theorem Run.booked {e e' : Option Engagement} {v v' : Station} (run : Run (e, v) (e', v')) (h : v.Booked) :
    v'.Booked := by
  generalize hs : (e', v') = final at run
  induction run generalizing e' v' with
  | refl =>
    cases hs
    exact h
  | @tail middle _ _ step ih =>
    subst hs
    exact step.booked (ih rfl)

/-- Whatever was offered to the queue was handled, waits, is inside the handler, or is counted as lost. -/
theorem Sound.balance {e : Option Engagement} {v : Station} (h : v.Sound e) (booked : v.Booked) :
    (QueueFact.offered v.facts).length = v.tally.delivered + v.tally.panicked + v.tally.dropped + v.tally.discarded +
      v.pending.length + (QueueFact.inHand v.facts).toList.length := by
  have retained := congrArg List.length h.order
  rw [List.length_append] at retained
  rw [QueueFact.offered_length h.fits, retained, QueueFact.given_length h.fits, booked.tally]
  omega

end Station

namespace Relay

variable {σ : Type}

theorem created_booked {source : σ} {r : Relay σ} (h : Created source r) (sub : SubId) : (r.station sub).Booked := by
  obtain ⟨settings, surroundings, handlers, h⟩ := h
  obtain ⟨bus, -, rfl⟩ := Option.map_eq_some_iff.mp h
  refine ⟨?_, fun hm => absurd hm List.not_mem_nil⟩
  cases hs : (Table.ofList (handlers.map fun h => Subscriber.create h.1 h.2)).get? sub with
  | none => simp [station, Station.ofSubscriber, hs, queueFacts, QueueFact.tally]
  | some s =>
    obtain ⟨x, -, rfl⟩ := List.mem_map.mp (List.mem_of_getElem? hs)
    rw [station_of hs]
    rfl

theorem offered_queueFacts (past : List Occurrence) (sub : SubId) :
    QueueFact.offered (past.filterMap (Occurrence.queueFact? sub)) =
      sentTo sub (past.reverse.filterMap Occurrence.handing?) := by
  induction past with
  | nil => rfl
  | cons o past ih =>
    rw [List.reverse_cons, List.filterMap_append, sentTo_append, ← ih]
    cases o with
    | queued party d | dropped party d =>
      by_cases he : party.id = sub <;>
        simp [Occurrence.queueFact?, Occurrence.handing?, QueueFact.offered, sentTo, he]
    | discarded party | entered party | completed party | handlerPanicked party =>
      by_cases he : party.id = sub <;>
        simp [Occurrence.queueFact?, Occurrence.handing?, QueueFact.offered, sentTo, he]
    | _ => exact (List.append_nil _).symm

variable [EventSource σ]

/-- What is seen of a queue has come about in steps of its station. -/
theorem seen_run {source : σ} {r : Relay σ} (h : Seen source r) (sub : SubId) :
    ∃ start e, Created source start ∧ Station.Run (none, start.station sub) (e, r.station sub) := by
  have reached : ∀ {r : Relay σ}, Reachable source r →
      ∃ start, Created source start ∧ Station.Run (none, start.station sub) (none, r.station sub) := by
    rintro r ⟨start, moves, created, rfl⟩
    have run : Station.Run (none, start.station sub) (none, (start.follow moves).station sub) :=
      follow_keeps (P := fun r => Station.Run (none, start.station sub) (none, r.station sub))
        (fun r m run => run.trans (move_run r m sub)) .refl moves
    exact ⟨start, created, run⟩
  cases h with
  | between hr =>
    obtain ⟨start, created, run⟩ := reached hr
    exact ⟨start, none, created, run⟩
  | @inside r id sub' s d rest hr worker found head made =>
    obtain ⟨start, created, run⟩ := reached hr
    have began := beginHandling_run worker found head sub
    have reacted := (react_deeds (r.beginHandling sub' d rest) sub' ((s.due d.event.name).take made)).tended sub
    exact ⟨start, _, created, (run.trans began).trans (reacted _)⟩

theorem seen_booked {source : σ} {r : Relay σ} (h : Seen source r) (sub : SubId) : (r.station sub).Booked := by
  obtain ⟨start, e, created, run⟩ := seen_run h sub
  exact Station.Run.booked run (created_booked created sub)

end Relay

end EventRelay
