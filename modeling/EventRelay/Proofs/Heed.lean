import EventRelay.Proofs.Deaf

namespace EventRelay

open Relay

namespace EventRing

/-- Nobody in line sleeps on while the ring is closed. -/
def Attentive (r : EventRing) : Prop := r.line.Rests fun _ => r.closed = false

variable {r : EventRing}

theorem woken_attentive {r' : EventRing} (h : r'.line = r.line.wake) : r'.Attentive := by
  unfold Attentive
  rw [h]
  exact WaitLine.wake_rests r.line

theorem Looked.attentive {t : Ticket} {c : Cursor} {outcome : FetchReply × EventRing} (h : r.Looked t c outcome)
    (attentive : r.Attentive) : outcome.2.Attentive := by
  cases h with
  | found | ended | kept => exact attentive
  | waits _ opened _ => exact WaitLine.Rests.join attentive t opened

theorem Attentive.fetch (h : r.Attentive) (c : Cursor) : (r.fetch c).2.Attentive :=
  (lookOrWait_looked r.issueTicket r.line.issued c).attentive h

theorem Attentive.cancel (h : r.Attentive) (t : Ticket) : (r.cancel t).Attentive := WaitLine.Rests.leave h t

theorem Attentive.resume (h : r.Attentive) (t : Ticket) (arrivalFirst : Bool) :
    (r.resume t arrivalFirst).2.Attentive := by
  have resumed := resume_resumed r t arrivalFirst
  generalize r.resume t arrivalFirst = outcome at resumed
  cases resumed with
  | absent | asleep => exact h
  | looked found _ _ => exact (lookOrWait_looked (r.cancel t) t _).attentive (h.cancel t)
  | interrupted => exact WaitLine.Rests.remove h t

end EventRing

namespace Relay

variable {r r' : Relay EventRing}

theorem Alignment.attentive (h : r.Alignment r') (attentive : r.source.Attentive) : r'.source.Attentive := by
  cases h with
  | resting | started | buried | replaced | stopping | revived | running => exact attentive
  | stopped => exact WaitLine.Rests.interrupt attentive

theorem Deed.attentive (h : Deed r r') (attentive : r.source.Attentive) : r'.source.Attentive := by
  have still : ∀ {r' : Relay EventRing}, r.Still r' → r'.source.Attentive := fun hs => hs.source ▸ attentive
  cases h with
  | told o _ => exact still (note_aside r o).toStill
  | aligned hc altered changed =>
    refine (followRegistry_alignment _).attentive ?_
    rw [changed.aside.toStill.source]
    exact attentive
  | discarded reason sub => exact still (discardPending_aside r reason sub).toStill
  | fired event _ => exact still (fireEvent_aside r event).toStill
  | permitted sub f => exact still (updateSubscriber_aside r sub _).toStill
  | slept | observed | pushed | cloned | dropped => exact attentive
  | posted accepted =>
    obtain ⟨source, hp, rfl⟩ := postToSource_ok accepted
    obtain ⟨-, rfl, -⟩ := EventRing.post_ok hp
    exact EventRing.woken_attentive rfl
  | interrupted => exact WaitLine.Rests.interrupt attentive
  | closed => exact EventRing.woken_attentive rfl
  | letGone last =>
    have stopped : { r with handles := r.handles - 1 }.abandonPoller.source.Attentive := by
      unfold abandonPoller
      split
      · exact attentive
      · exact WaitLine.Rests.interrupt attentive
    unfold letGo
    rw [(withRegistry_aside _ _).toStill.source]
    exact stopped

theorem Consulted.attentive {id : TaskId} {stage : PollerStage} {token : TokenId} {reply : FetchReply}
    (h : r.Consulted id stage token reply r') (attentive : r.source.Attentive) : r'.source.Attentive := by
  cases h with
  | declined => exact attentive
  | asked _ _ _ _ answer =>
    have looked := attentive.fetch r.cursor
    rw [show r.source.fetch r.cursor = _ from answer] at looked
    exact looked
  | withdrawn => exact attentive.cancel _
  | @resumed _ ticket _ _ _ _ answer =>
    have looked := attentive.resume ticket (r.surroundings.arrivalFirst r.choices)
    rw [show r.source.resume ticket _ = _ from answer] at looked
    exact looked

theorem PollerStep.attentive {id : TaskId} {failures : Nat} {stage : PollerStage} {turn : Turn × Relay EventRing}
    (step : r.PollerStep id failures stage turn) (attentive : r.source.Attentive) : turn.2.source.Attentive := by
  cases step with
  | orphaned | exited | rested | asleep | resting => exact attentive
  | queued consulted => exact consulted.attentive attentive
  | answered consulted =>
    rw [(takeResult_taken ..).leavesAlone.source]
    exact consulted.attentive attentive

theorem attentive_invariant : Invariant fun r : Relay EventRing => r.source.Attentive where
  act h attentive := by
    rcases h.still with hd | hs
    · exact hd.attentive attentive
    · exact hs.source ▸ attentive
  poller _ attentive := (pollerTurn_step _ _ _ _).attentive attentive
  firing hf attentive := (firingTurn_still hf).source ▸ attentive

theorem Reachable.attentive {config : RingSize} (h : Reachable (EventRing.create config) r) : r.source.Attentive := by
  refine attentive_invariant.reachable (fun r created => ?_) h
  obtain ⟨settings, surroundings, handlers, created⟩ := created
  obtain ⟨bus, -, rfl⟩ := Option.map_eq_some_iff.mp created
  intro w hw
  contradiction

theorem Reachable.orderly {config : RingSize} (h : Reachable (EventRing.create config) r) : r.Orderly :=
  seen_orderly (.between h)

/-- The result that a poller takes next, if there is one for it. One that is to end takes any. -/
def due? (r : Relay EventRing) : Option FetchResult :=
  if r.hasController && !r.registry.isEmpty then r.source.look? r.cursor else some (.failed .interrupted)

/-- The token that the controller's poller has now. -/
def slotToken (r : Relay EventRing) : TokenId := (r.slot.map PollerSlot.token).getD 0

/-- How often a poller may come back to where it looks before it takes a result or waits. -/
def patience (r : Relay EventRing) : PollerStage → Nat
  | .fetching .. => 2
  | _ => if r.source.line.permit then 1 else 0

theorem patience_ready_lt (r : Relay EventRing) : r.patience .ready < 2 := by
  simp only [patience]
  split <;> omega

theorem due?_of_live (hc : r.hasController = true) (hr : r.registry.isEmpty = false) :
    r.due? = r.source.look? r.cursor := by
  simp [due?, hc, hr]

/-- All that comes of a turn of a poller that is not pausing. -/
inductive Heeds (r : Relay EventRing) (id : TaskId) (failures n : Nat) : Turn × Relay EventRing → Prop
  | takes {result : FetchResult} {r' : Relay EventRing} (due : r.due? = some result) (hushed : Vantage.Hushed r r') :
      Heeds r id failures n (r'.takeResult id failures r.slotToken result)
  | returns {r' : Relay EventRing} (hushed : Vantage.Hushed r r') (poller : r'.PollerAt id failures .ready)
      (sooner : r'.patience .ready < n) : Heeds r id failures n (.going, r')
  | waits {token : TokenId} {ticket : Ticket} {r' : Relay EventRing} (none : r.due? = none)
      (hushed : Vantage.Hushed r r') (poller : r'.PollerAt id failures (.fetching token ticket))
      (flag : r'.isCancelled token = false) (asleep : EventSource.isAwake r'.source ticket = false) :
      Heeds r id failures n (.blocked, r')

theorem consulted_hushed {id : TaskId} {stage : PollerStage} {token : TokenId} {reply : FetchReply}
    (h : r.Consulted id stage token reply r') : Vantage.Hushed r r' := by
  have line := h.lineOnly
  cases h with
  | declined => exact .refl r
  | asked => exact (Vantage.Hushed.note r rfl).trans (.source _ line)
  | withdrawn => exact .source r line
  | resumed => exact (Vantage.Hushed.choices r _).trans (.source { r with choices := r.choices + 1 } line)

/-- To one who is deaf, a poller that does not pause looks for an event. -/
theorem deaf_ready (failures : Nat) {stage : PollerStage}
    (attends : ∀ token deadline, stage ≠ .pausing token deadline) :
    Vantage.deaf.work (.poller failures stage) = .poller failures .ready := by
  cases stage with
  | ready | fetching => rfl
  | pausing token deadline => exact absurd rfl (attends token deadline)

theorem Consulted.attends {id : TaskId} {stage : PollerStage} {token : TokenId} {reply : FetchReply}
    (h : r.Consulted id stage token reply r') (token' : TokenId) (deadline : Nat) :
    stage ≠ .pausing token' deadline := by
  cases h <;> nofun

/-- An interrupt only leads back to where the poller looks, unless it is to end. -/
theorem interrupted_heeds {id : TaskId} {failures n : Nat} {stage : PollerStage} (hp : r.PollerAt id failures stage)
    {token : TokenId} (consulted : r.Consulted id stage token (.ready (.failed .interrupted)) r')
    (sooner : r'.patience .ready < n) :
    r.Heeds id failures n (r'.takeResult id failures token (.failed .interrupted)) := by
  have same := consulted.sameControl
  have hushed := consulted_hushed consulted
  cases live : r.hasController && !r.registry.isEmpty with
  | false =>
    have any : r'.takeResult id failures token (.failed .interrupted) =
        r'.takeResult id failures r.slotToken (.failed .interrupted) := by
      unfold takeResult
      rw [same.hasController, same.registry]
      cases hc : r.hasController with
      | false => rfl
      | true =>
        have empty : r.registry.isEmpty = true := by simpa [hc] using live
        simp [empty]
    rw [any]
    exact .takes (by simp [due?, live]) hushed
  | true =>
    obtain ⟨hc, hr⟩ : r.hasController = true ∧ r.registry.isEmpty = false := by simpa using live
    have poller := same.pollerAt.mpr hp
    have told : Vantage.Hushed r'
        ((r'.note (.resultTaken id (.failed .interrupted))).note (.nothingFetched .interrupted)) :=
      (Vantage.Hushed.note r' rfl).trans (.note _ rfl)
    have ready : Vantage.deaf.work (.poller failures stage) = Vantage.deaf.work (.poller failures .ready) :=
      deaf_ready failures consulted.attends
    have back := Vantage.Hushed.setWork
      (r := (r'.note (.resultTaken id (.failed .interrupted))).note (.nothingFetched .interrupted)) poller ready
    have he : r'.takeResult id failures token (.failed .interrupted) =
        (.going, ((r'.note (.resultTaken id (.failed .interrupted))).note (.nothingFetched .interrupted)).setWork id
          (.poller failures .ready)) := by
      simp only [takeResult, same.hasController, hc, same.registry, hr, Bool.not_true, Bool.false_eq_true, if_false]
      rfl
    rw [he]
    exact .returns ((hushed.trans told).trans back) (setWork_pollerAt poller failures .ready) sooner

/-- A poller that goes on over a ring: its token is the one in the slot. -/
structure Attends (r : Relay EventRing) (id : TaskId) (token : TokenId) : Prop where
  controller : r.hasController = true
  filled : r.registry.isEmpty = false
  slot : r.slot = some ⟨id, token⟩

/-- A poller that is not told to stop has the token in the slot, and goes on. -/
theorem Orderly.attends (h : r.Orderly) {id : TaskId} {failures : Nat} {stage : PollerStage} {token : TokenId}
    (hp : r.PollerAt id failures stage) (holds : stage.token? = some token) (flag : r.isCancelled token = false) :
    r.Attends id token := by
  rcases h.held hp holds with hm | hs
  · rw [isCancelled_iff.mpr hm] at flag
    contradiction
  · exact ⟨h.controller hs, (h.flag hs).symm.trans flag, hs⟩

theorem Attends.flag {id : TaskId} {token : TokenId} (h : r.Attends id token) (orderly : r.Orderly) :
    r.isCancelled token = false :=
  (orderly.flag h.slot).trans h.filled

/-- What a poller over a ring is told: that it was interrupted, or what one look at the ring shows, from the cursor of
the controller and with nobody in line. -/
inductive Told (r : Relay EventRing) (id : TaskId) (stage : PollerStage) (token : TokenId) (r' : Relay EventRing) :
    FetchReply → Prop
  | interrupted (sooner : r'.patience .ready < r.patience stage) :
      Told r id stage token r' (.ready (.failed .interrupted))
  | looked {reply : FetchReply} {ring : EventRing} {ticket : Ticket} (attends : r.Attends id token)
      (line : r.source.LineOnly ring) (nobody : ring.line.waiters = [])
      (spare : ring.line.permit = true → 0 < r.patience stage)
      (look : ring.Looked ticket r.cursor (reply, r'.source)) : Told r id stage token r' reply

theorem Orderly.told (h : r.Orderly) {id : TaskId} {failures : Nat} {stage : PollerStage} {token : TokenId}
    {reply : FetchReply} (hp : r.PollerAt id failures stage) (consulted : r.Consulted id stage token reply r') :
    r.Told id stage token r' reply := by
  cases consulted with
  | declined hc hr hs flag =>
    rw [h.flag hs, hr] at flag
    contradiction
  | asked hc hr hs flag answer =>
    have look := EventRing.lookOrWait_looked r.source.issueTicket r.source.line.issued r.cursor
    change r.source.issueTicket.lookOrWait _ _ = _ at answer
    rw [answer] at look
    obtain ⟨token, slot⟩ := h.current hc hp
    cases hs.symm.trans slot
    have nobody := h.nobody_of_ready (fun _ _ _ hq => h.unique hq hp) hp nofun
    have line : r.source.LineOnly r.source.issueTicket := ⟨_, rfl⟩
    refine .looked ⟨hc, hr, hs⟩ line nobody (fun permit => ?_) look
    have kept : r.source.line.permit = true := permit
    simp [patience, kept]
  | withdrawn flag => exact .interrupted (patience_ready_lt _)
  | resumed flag awake answer =>
    obtain ⟨w, waiters, rfl, stands⟩ := h.fetching hp
    have attending := h.attends hp rfl flag
    rcases EventRing.resume_one waiters (r.surroundings.arrivalFirst r.choices) awake with he | he
    · have look := EventRing.lookOrWait_looked { r.source with line := r.source.line.leave w.ticket } w.ticket w.cursor
      rw [he.symm.trans answer, (stands attending.controller).1] at look
      have line : r.source.LineOnly { r.source with line := r.source.line.leave w.ticket } := ⟨_, rfl⟩
      exact .looked attending line (WaitLine.leave_one waiters) (fun _ => Nat.zero_lt_two) look
    · cases he.symm.trans answer
      exact .interrupted (patience_ready_lt _)

/-- A poller that looks at the ring takes what it finds, or uses up an interrupt that was kept. -/
theorem found_heeds {id : TaskId} {failures n : Nat} {stage : PollerStage} {token : TokenId} (h : r.Attends id token)
    (hp : r.PollerAt id failures stage) {ring : EventRing} {ticket : Ticket} {result : FetchResult}
    (consulted : r.Consulted id stage token (.ready result) r') (line : r.source.LineOnly ring)
    (look : ring.Looked ticket r.cursor (.ready result, r'.source)) (spare : ring.line.permit = true → 0 < n) :
    r.Heeds id failures n (r'.takeResult id failures token result) := by
  have found := line.look? r.cursor
  have token_eq : token = r.slotToken := by simp [slotToken, h.slot]
  generalize hs : r'.source = source at look
  cases look with
  | found found' =>
    rw [token_eq]
    refine .takes ?_ (consulted_hushed consulted)
    rw [due?_of_live h.controller h.filled, ← found]
    simp [EventRing.look?, found']
  | ended none closed =>
    rw [token_eq]
    refine .takes ?_ (consulted_hushed consulted)
    rw [due?_of_live h.controller h.filled, ← found]
    simp [EventRing.look?, none, closed]
  | kept _ _ permit =>
    refine interrupted_heeds hp consulted ?_
    have used : r'.patience .ready = 0 := by simp [patience, hs]
    rw [used]
    exact spare permit

theorem unfound_heeds {id : TaskId} {failures n : Nat} {stage : PollerStage} {token : TokenId} (h : r.Attends id token)
    (flag : r.isCancelled token = false) (hp : r.PollerAt id failures stage) {ring : EventRing}
    {ticket ticket' : Ticket} (consulted : r.Consulted id stage token (.pending ticket') r')
    (line : r.source.LineOnly ring) (look : ring.Looked ticket r.cursor (.pending ticket', r'.source))
    (nobody : ring.line.waiters = []) :
    r.Heeds id failures n (.blocked, r'.setWork id (.poller failures (.fetching token ticket'))) := by
  have found := line.look? r.cursor
  have same := consulted.sameControl
  have poller := same.pollerAt.mpr hp
  have asleep : Vantage.deaf.work (.poller failures stage) =
      Vantage.deaf.work (.poller failures (.fetching token ticket')) :=
    deaf_ready failures consulted.attends
  have waits := Vantage.Hushed.setWork poller asleep
  generalize hs : r'.source = source at look
  cases look with
  | waits none opened _ =>
    refine .waits ?_ ((consulted_hushed consulted).trans waits) (setWork_pollerAt poller failures _) ?_ ?_
    · rw [due?_of_live h.controller h.filled, ← found]
      simp [EventRing.look?, none, opened]
    · change r'.cancelled.contains token = false
      rw [same.cancelled]
      exact flag
    · have waiters : r'.source.line.waiters = [⟨ticket, r.cursor, false, false⟩] := by
        rw [hs]
        change _ ++ _ = _
        rw [nobody, List.nil_append]
      exact WaitLine.isAwake_one waiters

/-- A poller that sleeps in its fetch has nothing to take. -/
theorem Attends.asleep {id : TaskId} {failures : Nat} {token : TokenId} {ticket : Ticket} (h : r.Attends id token)
    (orderly : r.Orderly) (attentive : r.source.Attentive) (hp : r.PollerAt id failures (.fetching token ticket))
    (asleep : EventSource.isAwake r.source ticket = false) : r.due? = none := by
  obtain ⟨w, waiters, rfl, stands⟩ := orderly.fetching hp
  have unwoken : w.woken = false := by
    have quiet : (w.woken || w.interrupted) = false := (WaitLine.isAwake_one waiters).symm.trans asleep
    exact (Bool.or_eq_false_iff.mp quiet).1
  have opened : r.source.closed = false := attentive w (by simp [waiters]) unwoken
  have none := (stands h.controller).2 unwoken
  rw [due?_of_live h.controller h.filled]
  simp [EventRing.look?, none, opened]

/-- A turn of a poller that does not pause takes what is due; it only looks or waits if nothing is. -/
theorem Orderly.heeds (h : r.Orderly) (attentive : r.source.Attentive) {id : TaskId} {failures : Nat}
    {stage : PollerStage} (hp : r.PollerAt id failures stage)
    (attends : ∀ token deadline, stage ≠ .pausing token deadline) :
    r.Heeds id failures (r.patience stage) (r.pollerTurn id failures stage) := by
  have step := pollerTurn_step r id failures stage
  generalize r.pollerTurn id failures stage = turn at step
  cases step with
  | orphaned alone =>
    have gone : r.hasController = false := by
      cases hc : r.hasController with
      | false => rfl
      | true =>
        obtain ⟨token, slot⟩ := h.current hc hp
        rw [alone hc] at slot
        contradiction
    have he : r.finish id .finished = r.takeResult id failures r.slotToken (.failed .interrupted) := by
      simp [takeResult, gone]
    rw [he]
    exact .takes (by simp [due?, gone]) (.refl r)
  | exited hc empty =>
    have he : r.exitPoller id = r.takeResult id failures r.slotToken (.failed .interrupted) := by
      simp [takeResult, hc, empty]
    rw [he]
    exact .takes (by simp [due?, empty]) (.refl r)
  | rested | resting => exact absurd rfl (attends _ _)
  | asleep flag still =>
    exact .waits ((h.attends hp rfl flag).asleep h attentive hp still) (.refl r) hp flag still
  | answered consulted =>
    cases h.told hp consulted with
    | interrupted sooner => exact interrupted_heeds hp consulted sooner
    | looked attends line _ spare look => exact found_heeds attends hp consulted line look spare
  | queued consulted =>
    cases h.told hp consulted with
    | looked attends line nobody _ look =>
      exact unfound_heeds attends (attends.flag h) hp consulted line look nobody

end Relay

end EventRelay
