import EventRelay.Proofs.Window

namespace EventRelay

namespace WaitLine

/-- A kept interrupt stays until a fetch takes it. -/
theorem interrupt_permit {l : WaitLine} (h : l.permit = true) : l.interrupt.permit = true := by
  unfold interrupt
  split
  · exact h
  · rfl

theorem leave_permit {l : WaitLine} (h : l.permit = true) (t : Ticket) : (l.leave t).permit = true := by
  unfold leave
  split
  · exact interrupt_permit h
  · exact h

theorem leave_unmarked {l : WaitLine} {t : Ticket} {w : Waiter} (found : l.find? t = some w)
    (unmarked : w.interrupted = false) : l.leave t = l.remove t := by
  simp [leave, found, unmarked]

end WaitLine

namespace EventRing

/-- What a fetch in line is answered if it looks again, whether or not it was woken. -/
def lookAgain (r : EventRing) (t : Ticket) : FetchReply × EventRing :=
  match r.line.find? t with
  | none => (.pending t, r)
  | some w => (r.cancel t).lookOrWait t w.cursor

/-- There is nothing to wake for: no event past the cursor, no close, and no interrupt kept. -/
def Still (r : EventRing) (c : Cursor) : Prop := r.Quiet c ∧ r.line.permit = false

theorem Looked.pending {r : EventRing} {t t' : Ticket} {c : Cursor} {outcome : FetchReply × EventRing}
    (h : r.Looked t c outcome) (pending : outcome.1 = .pending t') :
    t' = t ∧ r.Still c ∧ outcome.2.Still c := by
  cases h with
  | found | ended | kept => contradiction
  | waits nothing opened spent =>
    cases pending
    have quiet : r.Quiet c := ⟨find?_eq_none.mp nothing, opened⟩
    exact ⟨rfl, ⟨quiet, spent⟩, ⟨quiet, spent⟩⟩

theorem Still.pending {r : EventRing} {c : Cursor} (h : r.Still c) (t : Ticket) :
    (r.lookOrWait t c).1 = .pending t := by
  have nothing : r.find? c = none := find?_eq_none.mpr h.1.1
  simp [lookOrWait, look?, nothing, h.1.2, h.2]

/-- Giving up a place in line brings no events, and takes no interrupt away. -/
theorem cancel_still {r : EventRing} {t : Ticket} {c : Cursor} (h : (r.cancel t).Still c) : r.Still c := by
  refine ⟨h.1, ?_⟩
  cases hp : r.line.permit with
  | false => rfl
  | true =>
    have kept : (r.cancel t).line.permit = true := WaitLine.leave_permit hp t
    rw [h.2] at kept
    contradiction

end EventRing

namespace RingSession

variable {begun : String → Option Cursor} {s : RingSession}

/-- A step asks for the first event past a cursor, as a fetch that begins or as one that waits. -/
inductive Asks (begun : String → Option Cursor) : RingStep → Cursor → Prop
  | begins (key : String) (c : Cursor) : Asks begun (.fetch key c) c
  | waits {key : String} {c : Cursor} (known : begun key = some c) (arrivalFirst : Bool) :
      Asks begun (.poll key arrivalFirst) c

/-- Nobody waits in vain. A fetch goes on waiting only where nothing is there for it, as it would if it looked every
time, and until it is woken nothing comes. -/
structure Alert (begun : String → Option Cursor) (s : RingSession) : Prop where
  pending : ∀ x c, Asks begun x c → (s.step x).1 = .pending → s.ring.Still c ∧ (s.step x).2.ring.Still c
  asleep : ∀ key t, s.ticket? key = some t → ∃ w, s.ring.line.find? t = some w ∧ begun key = some w.cursor ∧
    (w.woken = false → s.ring.Quiet w.cursor)
  eager : ∀ key t arrivalFirst, s.ticket? key = some t → (s.step (.poll key arrivalFirst)).1 = .pending →
    (s.ring.lookAgain t).1 = .pending t

theorem keep_pending {key : String} {outcome : FetchReply × EventRing} (h : (s.keep key outcome).1 = .pending) :
    ∃ t, outcome.1 = .pending t := by
  obtain ⟨reply, ring⟩ := outcome
  cases reply with
  | ready result => contradiction
  | pending t => exact ⟨t, rfl⟩

theorem cancel_still {key : String} {c : Cursor} (h : (s.cancel key).ring.Still c) : s.ring.Still c := by
  unfold RingSession.cancel at h
  split at h
  · exact h
  · exact EventRing.cancel_still h

theorem fetch_pending {key : String} {c : Cursor} (h : (s.step (.fetch key c)).1 = .pending) :
    s.ring.Still c ∧ (s.step (.fetch key c)).2.ring.Still c := by
  rw [step_fetch] at h ⊢
  rw [keep_ring]
  obtain ⟨t, pending⟩ := keep_pending h
  obtain ⟨-, before, after⟩ := (EventRing.lookOrWait_looked _ _ c).pending pending
  have cancelled : (s.cancel key).ring.Still c := before
  exact ⟨cancel_still cancelled, after⟩

/-- A waiter that was neither woken nor interrupted has nothing to wake for. -/
theorem Watched.still (h : s.Watched begun) {w : Waiter} (member : w ∈ s.ring.line.waiters) (asleep : w.woken = false)
    (unmarked : w.interrupted = false) : s.ring.Still w.cursor := by
  refine ⟨h.rests w member asleep, ?_⟩
  cases hp : s.ring.line.permit with
  | false => rfl
  | true =>
    have marked := h.fair hp w member
    rw [unmarked] at marked
    contradiction

theorem Watched.poll_pending (h : s.Watched begun) {key : String} {t : Ticket} (ht : s.ticket? key = some t)
    {arrivalFirst : Bool} (pending : (s.step (.poll key arrivalFirst)).1 = .pending) :
    ∃ c, begun key = some c ∧ s.ring.Still c ∧ (s.step (.poll key arrivalFirst)).2.ring.Still c ∧
      (s.ring.lookAgain t).1 = .pending t := by
  obtain ⟨w, found, hb, member⟩ := h.waiter ht
  have again : s.ring.lookAgain t = (s.ring.cancel t).lookOrWait t w.cursor := by
    simp only [EventRing.lookAgain, found]
  rw [step_poll ht] at pending ⊢
  rw [keep_ring, again]
  obtain ⟨t', waits⟩ := keep_pending pending
  refine ⟨w.cursor, hb, ?_⟩
  have resumed := EventRing.resume_resumed s.ring t arrivalFirst
  generalize s.ring.resume t arrivalFirst = outcome at resumed waits
  cases resumed with
  | absent absent =>
    rw [absent] at found
    contradiction
  | looked found' _ _ =>
    cases found.symm.trans found'
    obtain ⟨rfl, before, after⟩ := (EventRing.lookOrWait_looked _ t w.cursor).pending waits
    exact ⟨EventRing.cancel_still before, after, waits⟩
  | interrupted => contradiction
  | asleep found' asleep unmarked =>
    cases found.symm.trans found'
    have still := h.still member asleep unmarked
    have left : (s.ring.cancel t).Still w.cursor := by
      refine ⟨still.1, ?_⟩
      simp only [EventRing.cancel, WaitLine.leave_unmarked found unmarked]
      exact still.2
    exact ⟨still, still, left.pending t⟩

theorem Watched.alert (h : s.Watched begun) : s.Alert begun where
  pending x c asks pending := by
    cases asks with
    | begins key => exact fetch_pending pending
    | @waits key _ hb arrivalFirst =>
      cases ht : s.ticket? key with
      | none =>
        simp only [RingSession.step, ht] at pending
        contradiction
      | some t =>
        obtain ⟨c', hb', before, after, -⟩ := h.poll_pending ht pending
        cases hb.symm.trans hb'
        exact ⟨before, after⟩
  asleep key t ht := by
    obtain ⟨w, found, hb, member⟩ := h.waiter ht
    exact ⟨w, found, hb, h.rests w member⟩
  eager key t arrivalFirst ht pending := by
    obtain ⟨_, -, -, -, again⟩ := h.poll_pending ht pending
    exact again

/-- After any steps, however many fetches wait at whatever cursors. -/
theorem no_wakeup_is_lost (config : RingSize) (steps : List RingStep) :
    ((start config).after steps).Alert (begunAt? steps) :=
  (after_watched config steps).alert

end RingSession

end EventRelay
