import EventRelay.Proofs.Ring
import EventRelay.Session.Ring

namespace EventRelay

namespace WaitLine

/-- The cursor of the fetch that waits under a ticket. -/
def cursorOf? (l : WaitLine) (t : Ticket) : Option Cursor := (l.find? t).map Waiter.cursor

/-- An interrupt goes to the first waiter that has none, and all before it have one. -/
theorem hand?_eq_some {xs ys : List Waiter} (h : hand? xs = some ys) :
    ∃ before w after, xs = before ++ w :: after ∧ (∀ v ∈ before, v.interrupted = true) ∧ w.interrupted = false ∧
      ys = before ++ { w with interrupted := true } :: after := by
  induction xs generalizing ys with
  | nil => contradiction
  | cons w rest ih =>
    simp only [hand?] at h
    split at h
    · rename_i marked
      obtain ⟨zs, hz, rfl⟩ := Option.map_eq_some_iff.mp h
      obtain ⟨before, v, after, rfl, earlier, unmarked, rfl⟩ := ih hz
      refine ⟨w :: before, v, after, rfl, ?_, unmarked, rfl⟩
      simpa [marked] using earlier
    · rename_i unmarked
      cases h
      exact ⟨[], w, rest, rfl, by simp, by simpa using unmarked, rfl⟩

theorem hand?_eq_none {xs : List Waiter} : hand? xs = none ↔ ∀ w ∈ xs, w.interrupted = true := by
  induction xs with
  | nil => simp [hand?]
  | cons w rest ih =>
    simp only [hand?]
    split
    · rename_i marked
      simp [ih, marked]
    · rename_i unmarked
      simp [unmarked]

@[simp] theorem wake_cursorOf? (l : WaitLine) (t : Ticket) : l.wake.cursorOf? t = l.cursorOf? t := by
  simp only [cursorOf?, find?, wake, List.find?_map, Option.map_map]
  rfl

@[simp] theorem interrupt_cursorOf? (l : WaitLine) (t : Ticket) : l.interrupt.cursorOf? t = l.cursorOf? t := by
  unfold interrupt
  split
  · rename_i ys hy
    obtain ⟨before, w, after, hx, -, -, rfl⟩ := hand?_eq_some hy
    simp only [cursorOf?, find?, hx, List.find?_append, List.find?_cons]
    cases before.find? (fun w => w.ticket == t) <;> cases w.ticket == t <;> rfl
  · rfl

@[simp] theorem remove_cursorOf? (l : WaitLine) (t' t : Ticket) :
    (l.remove t').cursorOf? t = if t' = t then none else l.cursorOf? t := by
  simp only [cursorOf?, find?, remove, List.find?_filter]
  by_cases he : t' = t
  · subst he
    simp
  · have same : ∀ w : Waiter, ((w.ticket != t') = true ∧ (w.ticket == t) = true) ↔ (w.ticket == t) = true := by
      intro w
      by_cases ht : w.ticket = t <;> simp [ht, Ne.symm he]
    simp only [if_neg he, same, Bool.decide_eq_true]

@[simp] theorem leave_cursorOf? (l : WaitLine) (t' t : Ticket) :
    (l.leave t').cursorOf? t = if t' = t then none else l.cursorOf? t := by
  unfold leave
  split <;> simp

@[simp] theorem join_cursorOf? (l : WaitLine) (t' : Ticket) (c : Cursor) (t : Ticket) :
    (l.join t' c).cursorOf? t = (l.cursorOf? t).or (if t' = t then some c else none) := by
  simp only [cursorOf?, find?, join, List.find?_append]
  by_cases he : t' = t
  · subst he
    cases l.waiters.find? fun w => w.ticket == t' <;> simp
  · cases l.waiters.find? fun w => w.ticket == t <;> simp [he]

@[simp] theorem interrupt_issued (l : WaitLine) : l.interrupt.issued = l.issued := by
  unfold interrupt
  split <;> rfl

@[simp] theorem leave_issued (l : WaitLine) (t : Ticket) : (l.leave t).issued = l.issued := by
  unfold leave
  split
  · exact interrupt_issued _
  · rfl

theorem cursorOf?_eq_some {l : WaitLine} {t : Ticket} {c : Cursor} (h : l.cursorOf? t = some c) :
    ∃ w, l.find? t = some w ∧ w.cursor = c ∧ w ∈ l.waiters := by
  obtain ⟨w, hw, he⟩ := Option.map_eq_some_iff.mp h
  exact ⟨w, hw, he, List.mem_of_find?_eq_some hw⟩

/-- An interrupt is kept only while everybody in line has one already. -/
def Fair (l : WaitLine) : Prop := l.permit = true → ∀ w ∈ l.waiters, w.interrupted = true

theorem Fair.wake {l : WaitLine} (h : l.Fair) : l.wake.Fair := by
  intro permit w' hw'
  obtain ⟨w, hw, rfl⟩ := List.mem_map.mp hw'
  exact h permit w hw

theorem Fair.interrupt {l : WaitLine} (h : l.Fair) : l.interrupt.Fair := by
  unfold WaitLine.interrupt
  split
  · rename_i ys hy
    intro permit
    -- with a kept interrupt nobody in line lacks one, so none could have been handed over
    have all := h permit
    rw [← hand?_eq_none] at all
    rw [all] at hy
    contradiction
  · rename_i all
    intro _
    exact hand?_eq_none.mp all

theorem Fair.remove {l : WaitLine} (h : l.Fair) (t : Ticket) : (l.remove t).Fair := by
  intro permit w hw
  exact h permit w (List.mem_filter.mp hw).1

theorem Fair.leave {l : WaitLine} (h : l.Fair) (t : Ticket) : (l.leave t).Fair := by
  unfold WaitLine.leave
  split
  · exact (h.remove t).interrupt
  · exact h.remove t

theorem Fair.join {l : WaitLine} (spent : l.permit = false) (t : Ticket) (c : Cursor) : (l.join t c).Fair := by
  intro permit
  rw [show (l.join t c).permit = l.permit from rfl, spent] at permit
  contradiction

/-- A waiter that was not woken has nothing to see. -/
def Rests (l : WaitLine) (nothing : Cursor → Prop) : Prop := ∀ w ∈ l.waiters, w.woken = false → nothing w.cursor

variable {nothing : Cursor → Prop}

theorem wake_rests (l : WaitLine) : l.wake.Rests nothing := by
  intro w' hw' asleep
  obtain ⟨w, -, rfl⟩ := List.mem_map.mp hw'
  contradiction

theorem Rests.interrupt {l : WaitLine} (h : l.Rests nothing) : l.interrupt.Rests nothing := by
  unfold WaitLine.interrupt
  split
  · rename_i ys hy
    obtain ⟨before, w, after, hx, -, -, rfl⟩ := hand?_eq_some hy
    intro v hv asleep
    simp only [List.mem_append, List.mem_cons] at hv
    rcases hv with hv | rfl | hv
    · exact h v (by simp [hx, hv]) asleep
    · exact h w (by simp [hx]) asleep
    · exact h v (by simp [hx, hv]) asleep
  · exact h

theorem Rests.remove {l : WaitLine} (h : l.Rests nothing) (t : Ticket) : (l.remove t).Rests nothing := by
  intro w hw asleep
  exact h w (List.mem_filter.mp hw).1 asleep

theorem Rests.leave {l : WaitLine} (h : l.Rests nothing) (t : Ticket) : (l.leave t).Rests nothing := by
  unfold WaitLine.leave
  split
  · exact (h.remove t).interrupt
  · exact h.remove t

theorem Rests.join {l : WaitLine} (h : l.Rests nothing) (t : Ticket) {c : Cursor} (none : nothing c) :
    (l.join t c).Rests nothing := by
  intro w hw asleep
  rcases List.mem_append.mp hw with hw | hw
  · exact h w hw asleep
  · cases List.mem_singleton.mp hw
    exact none

end WaitLine

namespace EventRing

/-- There is nothing for a fetch at a cursor: no event past it, and the ring is not closed. -/
def Quiet (r : EventRing) (c : Cursor) : Prop := (∀ s, ¬ r.Holds c s) ∧ r.closed = false

/-- All that can become of a fetch in line when it is looked after. -/
inductive Resumed (r : EventRing) (t : Ticket) (arrivalFirst : Bool) : FetchReply × EventRing → Prop
  | absent (absent : r.line.find? t = none) : Resumed r t arrivalFirst (.pending t, r)
  | looked {w : Waiter} (found : r.line.find? t = some w) (woken : w.woken = true)
      (turn : arrivalFirst = true ∨ w.interrupted = false) :
      Resumed r t arrivalFirst ((r.cancel t).lookOrWait t w.cursor)
  | interrupted {w : Waiter} (found : r.line.find? t = some w) (marked : w.interrupted = true)
      (turn : arrivalFirst = false ∨ w.woken = false) :
      Resumed r t arrivalFirst (.ready (.failed .interrupted), { r with line := r.line.remove t })
  | asleep {w : Waiter} (found : r.line.find? t = some w) (asleep : w.woken = false)
      (unmarked : w.interrupted = false) : Resumed r t arrivalFirst (.pending t, r)

theorem resume_resumed (r : EventRing) (t : Ticket) (arrivalFirst : Bool) :
    r.Resumed t arrivalFirst (r.resume t arrivalFirst) := by
  unfold resume
  split
  · rename_i absent
    exact .absent absent
  · rename_i w found
    split
    · rename_i turn
      simp only [Bool.and_eq_true, Bool.or_eq_true, Bool.not_eq_true'] at turn
      exact .looked found turn.1 turn.2
    · rename_i turn
      split
      · rename_i marked
        refine .interrupted found marked ?_
        cases hw : w.woken <;> simp_all
      · rename_i unmarked
        refine .asleep found ?_ (by simpa using unmarked)
        cases hw : w.woken <;> simp_all

end EventRing

end EventRelay
