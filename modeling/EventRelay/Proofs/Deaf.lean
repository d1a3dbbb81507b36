import EventRelay.Proofs.Unwinding
import EventRelay.Proofs.Waiting
import EventRelay.Proofs.Line

namespace EventRelay

open Relay

namespace EventRing

/-- The ring without its line. -/
def cleared (r : EventRing) : EventRing := { r with line := .empty }

theorem cleared_eq_iff {r r' : EventRing} : r.cleared = r'.cleared ↔ r.LineOnly r' := by
  obtain ⟨capacity, slots, next, maxNameLength, closed, line⟩ := r
  obtain ⟨capacity', slots', next', maxNameLength', closed', line'⟩ := r'
  constructor
  · intro h
    cases h
    exact ⟨line', rfl⟩
  · rintro ⟨line, h⟩
    cases h
    rfl

theorem LineOnly.look? {r r' : EventRing} (h : r.LineOnly r') (c : Cursor) : r'.look? c = r.look? c := by
  obtain ⟨line, rfl⟩ := h
  rfl

/-- What is posted does not depend on the line. -/
theorem post_line (r : EventRing) (line : WaitLine) (now : Instant) (e : Event) :
    { r with line }.post now e = (r.post now e).map fun p => (p.1, { p.2 with line := line.wake }) := by
  have checked : { r with line }.checkName e.name = r.checkName e.name := rfl
  unfold post
  rw [checked]
  cases r.checkName e.name with
  | error => rfl
  | ok =>
    dsimp only
    split <;> rfl

end EventRing

namespace Vantage

/-- Everything is seen but the line at the ring, and the fetches. -/
def deaf : Vantage EventRing where
  hidden := none
  watchesFetches := false
  mask := EventRing.cleared
  name _ := rfl
  interrupt same := same
  close {s s'} same := by
    obtain ⟨line, rfl⟩ := EventRing.cleared_eq_iff.mp same
    rfl
  push _ same := same
  refused {s s' now e cause} same refused := by
    obtain ⟨line, rfl⟩ := EventRing.cleared_eq_iff.mp same
    change s.post now e = _ at refused
    exact (s.post_line line now e).trans (by rw [refused]; rfl)
  posted {s s' now e index t} same posted := by
    obtain ⟨line, rfl⟩ := EventRing.cleared_eq_iff.mp same
    change s.post now e = _ at posted
    exact ⟨{ t with line := line.wake }, (s.post_line line now e).trans (by rw [posted]; rfl), rfl⟩

theorem deaf_shows (w : Work) : deaf.shows w = true := by
  cases w <;> rfl

/-- To one who is deaf nothing has happened. -/
structure Hushed (r r' : Relay EventRing) : Prop where
  alike : ∀ {pairs r₀}, deaf.Alike pairs r₀ r → deaf.Alike pairs r₀ r'

namespace Hushed

variable {r r' r'' : Relay EventRing}

theorem refl (r : Relay EventRing) : Hushed r r := ⟨id⟩

theorem trans (h : Hushed r r') (h' : Hushed r' r'') : Hushed r r'' := ⟨h'.alike ∘ h.alike⟩

theorem note (r : Relay EventRing) {o : Occurrence} (unseen : deaf.sight? o = none) : Hushed r (r.note o) :=
  ⟨fun h => h.note_right unseen⟩

theorem source (r : Relay EventRing) {ring : EventRing} (line : r.source.LineOnly ring) :
    Hushed r { r with source := ring } := by
  refine ⟨fun {pairs r₀} h => h.reframe ?_ rfl rfl⟩
  change deaf.frame r₀ = { deaf.frame r with source := ring.cleared }
  rw [h.frame, ← EventRing.cleared_eq_iff.mpr line]
  rfl

theorem choices (r : Relay EventRing) (choices : Nat) : Hushed r { r with choices } :=
  ⟨fun h => h.reframe h.frame rfl rfl⟩

/-- A poller goes on to what looks the same. -/
theorem setWork {id : TaskId} {failures : Nat} {stage : PollerStage} (hp : r.PollerAt id failures stage)
    {stage' : PollerStage} (same : deaf.work (.poller failures stage) = deaf.work (.poller failures stage')) :
    Hushed r (r.setWork id (.poller failures stage')) := by
  obtain ⟨name, ht⟩ := hp
  have marks : deaf.marks (r.setWork id (.poller failures stage')).tasks = deaf.marks r.tasks := marks_update ht rfl
  have rows : deaf.rows (r.setWork id (.poller failures stage')).tasks = deaf.rows r.tasks := by
    refine (rows_update ht (deaf_shows _) (deaf_shows _)).trans ?_
    have row := rows_get? ht (deaf_shows _)
    obtain ⟨inside, there⟩ := List.getElem?_eq_some_iff.mp row
    rw [← same, ← there]
    exact List.set_getElem_self inside
  refine ⟨fun {pairs r₀} h => ⟨h.frame, ?_, h.subscribers, h.rows.trans rows.symm, ?_, h.sights⟩⟩
  · simp only [Twins, marks]
    exact h.slot
  · simp only [Twins, marks]
    exact h.pairs

end Hushed

end Vantage

end EventRelay
