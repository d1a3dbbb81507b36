import EventRelay.Proofs.Line
import Mathlib.Data.List.Induction

namespace EventRelay

/-- The cursor at which a step begins a fetch under a key. -/
def RingStep.begins? (key : String) : RingStep → Option Cursor
  | .fetch key' c => if key' = key then some c else none
  | _ => none

namespace RingSession

/-- A session with a new ring, of whatever size. -/
def start (config : RingSize) : RingSession := ⟨.create config, []⟩

def after (s : RingSession) (steps : List RingStep) : RingSession := steps.foldl (fun s x => (s.step x).2) s

/-- The cursor at which the latest fetch of a key was begun. -/
def begunAt? (steps : List RingStep) (key : String) : Option Cursor := steps.reverse.findSome? (RingStep.begins? key)

theorem after_concat (s : RingSession) (steps : List RingStep) (x : RingStep) :
    s.after (steps ++ [x]) = ((s.after steps).step x).2 := by
  simp [after]

theorem begunAt?_concat (steps : List RingStep) (x : RingStep) :
    begunAt? (steps ++ [x]) = fun key => (x.begins? key).or (begunAt? steps key) := by
  funext key
  cases h : x.begins? key <;> simp [begunAt?, h]

theorem ticket?_forget (s : RingSession) (key key' : String) :
    (s.forget key).ticket? key' = if key = key' then none else s.ticket? key' := by
  simp only [ticket?, forget, List.find?_filter]
  by_cases he : key = key'
  · subst he
    simp
  · have same : ∀ p : String × Ticket, ((p.1 != key) = true ∧ (p.1 == key') = true) ↔ (p.1 == key') = true := by
      intro p
      by_cases hp : p.1 = key' <;> simp [hp, Ne.symm he]
    simp only [if_neg he, same, Bool.decide_eq_true]

/-- A fetch that waits is kept under its key, and the other keys stay as they are. -/
theorem ticket?_keep (s : RingSession) (key : String) (t : Ticket) (ring : EventRing) (key' : String) :
    (s.keep key (.pending t, ring)).2.ticket? key' = if key = key' then some t else s.ticket? key' := by
  have others := ticket?_forget s key key'
  simp only [ticket?] at others
  simp only [keep, ticket?, List.find?_append]
  by_cases he : key = key'
  · subst he
    rw [if_pos rfl, Option.map_eq_none_iff] at others
    simp [others]
  · rw [if_neg he] at others
    simpa [he] using others

theorem forget_forget (s : RingSession) (key : String) : (s.forget key).forget key = s.forget key := by
  simp [forget]

theorem cancel_eq {s : RingSession} {key : String} {t : Ticket} (h : s.ticket? key = some t) :
    s.cancel key = { s.forget key with ring := s.ring.cancel t } := by
  simp only [cancel, h]

theorem ticket?_cancel (s : RingSession) (key key' : String) :
    (s.cancel key).ticket? key' = if key = key' then none else s.ticket? key' := by
  unfold cancel
  split
  · rename_i none
    split
    · rename_i same
      exact same ▸ none
    · rfl
  · exact ticket?_forget s key key'

theorem cancel_lineOnly (s : RingSession) (key : String) : s.ring.LineOnly (s.cancel key).ring := by
  unfold cancel
  split
  · exact ⟨_, rfl⟩
  · exact ⟨_, rfl⟩

/-- What is kept about the fetches that wait, `begun` being the cursors at which they were begun. -/
structure Watched (begun : String → Option Cursor) (s : RingSession) : Prop where
  standing : ∀ {key t}, s.ticket? key = some t → ∃ c, begun key = some c ∧ s.ring.line.cursorOf? t = some c
  apart : ∀ {key key' t}, s.ticket? key = some t → s.ticket? key' = some t → key = key'
  fresh : ∀ {t}, s.ring.line.issued ≤ t → s.ring.line.cursorOf? t = none
  fair : s.ring.line.Fair
  rests : s.ring.line.Rests s.ring.Quiet

variable {begun : String → Option Cursor} {s : RingSession}

theorem Watched.start (config : RingSize) : (RingSession.start config).Watched begun where
  standing := nofun
  apart := nofun
  fresh _ := rfl
  fair := nofun
  rests := nofun

/-- Only cursors of keys that wait matter. -/
theorem Watched.congr {begun' : String → Option Cursor} (h : s.Watched begun)
    (same : ∀ key t, s.ticket? key = some t → begun' key = begun key) : s.Watched begun' where
  standing {key t} ht := by
    rw [same key t ht]
    exact h.standing ht
  apart := h.apart
  fresh := h.fresh
  fair := h.fair
  rests := h.rests

/-- The ring was changed, and everybody kept its place in line. -/
theorem Watched.stir (h : s.Watched begun) {ring : EventRing}
    (cursors : ∀ t, ring.line.cursorOf? t = s.ring.line.cursorOf? t) (issued : s.ring.line.issued ≤ ring.line.issued)
    (fair : ring.line.Fair) (rests : ring.line.Rests ring.Quiet) : { s with ring }.Watched begun where
  standing {key t} ht := by
    rw [cursors]
    exact h.standing ht
  apart := h.apart
  fresh {t} ht := by
    rw [cursors]
    exact h.fresh (Nat.le_trans issued ht)
  fair := fair
  rests := rests

/-- A key is forgotten, and its place in line given up or lost. -/
theorem Watched.drop (h : s.Watched begun) {key : String} {t : Ticket} (ht : s.ticket? key = some t)
    {line : WaitLine} (cursors : ∀ t', line.cursorOf? t' = if t = t' then none else s.ring.line.cursorOf? t')
    (issued : line.issued = s.ring.line.issued) (fair : line.Fair) (rests : line.Rests s.ring.Quiet) :
    { s.forget key with ring := { s.ring with line } }.Watched begun where
  standing {key' t'} ht' := by
    change (s.forget key).ticket? key' = some t' at ht'
    rw [ticket?_forget] at ht'
    split at ht'
    · contradiction
    · rename_i other
      have apart : t ≠ t' := by
        rintro rfl
        exact other (h.apart ht ht')
      rw [cursors, if_neg apart]
      exact h.standing ht'
  apart {key' key'' t'} ht' ht'' := by
    change (s.forget key).ticket? key' = some t' at ht'
    change (s.forget key).ticket? key'' = some t' at ht''
    simp only [ticket?_forget, Option.ite_none_left_eq_some] at ht' ht''
    exact h.apart ht'.2 ht''.2
  fresh {t'} ht' := by
    rw [cursors]
    split
    · rfl
    · exact h.fresh (issued ▸ ht')
  fair := fair
  rests := rests

theorem Watched.cancel (h : s.Watched begun) (key : String) : (s.cancel key).Watched begun := by
  cases ht : s.ticket? key with
  | none => simpa only [RingSession.cancel, ht] using h
  | some t =>
    rw [cancel_eq ht]
    exact h.drop ht (by simp) (by simp) (h.fair.leave t) (h.rests.leave t)

/-- A fetch that is not in line looks at the ring, and takes a place in line if it has to wait. -/
theorem Watched.look (h : s.Watched begun) {key : String} (idle : s.ticket? key = none) {c : Cursor}
    (hb : begun key = some c) {t : Ticket} (issued : t < s.ring.line.issued)
    (absent : s.ring.line.cursorOf? t = none) : (s.keep key (s.ring.lookOrWait t c)).2.Watched begun := by
  have kept : ∀ key', (s.forget key).ticket? key' = s.ticket? key' := by
    intro key'
    rw [ticket?_forget]
    split
    · rename_i same
      exact same ▸ idle.symm
    · rfl
  have ended : ∀ {ring : EventRing}, { s with ring }.Watched begun → { s.forget key with ring }.Watched begun := by
    intro ring hr
    refine ⟨fun {key' t'} ht' => ?_, fun {key' key'' t'} ht' ht'' => ?_, hr.fresh, hr.fair, hr.rests⟩
    · exact hr.standing ((kept key').symm.trans ht')
    · exact hr.apart ((kept key').symm.trans ht') ((kept key'').symm.trans ht'')
  have looked := EventRing.lookOrWait_looked s.ring t c
  generalize s.ring.lookOrWait t c = outcome at looked
  cases looked with
  | found | ended => exact ended h
  | kept =>
    apply ended
    exact h.stir (fun _ => rfl) (Nat.le_refl _) nofun h.rests
  | waits nothing opened spent =>
    refine ⟨fun {key' t'} ht' => ?_, fun {key' key'' t'} ht' ht'' => ?_, fun {t'} ht' => ?_, ?_, ?_⟩
    · rw [ticket?_keep] at ht'
      change ∃ c', begun key' = some c' ∧ (s.ring.line.join t c).cursorOf? t' = some c'
      split at ht'
      · rename_i same
        cases ht'
        subst same
        exact ⟨c, hb, by simp [absent]⟩
      · obtain ⟨c', hb', hc'⟩ := h.standing ht'
        exact ⟨c', hb', by simp [hc']⟩
    -- a ticket that is not in line is nobody's, so the newcomer shares its own with no other key
    · have alone : ∀ key', s.ticket? key' ≠ some t := by
        intro key' ht
        obtain ⟨_, -, hc⟩ := h.standing ht
        rw [absent] at hc
        contradiction
      rw [ticket?_keep] at ht' ht''
      split at ht'
      · rename_i same
        cases ht'
        split at ht''
        · rename_i same'
          exact same.symm.trans same'
        · exact absurd ht'' (alone key'')
      · split at ht''
        · cases ht''
          exact absurd ht' (alone key')
        · exact h.apart ht' ht''
    · change s.ring.line.issued ≤ t' at ht'
      change (s.ring.line.join t c).cursorOf? t' = none
      have other : t ≠ t' := Nat.ne_of_lt (Nat.lt_of_lt_of_le issued ht')
      simp [h.fresh ht', other]
    · exact .join spent t c
    · exact h.rests.join t ⟨EventRing.find?_eq_none.mp nothing, opened⟩

/-- A waiting fetch is in line, at the cursor at which it was begun. -/
theorem Watched.waiter (h : s.Watched begun) {key : String} {t : Ticket} (ht : s.ticket? key = some t) :
    ∃ w, s.ring.line.find? t = some w ∧ begun key = some w.cursor ∧ w ∈ s.ring.line.waiters := by
  obtain ⟨c, hb, hc⟩ := h.standing ht
  obtain ⟨w, found, rfl, member⟩ := WaitLine.cursorOf?_eq_some hc
  exact ⟨w, found, hb, member⟩

/-- A waiting fetch looks again as one that has left the line first. -/
theorem keep_cancel {key : String} {t : Ticket} (ht : s.ticket? key = some t) (outcome : FetchReply × EventRing) :
    s.keep key outcome = (s.cancel key).keep key outcome := by
  have forgotten : ((s.cancel key).forget key).pending = (s.forget key).pending := by
    rw [cancel_eq ht]
    change ((s.forget key).forget key).pending = _
    rw [forget_forget]
  obtain ⟨reply, ring⟩ := outcome
  cases reply with
  | ready result => simp only [keep, forgotten]
  | pending t' => simp only [keep, forgotten]

theorem Watched.poll (h : s.Watched begun) {key : String} {t : Ticket} (ht : s.ticket? key = some t)
    (arrivalFirst : Bool) : (s.keep key (s.ring.resume t arrivalFirst)).2.Watched begun := by
  obtain ⟨c, hb, hc⟩ := h.standing ht
  have resumed := EventRing.resume_resumed s.ring t arrivalFirst
  generalize s.ring.resume t arrivalFirst = outcome at resumed
  have stays : (s.keep key (.pending t, s.ring)).2.Watched begun := by
    have same : ∀ key', (s.keep key (.pending t, s.ring)).2.ticket? key' = s.ticket? key' := by
      intro key'
      rw [ticket?_keep]
      split
      · rename_i same
        exact same ▸ ht.symm
      · rfl
    refine ⟨fun {key' t'} ht' => ?_, fun {key' key'' t'} ht' ht'' => ?_, h.fresh, h.fair, h.rests⟩
    · rw [same] at ht'
      exact h.standing ht'
    · rw [same] at ht' ht''
      exact h.apart ht' ht''
  cases resumed with
  | absent | asleep => exact stays
  | looked found _ _ =>
    have cursor : s.ring.line.cursorOf? t = some _ := congrArg (Option.map Waiter.cursor) found
    rw [hc] at cursor
    cases cursor
    have ring : s.ring.cancel t = (s.cancel key).ring := by rw [cancel_eq ht]
    rw [keep_cancel ht, ring]
    apply (h.cancel key).look
    · simp [ticket?_cancel]
    · exact hb
    · have issued : t < s.ring.line.issued := by
        apply Nat.lt_of_not_le
        intro late
        rw [h.fresh late] at hc
        contradiction
      simpa [cancel_eq ht, EventRing.cancel] using issued
    · simp [cancel_eq ht, EventRing.cancel]
  | interrupted => exact h.drop ht (by simp) rfl (h.fair.remove t) (h.rests.remove t)

/-- A fetch that begins under a key first drops the one that waits there. -/
theorem step_fetch (s : RingSession) (key : String) (c : Cursor) :
    s.step (.fetch key c) = { s.cancel key with ring := (s.cancel key).ring.issueTicket }.keep key
      ((s.cancel key).ring.issueTicket.lookOrWait (s.cancel key).ring.line.issued c) := rfl

theorem Watched.fetch (h : s.Watched begun) (key : String) (c : Cursor) :
    (s.step (.fetch key c)).2.Watched fun key' => (RingStep.begins? key' (.fetch key c)).or (begun key') := by
  have idle : (s.cancel key).ticket? key = none := by simp [ticket?_cancel]
  have cancelled : (s.cancel key).Watched fun key' => (RingStep.begins? key' (.fetch key c)).or (begun key') := by
    apply (h.cancel key).congr
    intro key' t ht
    have other : key ≠ key' := by
      rintro rfl
      rw [idle] at ht
      contradiction
    simp [RingStep.begins?, other]
  have issued : Watched (fun key' => (RingStep.begins? key' (.fetch key c)).or (begun key'))
      { s.cancel key with ring := (s.cancel key).ring.issueTicket } :=
    cancelled.stir (fun _ => rfl) (Nat.le_succ _) cancelled.fair cancelled.rests
  rw [step_fetch]
  apply issued.look
  · exact idle
  · simp [RingStep.begins?]
  · exact Nat.lt_succ_self _
  · exact cancelled.fresh (Nat.le_refl _)

theorem Watched.step (h : s.Watched begun) (x : RingStep) :
    (s.step x).2.Watched fun key => (x.begins? key).or (begun key) := by
  cases x with
  | post now e =>
    change (s.step (.post now e)).2.Watched begun
    simp only [RingSession.step]
    split
    · exact h
    · rename_i index ring posted
      obtain ⟨-, rfl, -⟩ := EventRing.post_ok posted
      exact h.stir (by simp [EventRing.store]) (Nat.le_refl _) h.fair.wake (WaitLine.wake_rests _)
  | fetch key c => exact h.fetch key c
  | poll key arrivalFirst =>
    change (s.step (.poll key arrivalFirst)).2.Watched begun
    simp only [RingSession.step]
    split
    · exact h
    · rename_i t ht
      exact h.poll ht arrivalFirst
  | cancel key => exact h.cancel key
  | interrupt =>
    exact h.stir (by simp [EventRing.interrupt]) (by simp [EventRing.interrupt]) h.fair.interrupt h.rests.interrupt
  | close => exact h.stir (by simp [EventRing.close]) (Nat.le_refl _) h.fair.wake (WaitLine.wake_rests _)
  | config | name => exact h

theorem after_watched (config : RingSize) (steps : List RingStep) :
    ((RingSession.start config).after steps).Watched (begunAt? steps) := by
  induction steps using List.reverseRecOn with
  | nil => exact .start config
  | append_singleton steps x ih =>
    rw [after_concat, begunAt?_concat]
    exact ih.step x

end RingSession

end EventRelay
