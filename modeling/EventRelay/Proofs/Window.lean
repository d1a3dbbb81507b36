import EventRelay.Proofs.Fetching

namespace EventRelay

/-- Why an event of that name is refused by a ring, if it is. -/
def RingSize.refusal? (config : RingSize) (closed : Bool) (name : String) : Option SourceFault :=
  if name.isEmpty then some (.invalidName name "empty")
  else if config.maxNameLength < name.utf8ByteSize then some (.invalidName name "too long")
  else if closed then some .closed
  else none

namespace EventRing

/-- The ring shows the end of the log. -/
structure Tracks (config : RingSize) (log : List (Instant × Event)) (r : EventRing) : Prop extends Sound r where
  capacity : r.capacity = max config.capacity 1
  names : r.maxNameLength = config.maxNameLength
  next : r.next = log.length
  recorded : ∀ {s}, s ∈ r.slots → log[s.index]? = some (s.time, s.event)

variable {config : RingSize} {log : List (Instant × Event)} {r : EventRing}

theorem create_tracks (config : RingSize) : (create config).Tracks config [] :=
  ⟨create_sound config, rfl, rfl, rfl, nofun⟩

/-- Neither a close nor what happens in line moves the window. -/
theorem Tracks.same (h : r.Tracks config log) (closed : Bool) (line : WaitLine) :
    { r with closed, line }.Tracks config log :=
  ⟨⟨h.room, h.bound, h.filling, h.place, h.recent⟩, h.capacity, h.names, h.next, h.recorded⟩

theorem Tracks.lineOnly (h : r.Tracks config log) {r' : EventRing} (hl : r.LineOnly r') : r'.Tracks config log := by
  obtain ⟨line, rfl⟩ := hl
  exact h.same r.closed line

/-- A stored event is the newest of the log. -/
theorem Tracks.store (h : r.Tracks config log) (now : Instant) (e : Event) :
    (r.store now e).Tracks config (log ++ [(now, e)]) where
  toSound := store_sound h.toSound now e
  capacity := h.capacity
  names := h.names
  next := by simp [EventRing.store, h.next]
  recorded {s} hs := by
    rcases mem_store hs with old | rfl
    · have earlier : s.index < log.length := h.next ▸ (h.recent old).1
      rw [List.getElem?_append_left earlier]
      exact h.recorded old
    · simp [h.next]

/-- Numbers with the same remainder are equal if they are close together. -/
theorem eq_of_mod_eq {a b c : Nat} (same : a % c = b % c) (below : a < b + c) (above : b < a + c) : a = b := by
  have ab : (a - b) % c = 0 := Nat.sub_mod_eq_zero_of_mod_eq same
  have ba : (b - a) % c = 0 := Nat.sub_mod_eq_zero_of_mod_eq same.symm
  rw [Nat.mod_eq_of_lt (by omega)] at ab ba
  omega

/-- The slot of an index is in use as soon as the index was given out. -/
theorem Tracks.slot_used (h : r.Tracks config log) {i : Nat} (given : i < r.next) :
    i % r.capacity < r.slots.length := by
  rcases Nat.lt_or_ge r.slots.length r.capacity with filling | full
  · have next := h.filling filling
    have inside : i < r.capacity := by omega
    rw [Nat.mod_eq_of_lt inside]
    omega
  · exact Nat.lt_of_lt_of_le (Nat.mod_lt i h.room) full

theorem Tracks.held (h : r.Tracks config log) (s : Stored) :
    s ∈ r.slots ↔ log.length - max config.capacity 1 ≤ s.index ∧ log[s.index]? = some (s.time, s.event) := by
  rw [← h.capacity, ← h.next]
  constructor
  · intro hs
    have recent := h.recent hs
    exact ⟨by omega, h.recorded hs⟩
  · rintro ⟨late, logged⟩
    have given : s.index < r.next := h.next ▸ (List.getElem?_eq_some_iff.mp logged).1
    -- what is in the slot of that index has the same remainder, and the window is no longer than the ring
    obtain ⟨t, ht⟩ : ∃ t, r.slots[s.index % r.capacity]? = some t :=
      ⟨_, List.getElem?_eq_getElem (h.slot_used given)⟩
    have member := List.mem_of_getElem? ht
    have recent := h.recent member
    have index : t.index = s.index := eq_of_mod_eq (h.place ht) (by omega) (by omega)
    have same := h.recorded member
    rw [index, logged] at same
    obtain ⟨time, i, event⟩ := s
    obtain ⟨time', i', event'⟩ := t
    cases index
    cases same
    exact member

theorem Tracks.size (h : r.Tracks config log) : r.size = min log.length (max config.capacity 1) := by
  rw [← h.capacity, ← h.next]
  unfold EventRing.size
  rcases Nat.lt_or_ge r.slots.length r.capacity with filling | full
  · have next := h.filling filling
    omega
  · have length : r.slots.length = r.capacity := Nat.le_antisymm h.bound full
    have room := h.room
    -- the last slot is in use, so as many indices as there are slots were given out
    have last : r.capacity - 1 < r.slots.length := by omega
    have place := h.place (List.getElem?_eq_getElem last)
    have recent := h.recent (List.getElem_mem last)
    have small : r.slots[r.capacity - 1].index % r.capacity ≤ r.slots[r.capacity - 1].index := Nat.mod_le _ _
    omega

/-- An event is refused for its name, or because the ring is closed, and else is stored. -/
theorem post_eq (names : r.maxNameLength = config.maxNameLength) (now : Instant) (e : Event) :
    r.post now e = match config.refusal? r.closed e.name with
      | some cause => .error cause
      | none => .ok (r.next, r.store now e) := by
  unfold post checkName RingSize.refusal?
  rw [names]
  split
  · rename_i cause checked
    split at checked
    · rename_i empty
      cases checked
      simp [empty]
    · rename_i some
      split at checked
      · rename_i long
        cases checked
        simp [some, long]
      · contradiction
  · rename_i checked
    split at checked
    · contradiction
    · rename_i some
      split at checked
      · contradiction
      · rename_i short
        cases hc : r.closed <;> simp [some, short]

/-- What a fetch that looks at the ring can be answered. -/
inductive Examined (r : EventRing) (c : Cursor) : RingAnswer → Prop
  | found {s : Stored} (held : r.Holds c s) (least : ∀ t, r.Holds c t → s.index ≤ t.index) :
      Examined r c (.ended (.fetched s.fetched))
  | ended (nothing : ∀ s, ¬ r.Holds c s) (closed : r.closed = true) : Examined r c (.ended (.failed .closed))
  | interrupted (nothing : ∀ s, ¬ r.Holds c s) (opened : r.closed = false) :
      Examined r c (.ended (.failed .interrupted))
  | waits (nothing : ∀ s, ¬ r.Holds c s) (opened : r.closed = false) : Examined r c .pending

theorem Looked.examined {t : Ticket} {c : Cursor} {outcome : FetchReply × EventRing} (h : r.Looked t c outcome)
    (s : RingSession) (key : String) : r.Examined c (s.keep key outcome).1 := by
  cases h with
  | found found =>
    obtain ⟨s, held, least, rfl⟩ := find?_eq_some found
    exact .found held least
  | ended nothing closed => exact .ended (find?_eq_none.mp nothing) closed
  | kept nothing opened _ => exact .interrupted (find?_eq_none.mp nothing) opened
  | waits nothing opened _ => exact .waits (find?_eq_none.mp nothing) opened

theorem Examined.lineOnly {r' : EventRing} {c : Cursor} {answer : RingAnswer} (h : r'.Examined c answer)
    (hl : r.LineOnly r') : r.Examined c answer := by
  obtain ⟨line, rfl⟩ := hl
  cases h with
  | found held least => exact .found held least
  | ended nothing closed => exact .ended nothing closed
  | interrupted nothing opened => exact .interrupted nothing opened
  | waits nothing opened => exact .waits nothing opened

end EventRing

namespace RingSession

/-- The event that a step stores, with its time. -/
def accepts? (s : RingSession) (x : RingStep) : Option (Instant × Event) :=
  match x, (s.step x).1 with
  | .post now e, .posted (.ok _) => some (now, e)
  | _, _ => none

/-- All that was stored on the way, in order. -/
def log (s : RingSession) : List RingStep → List (Instant × Event)
  | [] => []
  | x :: rest => (s.accepts? x).toList ++ (s.step x).2.log rest

theorem log_concat (s : RingSession) (steps : List RingStep) (x : RingStep) :
    s.log (steps ++ [x]) = s.log steps ++ ((s.after steps).accepts? x).toList := by
  induction steps generalizing s with
  | nil => simp [log, after]
  | cons y rest ih =>
    simp only [List.cons_append, log, ih, List.append_assoc]
    rfl

/-- A step looks at the ring at a cursor: a fetch that begins does, and one that waits does so again when something
has arrived, unless it takes an interrupt first. -/
inductive Examines (s : RingSession) : RingStep → Cursor → Prop
  | begun (key : String) (c : Cursor) : Examines s (.fetch key c) c
  | again {key : String} {t : Ticket} {w : Waiter} {arrivalFirst : Bool} (waits : s.ticket? key = some t)
      (found : s.ring.line.find? t = some w) (woken : w.woken = true)
      (turn : arrivalFirst = true ∨ w.interrupted = false) : Examines s (.poll key arrivalFirst) w.cursor

/-- How a session shows the log of what was stored in it. -/
structure Window (config : RingSize) (steps : List RingStep) (log : List (Instant × Event)) (s : RingSession) :
    Prop where
  held : ∀ x, x ∈ s.ring.slots ↔ log.length - max config.capacity 1 ≤ x.index ∧ log[x.index]? = some (x.time, x.event)
  size : s.ring.size = min log.length (max config.capacity 1)
  next : s.ring.next = log.length
  closed : s.ring.closed = true ↔ .close ∈ steps
  accepts : ∀ now e, config.refusal? s.ring.closed e.name = none →
    (s.step (.post now e)).1 = .posted (.ok log.length)
  refuses : ∀ now e cause, config.refusal? s.ring.closed e.name = some cause →
    s.step (.post now e) = (.posted (.error cause), s)
  keeps : ∀ x, (∀ now e, x ≠ .post now e) → x ≠ .close → s.ring.LineOnly (s.step x).2.ring
  waiting : ∀ key t, s.ticket? key = some t → ∃ w, s.ring.line.find? t = some w ∧ begunAt? steps key = some w.cursor
  examines : ∀ x c, s.Examines x c → s.ring.Examined c (s.step x).1
  unexamined : ∀ key arrivalFirst, (∀ c, ¬ s.Examines (.poll key arrivalFirst) c) →
    (s.step (.poll key arrivalFirst)).1 = .noFetch ∨ (s.step (.poll key arrivalFirst)).1 = .pending ∨
    (s.step (.poll key arrivalFirst)).1 = .ended (.failed .interrupted)

variable {begun : String → Option Cursor} {s : RingSession}

theorem keep_ring (s : RingSession) (key : String) (outcome : FetchReply × EventRing) :
    (s.keep key outcome).2.ring = outcome.2 := by
  obtain ⟨reply, ring⟩ := outcome
  cases reply <;> rfl

/-- Whoever only asks, or gives up asking, leaves the ring as it is. -/
theorem step_lineOnly (s : RingSession) {x : RingStep} (posts : ∀ now e, x ≠ .post now e) (closes : x ≠ .close) :
    s.ring.LineOnly (s.step x).2.ring := by
  cases x with
  | post now e => exact absurd rfl (posts now e)
  | close => exact absurd rfl closes
  | fetch key c =>
    rw [step_fetch, keep_ring]
    have cancelled := cancel_lineOnly s key
    have issued : (s.cancel key).ring.LineOnly (s.cancel key).ring.issueTicket := ⟨_, rfl⟩
    exact (cancelled.trans issued).trans (EventRing.lookOrWait_lineOnly _ _ _)
  | poll key arrivalFirst =>
    simp only [step]
    split
    · exact ⟨_, rfl⟩
    · rename_i t _
      rw [keep_ring]
      rcases hr : s.ring.resume t arrivalFirst with ⟨reply, ring⟩
      exact EventRing.resume_lineOnly hr
  | cancel key => exact cancel_lineOnly s key
  | interrupt => exact ⟨_, rfl⟩
  | config | name => exact ⟨_, rfl⟩

theorem step_poll {key : String} {t : Ticket} (waits : s.ticket? key = some t) (arrivalFirst : Bool) :
    s.step (.poll key arrivalFirst) = s.keep key (s.ring.resume t arrivalFirst) := by
  simp only [step, waits]

theorem Examines.examined {x : RingStep} {c : Cursor} (h : s.Examines x c) : s.ring.Examined c (s.step x).1 := by
  cases h with
  | begun key =>
    rw [step_fetch]
    have looked := EventRing.lookOrWait_looked (s.cancel key).ring.issueTicket (s.cancel key).ring.line.issued c
    have issued : (s.cancel key).ring.LineOnly (s.cancel key).ring.issueTicket := ⟨_, rfl⟩
    exact (looked.examined _ key).lineOnly ((cancel_lineOnly s key).trans issued)
  | @again key t w arrivalFirst waits found woken turn =>
    rw [step_poll waits]
    have resumed := EventRing.resume_resumed s.ring t arrivalFirst
    generalize s.ring.resume t arrivalFirst = outcome at resumed
    cases resumed with
    | absent absent =>
      rw [absent] at found
      contradiction
    | looked found' _ _ =>
      cases found.symm.trans found'
      have left : s.ring.LineOnly (s.ring.cancel t) := ⟨_, rfl⟩
      exact ((EventRing.lookOrWait_looked _ _ _).examined s key).lineOnly left
    | interrupted found' marked turn' =>
      cases found.symm.trans found'
      simp [woken, marked] at turn turn'
      simp [turn] at turn'
    | asleep found' asleep _ =>
      cases found.symm.trans found'
      rw [woken] at asleep
      contradiction

/-- A waiting fetch that does not look goes on waiting, or takes an interrupt. -/
theorem poll_unexamined {key : String} {arrivalFirst : Bool} (h : ∀ c, ¬ s.Examines (.poll key arrivalFirst) c) :
    (s.step (.poll key arrivalFirst)).1 = .noFetch ∨ (s.step (.poll key arrivalFirst)).1 = .pending ∨
    (s.step (.poll key arrivalFirst)).1 = .ended (.failed .interrupted) := by
  cases ht : s.ticket? key with
  | none =>
    left
    simp only [step, ht]
  | some t =>
    right
    rw [step_poll ht]
    have resumed := EventRing.resume_resumed s.ring t arrivalFirst
    generalize s.ring.resume t arrivalFirst = outcome at resumed
    cases resumed with
    | absent | asleep => exact .inl rfl
    | looked found woken turn => exact absurd (.again ht found woken turn) (h _)
    | interrupted => exact .inr rfl

theorem step_post {config : RingSize} (names : s.ring.maxNameLength = config.maxNameLength) (now : Instant)
    (e : Event) : s.step (.post now e) = match config.refusal? s.ring.closed e.name with
      | some cause => (.posted (.error cause), s)
      | none => (.posted (.ok s.ring.next), { s with ring := s.ring.store now e }) := by
  have posted := EventRing.post_eq names now e
  cases hr : config.refusal? s.ring.closed e.name <;> simp only [hr] at posted <;> simp only [step, posted]

theorem accepts?_eq_none {x : RingStep} (posts : ∀ now e, x ≠ .post now e) : s.accepts? x = none := by
  cases x with
  | post now e => exact absurd rfl (posts now e)
  | _ => rfl

/-- The log grows by what is stored, and by nothing else. -/
theorem step_tracks {config : RingSize} {log : List (Instant × Event)} (h : s.ring.Tracks config log) (x : RingStep) :
    (s.step x).2.ring.Tracks config (log ++ (s.accepts? x).toList) := by
  by_cases posts : ∃ now e, x = .post now e
  · obtain ⟨now, e, rfl⟩ := posts
    have posted := step_post h.names now e
    cases hr : config.refusal? s.ring.closed e.name with
    | none =>
      simp only [hr] at posted
      simpa [accepts?, posted] using h.store now e
    | some cause =>
      simp only [hr] at posted
      simpa [accepts?, posted] using h
  · have silent : ∀ now e, x ≠ .post now e := fun now e he => posts ⟨now, e, he⟩
    rw [accepts?_eq_none silent, Option.toList_none, List.append_nil]
    by_cases closes : x = .close
    · subst closes
      exact h.same true s.ring.line.wake
    · exact h.lineOnly (step_lineOnly s silent closes)

theorem after_tracks (config : RingSize) (steps : List RingStep) :
    ((start config).after steps).ring.Tracks config ((start config).log steps) := by
  induction steps using List.reverseRecOn with
  | nil => exact EventRing.create_tracks config
  | append_singleton steps x ih =>
    rw [after_concat, log_concat]
    exact step_tracks ih x

/-- A step that is no close leaves the ring open, or closed. -/
theorem step_closed (s : RingSession) {x : RingStep} (closes : x ≠ .close) :
    (s.step x).2.ring.closed = s.ring.closed := by
  by_cases posts : ∃ now e, x = .post now e
  · obtain ⟨now, e, rfl⟩ := posts
    have names : s.ring.maxNameLength = s.ring.config.maxNameLength := rfl
    have posted := step_post names now e
    cases hr : s.ring.config.refusal? s.ring.closed e.name with
    | none =>
      simp only [hr] at posted
      simp [posted, EventRing.store]
    | some cause =>
      simp only [hr] at posted
      rw [posted]
  · have silent : ∀ now e, x ≠ .post now e := fun now e he => posts ⟨now, e, he⟩
    obtain ⟨line, he⟩ := step_lineOnly s silent closes
    rw [he]

theorem after_closed (config : RingSize) (steps : List RingStep) :
    ((start config).after steps).ring.closed = true ↔ .close ∈ steps := by
  induction steps using List.reverseRecOn with
  | nil => simp [after, start, EventRing.create]
  | append_singleton steps x ih =>
    rw [after_concat, List.mem_append, List.mem_singleton]
    by_cases closes : x = .close
    · subst closes
      simp [step, EventRing.close]
    · rw [step_closed _ closes, ih]
      simp [Ne.symm closes]

/-- After any steps, whatever the size of the ring: it holds the last of the posts that were accepted, as many as have
room, under the numbers of their acceptance. The next post is answered with the number of those before it, or is
refused and changes nothing; nobody who asks changes the ring; and whoever looks at it is given the first event past
the cursor of its fetch, be the ring closed or an interrupt kept, and hears that it is closed only if there is none. -/
theorem ring_shows_window (config : RingSize) (steps : List RingStep) :
    ((start config).after steps).Window config steps ((start config).log steps) := by
  have tracks := after_tracks config steps
  have watched := after_watched config steps
  refine ⟨tracks.held, tracks.size, tracks.next, after_closed config steps, ?_, ?_, ?_, ?_, ?_, ?_⟩
  · intro now e free
    rw [step_post tracks.names, free, tracks.next]
  · intro now e cause refused
    rw [step_post tracks.names, refused]
  · intro x posts closes
    exact step_lineOnly _ posts closes
  · intro key t ht
    obtain ⟨w, found, begun, -⟩ := watched.waiter ht
    exact ⟨w, found, begun⟩
  · intro x c looks
    exact looks.examined
  · intro key arrivalFirst blind
    exact poll_unexamined blind

example : ((start ⟨0, 3⟩).after [.post 4 (.named "a"), .post 5 (.named ""), .post 6 (.named "b")]).ring.slots =
    [⟨6, 1, .named "b"⟩] := by decide

end RingSession

end EventRelay
