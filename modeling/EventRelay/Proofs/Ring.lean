import EventRelay.Source.Ring

namespace EventRelay

attribute [ext] Cursor

theorem Cursor.precedes_iff {c : Cursor} {time : Instant} {index : Nat} :
    c.precedes time index = true ↔
      (∀ since, c.since = some since → since ≤ time) ∧ ∀ last, c.last = some last → last < index := by
  obtain ⟨since, last⟩ := c
  cases since <;> cases last <;> simp [precedes]

namespace WaitLine

theorem wake_waiters (l : WaitLine) : l.wake.waiters = l.waiters.map (fun w => { w with woken := true }) := rfl

theorem interrupt_nil {l : WaitLine} (h : l.waiters = []) : l.interrupt.waiters = [] := by
  simp [interrupt, h, hand?]

/-- An interrupt changes nothing in the only waiter but its mark. -/
theorem interrupt_one {l : WaitLine} {w : Waiter} (h : l.waiters = [w]) :
    l.interrupt.waiters = [{ w with interrupted := true }] := by
  obtain ⟨ticket, cursor, woken, interrupted⟩ := w
  cases interrupted <;> simp [interrupt, h, hand?]

theorem remove_one {l : WaitLine} {w : Waiter} (h : l.waiters = [w]) : (l.remove w.ticket).waiters = [] := by
  simp [remove, h]

theorem leave_one {l : WaitLine} {w : Waiter} (h : l.waiters = [w]) : (l.leave w.ticket).waiters = [] := by
  unfold leave
  split
  · exact interrupt_nil (remove_one h)
  · exact remove_one h

theorem find?_one {l : WaitLine} {w : Waiter} (h : l.waiters = [w]) : l.find? w.ticket = some w := by
  simp [find?, h]

theorem isAwake_one {l : WaitLine} {w : Waiter} (h : l.waiters = [w]) :
    l.isAwake w.ticket = (w.woken || w.interrupted) := by
  simp [isAwake, find?_one h]

end WaitLine

/-- What a fetch makes of a stored event. -/
def Stored.fetched (s : Stored) : Fetched := ⟨s.index, s.event.indexed s.index⟩

namespace EventRing

/-- Slots are used one after another, and each holds an event of the last round. -/
structure Sound (r : EventRing) : Prop where
  room : 0 < r.capacity
  bound : r.slots.length ≤ r.capacity
  filling : r.slots.length < r.capacity → r.next = r.slots.length
  place : ∀ {j s}, r.slots[j]? = some s → s.index % r.capacity = j
  recent : ∀ {s}, s ∈ r.slots → s.index < r.next ∧ r.next ≤ s.index + r.capacity

theorem create_sound (config : RingSize) : (create config).Sound :=
  ⟨Nat.lt_of_lt_of_le Nat.zero_lt_one (Nat.le_max_right _ 1), Nat.zero_le _, fun _ => rfl, nofun, nofun⟩

/-- No index is stored twice. -/
theorem Sound.index_inj {r : EventRing} (h : r.Sound) {s t : Stored} (hs : s ∈ r.slots) (ht : t ∈ r.slots)
    (he : s.index = t.index) : s = t := by
  obtain ⟨j, hj⟩ := List.mem_iff_getElem?.mp hs
  obtain ⟨k, hk⟩ := List.mem_iff_getElem?.mp ht
  have same : j = k := by rw [← h.place hj, ← h.place hk, he]
  rw [same, hk] at hj
  exact (Option.some.inj hj).symm

theorem Sound.append {r : EventRing} (h : r.Sound) (free : r.slots.length < r.capacity) (s : Stored)
    (hs : s.index = r.next) (line : WaitLine) :
    { r with slots := r.slots ++ [s], next := r.next + 1, line }.Sound := by
  have filling := h.filling free
  refine ⟨h.room, ?_, fun _ => ?_, fun {j t} ht => ?_, fun {t} ht => ?_⟩
  · simpa using Nat.succ_le_of_lt free
  · simpa using filling
  · change (r.slots ++ [s])[j]? = some t at ht
    rw [List.getElem?_append] at ht
    split at ht
    · exact h.place ht
    · rename_i hj
      have hj' : j - r.slots.length < [s].length := (List.getElem?_eq_some_iff.mp ht).1
      have hlast : j = r.slots.length := by
        simp only [List.length_singleton] at hj'
        omega
      subst hlast
      simp only [Nat.sub_self, List.getElem?_cons_zero, Option.some.injEq] at ht
      subst ht
      rw [hs, filling]
      exact Nat.mod_eq_of_lt free
  · dsimp only
    rcases List.mem_append.mp ht with hm | he
    · have := h.recent hm
      omega
    · cases List.mem_singleton.mp he
      omega

theorem Sound.replace {r : EventRing} (h : r.Sound) (full : ¬ r.slots.length < r.capacity) (s : Stored)
    (hs : s.index = r.next) (line : WaitLine) :
    { r with slots := r.slots.set (r.next % r.capacity) s, next := r.next + 1, line }.Sound := by
  have older : ∀ {j t}, r.slots[j]? = some t → j ≠ r.next % r.capacity → r.next < t.index + r.capacity := by
    intro j t ht hj
    have place := h.place ht
    rcases Nat.lt_or_eq_of_le (h.recent (List.mem_of_getElem? ht)).2 with hlt | he
    · exact hlt
    · rw [he, Nat.add_mod_right, place] at hj
      contradiction
  refine ⟨h.room, ?_, fun hlt => ?_, fun {j t} ht => ?_, fun {t} ht => ?_⟩
  · simpa using h.bound
  · simp only [List.length_set] at hlt
    exact absurd hlt full
  · change (r.slots.set _ s)[j]? = some t at ht
    rw [List.getElem?_set] at ht
    split at ht
    · rename_i hj
      split at ht
      · cases ht
        change s.index % r.capacity = j
        rw [hs, hj]
      · contradiction
    · exact h.place ht
  · dsimp only
    obtain ⟨j, hj⟩ := List.mem_iff_getElem?.mp ht
    rw [List.getElem?_set] at hj
    split at hj
    · split at hj
      · cases hj
        have := h.room
        omega
      · contradiction
    · rename_i hne
      have := older hj (Ne.symm hne)
      have := h.recent (List.mem_of_getElem? hj)
      omega

theorem store_sound {r : EventRing} (h : r.Sound) (now : Instant) (e : Event) : (r.store now e).Sound := by
  unfold store fill
  split
  · rename_i free
    exact h.append free _ rfl _
  · rename_i full
    exact h.replace full _ rfl _

/-- An accepted event takes the next index. -/
theorem post_ok {r r' : EventRing} {now : Instant} {e : Event} {index : Nat}
    (h : r.post now e = .ok (index, r')) : index = r.next ∧ r' = r.store now e ∧ r.closed = false := by
  unfold post at h
  split at h
  · contradiction
  · split at h
    · contradiction
    · rename_i hc
      cases h
      exact ⟨rfl, rfl, by simpa using hc⟩

theorem mem_store {r : EventRing} {now : Instant} {e : Event} {s : Stored} (h : s ∈ (r.store now e).slots) :
    s ∈ r.slots ∨ s = ⟨now, r.next, e⟩ := by
  change s ∈ r.fill _ _ at h
  unfold fill at h
  split at h
  · simpa using h
  · exact List.mem_or_eq_of_mem_set h

theorem earliest_eq_none {xs : List Stored} : earliest xs = none ↔ xs = [] := by
  cases xs with
  | nil => simp [earliest]
  | cons s rest =>
    simp only [earliest]
    split <;> simp

theorem earliest_eq_some {xs : List Stored} {s : Stored} (h : earliest xs = some s) :
    s ∈ xs ∧ ∀ t ∈ xs, s.index ≤ t.index := by
  induction xs generalizing s with
  | nil => contradiction
  | cons a rest ih =>
    simp only [earliest] at h
    split at h
    · rename_i hn
      cases h
      simp [earliest_eq_none.mp hn]
    · rename_i t ht
      obtain ⟨hm, hl⟩ := ih ht
      split at h
      · rename_i hlt
        cases h
        refine ⟨List.mem_cons_of_mem a hm, fun u hu => ?_⟩
        rcases List.mem_cons.mp hu with rfl | hu
        · exact Nat.le_of_lt hlt
        · exact hl u hu
      · rename_i hge
        cases h
        refine ⟨List.mem_cons_self, fun u hu => ?_⟩
        rcases List.mem_cons.mp hu with rfl | hu
        · exact Nat.le_refl _
        · exact Nat.le_trans (Nat.le_of_not_lt hge) (hl u hu)

/-- The ring holds the event past the cursor. -/
def Holds (r : EventRing) (c : Cursor) (s : Stored) : Prop := s ∈ r.slots ∧ c.precedes s.time s.index = true

/-- A find gives the event with the least index of those past the cursor. -/
theorem find?_eq_some {r : EventRing} {c : Cursor} {f : Fetched} (h : r.find? c = some f) :
    ∃ s, r.Holds c s ∧ (∀ t, r.Holds c t → s.index ≤ t.index) ∧ f = s.fetched := by
  obtain ⟨s, hs, rfl⟩ := Option.map_eq_some_iff.mp h
  obtain ⟨hm, hl⟩ := earliest_eq_some hs
  exact ⟨s, List.mem_filter.mp hm, fun t ht => hl t (List.mem_filter.mpr ht), rfl⟩

theorem find?_eq_none {r : EventRing} {c : Cursor} : r.find? c = none ↔ ∀ s, ¬ r.Holds c s := by
  simp only [find?, Option.map_eq_none_iff, earliest_eq_none, List.filter_eq_nil_iff, Holds, not_and]

/-- Past the first event past the cursor are all the others. -/
theorem holds_moveTo {r : EventRing} (h : r.Sound) {c : Cursor} {s : Stored} (first : r.Holds c s)
    (least : ∀ t, r.Holds c t → s.index ≤ t.index) {t : Stored} :
    r.Holds (c.moveTo s.index) t ↔ r.Holds c t ∧ t ≠ s := by
  have hs := Cursor.precedes_iff.mp first.2
  constructor
  · rintro ⟨hm, hp⟩
    obtain ⟨since, last⟩ := Cursor.precedes_iff.mp hp
    have later : s.index < t.index := last s.index rfl
    refine ⟨⟨hm, Cursor.precedes_iff.mpr ⟨since, fun l hl => ?_⟩⟩, fun he => ?_⟩
    · exact Nat.lt_trans (hs.2 l hl) later
    · rw [he] at later
      exact Nat.lt_irrefl _ later
  · rintro ⟨ht, hne⟩
    refine ⟨ht.1, Cursor.precedes_iff.mpr ⟨(Cursor.precedes_iff.mp ht.2).1, fun l hl => ?_⟩⟩
    cases hl
    exact Nat.lt_of_le_of_ne (least t ht) fun he => hne (h.index_inj ht.1 first.1 he.symm)

/-- How many events the ring holds past the cursor. -/
def ahead (r : EventRing) (c : Cursor) : Nat := r.slots.countP (fun s => c.precedes s.time s.index)

theorem ahead_lt {r : EventRing} (h : r.Sound) {c : Cursor} {s : Stored} (first : r.Holds c s)
    (least : ∀ t, r.Holds c t → s.index ≤ t.index) : r.ahead (c.moveTo s.index) < r.ahead c := by
  have fewer : r.ahead (c.moveTo s.index) =
      (r.slots.filter (fun t => c.precedes t.time t.index)).countP
        (fun t => (c.moveTo s.index).precedes t.time t.index) := by
    rw [List.countP_filter]
    apply List.countP_congr
    intro t ht
    simp only [Bool.and_eq_true]
    exact ⟨fun hp => ⟨hp, ((holds_moveTo h first least).mp ⟨ht, hp⟩).1.2⟩, fun hp => hp.1⟩
  have one : s ∈ r.slots.filter (fun t => c.precedes t.time t.index) := List.mem_filter.mpr first
  have out : ¬ (c.moveTo s.index).precedes s.time s.index = true :=
    fun hp => ((holds_moveTo h first least).mp ⟨first.1, hp⟩).2 rfl
  rw [fewer, ahead, List.countP_eq_length_filter (l := r.slots)]
  exact Nat.lt_of_le_of_ne List.countP_le_length fun he => out (List.countP_eq_length.mp he s one)

/-- What can come of looking at the ring. -/
inductive Looked (r : EventRing) (t : Ticket) (c : Cursor) : FetchReply × EventRing → Prop
  | found {f : Fetched} (found : r.find? c = some f) : Looked r t c (.ready (.fetched f), r)
  | ended (none : r.find? c = none) (closed : r.closed = true) : Looked r t c (.ready (.failed .closed), r)
  | kept (none : r.find? c = none) (opened : r.closed = false) (permit : r.line.permit = true) :
      Looked r t c (.ready (.failed .interrupted), { r with line := { r.line with permit := false } })
  | waits (none : r.find? c = none) (opened : r.closed = false) (permit : r.line.permit = false) :
      Looked r t c (.pending t, { r with line := r.line.join t c })

theorem lookOrWait_looked (r : EventRing) (t : Ticket) (c : Cursor) : r.Looked t c (r.lookOrWait t c) := by
  cases hf : r.find? c with
  | some f =>
    have he : r.lookOrWait t c = (.ready (.fetched f), r) := by simp [lookOrWait, look?, hf]
    exact he ▸ .found hf
  | none =>
    by_cases hc : r.closed = true
    · have he : r.lookOrWait t c = (.ready (.failed .closed), r) := by simp [lookOrWait, look?, hf, hc]
      exact he ▸ .ended hf hc
    · by_cases hp : r.line.permit = true
      · have he : r.lookOrWait t c =
            (.ready (.failed .interrupted), { r with line := { r.line with permit := false } }) := by
          simp [lookOrWait, look?, hf, hc, hp]
        exact he ▸ .kept hf (by simpa using hc) hp
      · have he : r.lookOrWait t c = (.pending t, { r with line := r.line.join t c }) := by
          simp [lookOrWait, look?, hf, hc, hp]
        exact he ▸ .waits hf (by simpa using hc) (by simpa using hp)

/-- The only fetch in line was woken and looks again, or takes the interrupt it was handed. -/
theorem resume_one {r : EventRing} {w : Waiter} (h : r.line.waiters = [w]) (arrivalFirst : Bool)
    (awake : r.line.isAwake w.ticket = true) :
    r.resume w.ticket arrivalFirst = { r with line := r.line.leave w.ticket }.lookOrWait w.ticket w.cursor ∨
    r.resume w.ticket arrivalFirst =
      (.ready (.failed .interrupted), { r with line := r.line.remove w.ticket }) := by
  rw [WaitLine.isAwake_one h] at awake
  unfold resume
  rw [WaitLine.find?_one h]
  dsimp only
  split
  · exact .inl rfl
  · split
    · exact .inr rfl
    · rename_i hw hi
      simp only [Bool.not_eq_true] at hi
      simp [hi] at hw awake
      rw [awake] at hw
      contradiction

theorem find?_congr {r r' : EventRing} (h : r'.slots = r.slots) (c : Cursor) : r'.find? c = r.find? c := by
  simp only [find?, h]

/-- A look at the ring with nobody in line ends at once, or leaves one fetch waiting. -/
theorem lookOrWait_ready {r r' : EventRing} {t : Ticket} {c : Cursor} {result : FetchResult}
    (hl : r.line.waiters = []) (h : r.lookOrWait t c = (.ready result, r')) : r'.line.waiters = [] := by
  have looked := lookOrWait_looked r t c
  rw [h] at looked
  cases looked with
  | found | ended | kept => exact hl

theorem lookOrWait_pending {r r' : EventRing} {t ticket : Ticket} {c : Cursor} (hl : r.line.waiters = [])
    (h : r.lookOrWait t c = (.pending ticket, r')) :
    r'.line.waiters = [⟨ticket, c, false, false⟩] ∧ r'.find? c = none := by
  have looked := lookOrWait_looked r t c
  rw [h] at looked
  cases looked with
  | waits none _ _ =>
    refine ⟨?_, none⟩
    change r.line.waiters ++ _ = _
    rw [hl, List.nil_append]

def issueTicket (r : EventRing) : EventRing := { r with line := { r.line with issued := r.line.issued + 1 } }

theorem fetch_ready {r r' : EventRing} {c : Cursor} {result : FetchResult} (hl : r.line.waiters = [])
    (h : r.fetch c = (.ready result, r')) : r'.line.waiters = [] :=
  lookOrWait_ready (r := r.issueTicket) hl h

theorem fetch_pending {r r' : EventRing} {c : Cursor} {ticket : Ticket} (hl : r.line.waiters = [])
    (h : r.fetch c = (.pending ticket, r')) :
    r'.line.waiters = [⟨ticket, c, false, false⟩] ∧ r'.find? c = none :=
  lookOrWait_pending (r := r.issueTicket) hl h

theorem resume_ready {r r' : EventRing} {w : Waiter} {arrivalFirst : Bool} {result : FetchResult}
    (hl : r.line.waiters = [w]) (awake : r.line.isAwake w.ticket = true)
    (h : r.resume w.ticket arrivalFirst = (.ready result, r')) : r'.line.waiters = [] := by
  rcases resume_one hl arrivalFirst awake with he | he
  · rw [he] at h
    exact lookOrWait_ready (WaitLine.leave_one hl) h
  · rw [he] at h
    cases h
    exact WaitLine.remove_one hl

theorem resume_pending {r r' : EventRing} {w : Waiter} {arrivalFirst : Bool} {ticket : Ticket}
    (hl : r.line.waiters = [w]) (awake : r.line.isAwake w.ticket = true)
    (h : r.resume w.ticket arrivalFirst = (.pending ticket, r')) :
    r'.line.waiters = [⟨ticket, w.cursor, false, false⟩] ∧ r'.find? w.cursor = none := by
  rcases resume_one hl arrivalFirst awake with he | he
  · rw [he] at h
    exact lookOrWait_pending (WaitLine.leave_one hl) h
  · rw [he] at h
    cases h

/-- Nothing but the line differs. -/
def LineOnly (r r' : EventRing) : Prop := ∃ line, r' = { r with line }

theorem LineOnly.slots {r r' : EventRing} (h : r.LineOnly r') : r'.slots = r.slots := by
  obtain ⟨_, rfl⟩ := h
  rfl

theorem LineOnly.next {r r' : EventRing} (h : r.LineOnly r') : r'.next = r.next := by
  obtain ⟨_, rfl⟩ := h
  rfl

theorem LineOnly.trans {r r' r'' : EventRing} (h : r.LineOnly r') (h' : r'.LineOnly r'') :
    r.LineOnly r'' := by
  obtain ⟨line, rfl⟩ := h
  obtain ⟨line', rfl⟩ := h'
  exact ⟨line', rfl⟩

theorem Sound.lineOnly {r r' : EventRing} (h : r.Sound) (hl : r.LineOnly r') : r'.Sound := by
  obtain ⟨line, rfl⟩ := hl
  exact ⟨h.room, h.bound, h.filling, h.place, h.recent⟩

theorem Looked.lineOnly {r : EventRing} {t : Ticket} {c : Cursor} {outcome : FetchReply × EventRing}
    (h : r.Looked t c outcome) : r.LineOnly outcome.2 := by
  cases h with
  | found | ended | kept | waits => exact ⟨_, rfl⟩

theorem lookOrWait_lineOnly (r : EventRing) (t : Ticket) (c : Cursor) : r.LineOnly (r.lookOrWait t c).2 :=
  (lookOrWait_looked r t c).lineOnly

theorem fetch_lineOnly {r r' : EventRing} {c : Cursor} {reply : FetchReply} (h : r.fetch c = (reply, r')) :
    r.LineOnly r' := by
  obtain ⟨line, hl⟩ := lookOrWait_lineOnly r.issueTicket r.line.issued c
  have he : r' = (r.fetch c).2 := (congrArg Prod.snd h).symm
  exact ⟨line, he.trans hl⟩

theorem resume_lineOnly {r r' : EventRing} {t : Ticket} {arrivalFirst : Bool} {reply : FetchReply}
    (h : r.resume t arrivalFirst = (reply, r')) : r.LineOnly r' := by
  have he : r' = (r.resume t arrivalFirst).2 := (congrArg Prod.snd h).symm
  rw [he]
  unfold resume
  split
  · exact ⟨_, rfl⟩
  · rename_i w _
    split
    · obtain ⟨line, hl⟩ := lookOrWait_lineOnly { r with line := r.line.leave t } t w.cursor
      exact ⟨line, hl⟩
    · split <;> exact ⟨_, rfl⟩

/-- Whoever waits goes on waiting, at the same cursor. If nothing woke it, nothing was stored. -/
structure Stirred (r r' : EventRing) : Prop where
  nobody : r.line.waiters = [] → r'.line.waiters = []
  one : ∀ {w}, r.line.waiters = [w] → ∃ w', r'.line.waiters = [w'] ∧ w'.ticket = w.ticket ∧ w'.cursor = w.cursor ∧
    (w'.woken = false → w.woken = false ∧ r'.slots = r.slots)

theorem Stirred.refl (r : EventRing) : r.Stirred r := ⟨id, fun h => ⟨_, h, rfl, rfl, fun hw => ⟨hw, rfl⟩⟩⟩

theorem interrupt_stirred (r : EventRing) : r.Stirred r.interrupt where
  nobody h := WaitLine.interrupt_nil h
  one {w} h := ⟨{ w with interrupted := true }, WaitLine.interrupt_one h, rfl, rfl, fun hw => ⟨hw, rfl⟩⟩

theorem woken_stirred (r : EventRing) {r' : EventRing} (h : r'.line = r.line.wake) : r.Stirred r' where
  nobody hn := by rw [h, WaitLine.wake_waiters, hn, List.map_nil]
  one {w} ho := ⟨{ w with woken := true }, by rw [h, WaitLine.wake_waiters, ho, List.map_singleton], rfl, rfl, nofun⟩

end EventRing

end EventRelay
