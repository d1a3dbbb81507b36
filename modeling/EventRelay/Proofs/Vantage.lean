import EventRelay.Proofs.Frame

namespace EventRelay

/-- Marked places of two lists, with as many marked ones before the one as before the other. -/
structure Twin (marks marks' : List Bool) (i j : Nat) : Prop where
  left : marks[i]? = some true
  right : marks'[j]? = some true
  rank : (marks.take i).count true = (marks'.take j).count true

theorem count_take_lt {marks : List Bool} {i j : Nat} (marked : marks[i]? = some true) (lt : i < j) :
    (marks.take i).count true < (marks.take j).count true := by
  have next : (marks.take (i + 1)).count true = (marks.take i).count true + 1 := by
    simp [List.take_add_one, marked]
  have le : (marks.take (i + 1)).count true ≤ (marks.take j).count true :=
    (List.take_sublist_take_left lt).count_le true
  omega

theorem exists_marked {marks : List Bool} {k : Nat} (hk : k < marks.count true) :
    ∃ i, marks[i]? = some true ∧ (marks.take i).count true = k := by
  induction marks generalizing k with
  | nil => simp at hk
  | cons mark rest ih =>
    cases mark with
    | false =>
      obtain ⟨i, marked, rank⟩ := ih (by simpa using hk)
      exact ⟨i + 1, by simpa using marked, by simpa using rank⟩
    | true =>
      cases k with
      | zero => exact ⟨0, rfl, rfl⟩
      | succ k =>
        obtain ⟨i, marked, rank⟩ := ih (by simpa using hk)
        exact ⟨i + 1, by simpa using marked, by simpa using rank⟩

namespace Twin

variable {marks marks' : List Bool} {i j i' j' : Nat}

theorem symm (h : Twin marks marks' i j) : Twin marks' marks j i := ⟨h.right, h.left, h.rank.symm⟩

theorem lt_of_lt (h : Twin marks marks' i j) (h' : Twin marks marks' i' j') (lt : i < i') : j < j' := by
  refine Nat.lt_of_not_le fun le => ?_
  have less := count_take_lt h.left lt
  have more := (List.take_sublist_take_left (l := marks') le).count_le true
  rw [h.rank, h'.rank] at less
  omega

theorem extend (h : Twin marks marks' i j) (more more' : List Bool) : Twin (marks ++ more) (marks' ++ more') i j := by
  have hi : i < marks.length := (List.getElem?_eq_some_iff.mp h.left).1
  have hj : j < marks'.length := (List.getElem?_eq_some_iff.mp h.right).1
  refine ⟨?_, ?_, ?_⟩
  · rw [List.getElem?_append_left hi]
    exact h.left
  · rw [List.getElem?_append_left hj]
    exact h.right
  · rw [List.take_append_of_le_length (Nat.le_of_lt hi), List.take_append_of_le_length (Nat.le_of_lt hj)]
    exact h.rank

theorem last (same : marks.count true = marks'.count true) :
    Twin (marks ++ [true]) (marks' ++ [true]) marks.length marks'.length :=
  ⟨by simp, by simp, by simpa using same⟩

theorem exists_right (same : marks.count true = marks'.count true) (marked : marks[i]? = some true) :
    ∃ j, Twin marks marks' i j := by
  have inside : i < marks.length := (List.getElem?_eq_some_iff.mp marked).1
  have rank := count_take_lt marked inside
  rw [List.take_length, same] at rank
  obtain ⟨j, marked', he⟩ := exists_marked rank
  exact ⟨j, marked, marked', he.symm⟩

end Twin

section Filtered

variable {α : Type} {p : α → Bool}

theorem countP_take (xs : List α) (i : Nat) : (xs.take i).countP p = ((xs.map p).take i).count true := by
  rw [← List.map_take, List.count_eq_countP, List.countP_map]
  apply List.countP_congr
  simp

theorem filter_getElem? {xs : List α} {i : Nat} {x : α} (h : xs[i]? = some x) (hp : p x = true) :
    (xs.filter p)[(xs.take i).countP p]? = some x := by
  induction xs generalizing i with
  | nil => simp at h
  | cons y rest ih =>
    cases i with
    | zero =>
      obtain rfl : y = x := by simpa using h
      simp [hp]
    | succ i =>
      have later := ih (by simpa using h)
      cases hy : p y <;> simp [hy, later]

theorem filter_modify {xs : List α} {i : Nat} {x : α} {f : α → α} (h : xs[i]? = some x) (hp : p x = true)
    (hf : p (f x) = true) : (xs.modify i f).filter p = (xs.filter p).set ((xs.take i).countP p) (f x) := by
  induction xs generalizing i with
  | nil => simp at h
  | cons y rest ih =>
    cases i with
    | zero =>
      obtain rfl : y = x := by simpa using h
      simp [hp, hf]
    | succ i =>
      have later := ih (by simpa using h)
      cases hy : p y <;> simp [hy, later]

theorem filter_modify_of_not {xs : List α} {i : Nat} {x : α} {f : α → α} (h : xs[i]? = some x) (hp : p x = false)
    (hf : p (f x) = false) : (xs.modify i f).filter p = xs.filter p := by
  induction xs generalizing i with
  | nil => simp at h
  | cons y rest ih =>
    cases i with
    | zero =>
      obtain rfl : y = x := by simpa using h
      simp [hp, hf]
    | succ i =>
      have later := ih (by simpa using h)
      cases hy : p y <;> simp [hy, later]

theorem map_modify_of_same {β : Type} {g : α → β} {xs : List α} {i : Nat} {f : α → α}
    (h : ∀ x, xs[i]? = some x → g (f x) = g x) : (xs.modify i f).map g = xs.map g := by
  apply List.ext_getElem?
  intro j
  simp only [List.getElem?_map, List.getElem?_modify]
  by_cases he : i = j
  · subst he
    cases hx : xs[i]? with
    | none => simp
    | some x => simp [h x hx]
  · simp [he]

end Filtered

/-- The same subscriber, whoever brought its events and whoever serves it. -/
structure Subscriber.Resembles (s s' : Subscriber) : Prop where
  handler : s.handler = s'.handler
  reactions : s.reactions = s'.reactions
  events : s.pending.map Delivery.event = s'.pending.map Delivery.event
  served : s.isServed = s'.isServed
  permits : s.permits = s'.permits
  tally : s.tally = s'.tally

theorem Subscriber.Resembles.symm {s s' : Subscriber} (h : s.Resembles s') : s'.Resembles s :=
  ⟨h.handler.symm, h.reactions.symm, h.events.symm, h.served.symm, h.permits.symm, h.tally.symm⟩

/-- A vantage point, from which the business of one subscriber is not seen, nor what a source and a poller waiting there
do between themselves. The source is seen through `mask`. -/
structure Vantage (σ : Type) [EventSource σ] where
  hidden : Option SubId
  watchesFetches : Bool
  mask : σ → σ
  name : ∀ {s s'}, mask s = mask s' → EventSource.name s = EventSource.name s'
  interrupt : ∀ {s s'}, mask s = mask s' → mask (EventSource.interrupt s) = mask (EventSource.interrupt s')
  close : ∀ {s s'}, mask s = mask s' → mask (EventSource.close s) = mask (EventSource.close s')
  push : ∀ {s s'} items, mask s = mask s' → mask (EventSource.push s items) = mask (EventSource.push s' items)
  refused : ∀ {s s' now e cause}, mask s = mask s' → EventSource.post s now e = .error cause →
    EventSource.post s' now e = .error cause
  posted : ∀ {s s' now e index t}, mask s = mask s' → EventSource.post s now e = .ok (index, t) →
    ∃ t', EventSource.post s' now e = .ok (index, t') ∧ mask t = mask t'

/-- What is seen of a fact. -/
inductive Sight
  | entered (sub : SubId) (event : Event)
  | completed (sub : SubId) (event : Event)
  | replied (sub : SubId) (call : Call) (reply : Reply)
  | began (cursor : Cursor)
  | fetched (index : Nat)
  | told (body : NoticeBody)

namespace Vantage

variable {σ : Type} [EventSource σ] (v : Vantage σ)

def hides (sub : SubId) : Bool := v.hidden == some sub

/-- The workers of the hidden subscriber are not seen. -/
def shows : Work → Bool
  | .worker sub _ => !v.hides sub
  | _ => true

/-- What a task is seen to be at. -/
def work : Work → Work
  | .worker sub (.inside d) => .worker sub (.inside { d with carrier := 0 })
  | .poller failures (.fetching token ticket) =>
    if v.watchesFetches then .poller failures (.fetching token ticket) else .poller failures .ready
  | w => w

def marks (tasks : Table Task) : List Bool := tasks.rows.map (fun t => v.shows t.work)

def rows (tasks : Table Task) : List (Work × Option Ending) :=
  (tasks.rows.filter (fun t => v.shows t.work)).map (fun t => (v.work t.work, t.ending))

/-- What is seen of a relay, apart from its slot, its subscribers, its tasks and its past. -/
def frame (r : Relay σ) : Relay σ :=
  { r with
    source := v.mask r.source
    slot := none
    subscribers := .empty
    tasks := .empty
    bus := ⟨0, 0, [], [], 0, 0⟩
    choices := if v.watchesFetches then r.choices else 0
    past := [] }

/-- What the frame leaves out. -/
def contents (r : Relay σ) : Option PollerSlot × Table Subscriber × Table Task × List Occurrence :=
  (r.slot, r.subscribers, r.tasks, r.past)

/-- Subscribers that look alike. One that is hidden makes no requests. -/
def Peers (sub : SubId) (s s' : Subscriber) : Prop :=
  if v.hides sub then s.reactions = [] ∧ s'.reactions = [] else s.Resembles s'

def sight? : Occurrence → Option Sight
  | .entered party d => if v.hides party.id then none else some (.entered party.id d.event)
  | .completed party d => if v.hides party.id then none else some (.completed party.id d.event)
  | .reacted party (.call c) reply => if v.hides party.id then none else some (.replied party.id c reply)
  | .fetchStarted _ cursor => if v.watchesFetches then some (.began cursor) else none
  | .resultTaken _ (.fetched f) => some (.fetched f.index)
  | .fetchFailed task source fault failures delay =>
    (Occurrence.notice? (.fetchFailed task source fault failures delay)).map .told
  | .eventsSkipped event index count => (Occurrence.notice? (.eventsSkipped event index count)).map .told
  | _ => none

def sights (r : Relay σ) : List Sight := r.past.filterMap v.sight?

def Twins (r r' : Relay σ) (i j : TaskId) : Prop := Twin (v.marks r.tasks) (v.marks r'.tasks) i j

/-- Relays that look alike; `pairs` are tasks of the one and the other that are the same task. -/
structure Alike (pairs : TaskId → TaskId → Prop) (r r' : Relay σ) : Prop where
  frame : v.frame r = v.frame r'
  slot : Option.Rel (fun s s' => s.token = s'.token ∧ v.Twins r r' s.task s'.task) r.slot r'.slot
  subscribers : ∀ sub, Option.Rel (v.Peers sub) (r.subscribers.get? sub) (r'.subscribers.get? sub)
  rows : v.rows r.tasks = v.rows r'.tasks
  pairs : ∀ {i j}, pairs i j → v.Twins r r' i j
  sights : v.sights r = v.sights r'

variable {v} {tasks tasks' : Table Task} {i j : TaskId} {t t' : Task}

theorem Peers.symm {sub : SubId} {s s' : Subscriber} (h : v.Peers sub s s') : v.Peers sub s' s := by
  unfold Peers at h ⊢
  split
  · rename_i hidden
    rw [if_pos hidden] at h
    exact h.symm
  · rename_i seen
    rw [if_neg seen] at h
    exact h.symm

theorem count_marks : (v.marks tasks).count true = (v.rows tasks).length := by
  unfold marks rows
  rw [List.length_map, List.count_eq_countP, List.countP_map, List.countP_eq_length_filter]
  simp [Function.comp_def]

theorem marks_add (tasks : Table Task) (t : Task) : v.marks (tasks.add t) = v.marks tasks ++ [v.shows t.work] := by
  simp [marks, Table.add]

theorem rows_add (shown : v.shows t.work = true) :
    v.rows (tasks.add t) = v.rows tasks ++ [(v.work t.work, t.ending)] := by
  simp [rows, Table.add, shown]

theorem rows_add_of_not (unseen : v.shows t.work = false) : v.rows (tasks.add t) = v.rows tasks := by
  simp [rows, Table.add, unseen]

theorem marks_get? (ht : tasks.get? i = some t) : (v.marks tasks)[i]? = some (v.shows t.work) := by
  unfold Table.get? at ht
  simp [marks, ht]

theorem rows_get? (ht : tasks.get? i = some t) (shown : v.shows t.work = true) :
    (v.rows tasks)[((v.marks tasks).take i).count true]? = some (v.work t.work, t.ending) := by
  unfold rows marks
  rw [← countP_take, List.getElem?_map, filter_getElem? ht shown]
  rfl

theorem marks_update (ht : tasks.get? i = some t) {f : Task → Task} (same : v.shows (f t).work = v.shows t.work) :
    v.marks (tasks.update i f) = v.marks tasks := by
  apply map_modify_of_same
  intro u hu
  cases ht.symm.trans hu
  exact same

theorem rows_update (ht : tasks.get? i = some t) {f : Task → Task} (shown : v.shows t.work = true)
    (shown' : v.shows (f t).work = true) : v.rows (tasks.update i f) =
      (v.rows tasks).set (((v.marks tasks).take i).count true) (v.work (f t).work, (f t).ending) := by
  unfold rows marks
  rw [← countP_take, Table.update, filter_modify ht shown shown', List.map_set]

theorem rows_update_of_not (ht : tasks.get? i = some t) {f : Task → Task} (unseen : v.shows t.work = false)
    (unseen' : v.shows (f t).work = false) : v.rows (tasks.update i f) = v.rows tasks := by
  unfold rows
  rw [Table.update, filter_modify_of_not ht unseen unseen']

end Vantage

end EventRelay
