import EventRelay.Proofs.Facts
import EventRelay.Proofs.Flow
import EventRelay.Proofs.Waiting

namespace EventRelay

namespace Occurrence

def postTime? : Occurrence → Option Instant
  | .posted _ time _ => some time
  | _ => none

def startTime? : Occurrence → Option Instant
  | .pollerStarted _ _ time => some time
  | _ => none

/-- The reading of the clock that a fact tells of. -/
def reading? (o : Occurrence) : Option Instant := o.postTime?.or o.startTime?

/-- A post reads a clock no earlier than any reading before it, and a poller starts at a reading later than every
earlier post. -/
def isTimely (earlier : List Occurrence) (o : Occurrence) : Bool :=
  o.postTime?.all (fun time => earlier.all fun p => p.reading?.all (fun t => decide (t ≤ time))) &&
  o.startTime?.all (fun time => earlier.all fun p => p.postTime?.all (fun t => decide (t < time)))

/-- The clock served all along. The latest fact comes first. -/
def areTimely : List Occurrence → Bool
  | [] => true
  | o :: earlier => o.isTimely earlier && areTimely earlier

theorem areTimely_suffix {earlier facts : List Occurrence} (h : earlier <:+ facts) (ht : areTimely facts = true) :
    areTimely earlier = true := by
  obtain ⟨news, rfl⟩ := h
  induction news with
  | nil => exact ht
  | cons o rest ih => exact ih (Bool.and_eq_true_iff.mp ht).2

theorem areTimely_posted {earlier : List Occurrence} {i j : Nat} {t u : Instant} {e g : Event}
    (h : areTimely (.posted i t e :: earlier) = true) (hm : .posted j u g ∈ earlier) : u ≤ t := by
  have timely := (Bool.and_eq_true_iff.mp (Bool.and_eq_true_iff.mp h).1).1
  have all := List.all_eq_true.mp timely _ hm
  exact of_decide_eq_true all

theorem areTimely_started {earlier : List Occurrence} {source : String} {task : TaskId} {j : Nat} {t u : Instant}
    {g : Event} (h : areTimely (.pollerStarted source task t :: earlier) = true) (hm : .posted j u g ∈ earlier) :
    u < t := by
  have timely := (Bool.and_eq_true_iff.mp (Bool.and_eq_true_iff.mp h).1).2
  have all := List.all_eq_true.mp timely _ hm
  exact of_decide_eq_true all

end Occurrence

/-- The ring and the facts agree on what was posted, and later posts have later times. -/
structure Recorded (ring : EventRing) (past : List Occurrence) : Prop where
  stored : ∀ {s}, s ∈ ring.slots → .posted s.index s.time s.event ∈ past
  numbered : ∀ {i t e}, .posted i t e ∈ past → i < ring.next
  ordered : ∀ {i t e j u g}, .posted i t e ∈ past → .posted j u g ∈ past → i < j → t ≤ u
  unique : ∀ {i t e u g}, .posted i t e ∈ past → .posted i u g ∈ past → t = u ∧ e = g

theorem Recorded.same {ring ring' : EventRing} {past past' : List Occurrence} (h : Recorded ring past)
    (slots : ring'.slots = ring.slots) (next : ring'.next = ring.next) (older : past <:+ past')
    (posts : ∀ {i t e}, .posted i t e ∈ past' → .posted i t e ∈ past) : Recorded ring' past' where
  stored hs := older.subset (h.stored (slots ▸ hs))
  numbered hm := next ▸ h.numbered (posts hm)
  ordered hm hn hlt := h.ordered (posts hm) (posts hn) hlt
  unique hm hn := h.unique (posts hm) (posts hn)

/-- An accepted post is the latest one, in its index and in its time. -/
theorem Recorded.store {ring : EventRing} {past : List Occurrence} (h : Recorded ring past) {now : Instant}
    {event : Event} (latest : ∀ {j u g}, .posted j u g ∈ past → u ≤ now) :
    Recorded (ring.store now event) (.posted ring.next now event :: past) where
  stored hs := by
    rcases EventRing.mem_store hs with ho | rfl
    · exact List.mem_cons_of_mem _ (h.stored ho)
    · exact List.mem_cons_self
  numbered hm := by
    rcases List.mem_cons.mp hm with he | ho
    · cases he
      exact Nat.lt_succ_self _
    · exact Nat.lt_succ_of_lt (h.numbered ho)
  ordered {i t e j u g} hm hn hlt := by
    rcases List.mem_cons.mp hn with he | hn
    · cases he
      rcases List.mem_cons.mp hm with he | hm
      · cases he
        exact Nat.le_refl _
      · exact latest hm
    · rcases List.mem_cons.mp hm with he | hm
      · cases he
        exact absurd (Nat.lt_trans hlt (h.numbered hn)) (Nat.lt_irrefl _)
      · exact h.ordered hm hn hlt
  unique hm hn := by
    rcases List.mem_cons.mp hm with he | hm
    · cases he
      rcases List.mem_cons.mp hn with he | hn
      · cases he
        exact ⟨rfl, rfl⟩
      · exact absurd (h.numbered hn) (Nat.lt_irrefl _)
    · rcases List.mem_cons.mp hn with he | hn
      · cases he
        exact absurd (h.numbered hm) (Nat.lt_irrefl _)
      · exact h.unique hm hn

/-- The event is not past the cursor, unless the cursor is unset. -/
def Cursor.Behind (c : Cursor) (time : Instant) (index : Nat) : Prop :=
  c.since ≠ none → c.precedes time index = false

/-- The first event comes under an index below that of the second. -/
def Delivery.Before (a b : Delivery) : Prop :=
  ∃ i j, a.event.index = some i ∧ b.event.index = some j ∧ i < j

/-- What is behind the cursor was stored before what is past it. -/
theorem Recorded.before {ring : EventRing} {past : List Occurrence} (h : Recorded ring past) {c : Cursor}
    (stamped : c.since ≠ none) {s : Stored} (hold : ring.Holds c s) {i : Nat} {t : Instant} {e : Event}
    (hm : .posted i t e ∈ past) (behind : c.Behind t i) : i < s.index := by
  have posted := h.stored hold.1
  obtain ⟨since, last⟩ := Cursor.precedes_iff.mp hold.2
  have out : ¬ c.precedes t i = true := by
    rw [behind stamped]
    exact Bool.false_ne_true
  rcases Nat.lt_trichotomy i s.index with hlt | he | hgt
  · exact hlt
  · obtain ⟨rfl, -⟩ := h.unique (he ▸ hm) posted
    rw [he] at out
    exact absurd hold.2 out
  · -- a later index means a later time, so this would be past the cursor too
    have later := h.ordered posted hm hgt
    refine absurd (Cursor.precedes_iff.mpr ⟨fun a ha => ?_, fun l hl => ?_⟩) out
    · exact Nat.le_trans (since a ha) later
    · exact Nat.lt_trans (last l hl) hgt

namespace Relay

variable {σ : Type}

/-- The task that put the event into the queue is a poller. -/
def isPolled (r : Relay σ) (d : Delivery) : Bool := (r.tasks.get? d.carrier).any Task.isPoller

/-- The events in the flow of a subscriber that a poller put there. -/
def polled (r : Relay σ) (sub : SubId) : List Delivery := (r.flow sub).filter r.isPolled

/-- Every event in a flow was put there by a task. -/
def Carried (r : Relay σ) : Prop := ∀ sub, ∀ d ∈ r.flow sub, ∃ t, r.tasks.get? d.carrier = some t

theorem isPolled_eq {r r' : Relay σ} {t : Task} {d : Delivery} (ht : r.tasks.get? d.carrier = some t)
    (kinds : ∃ t', r'.tasks.get? d.carrier = some t' ∧ t'.isPoller = t.isPoller) : r'.isPolled d = r.isPolled d := by
  obtain ⟨t', ht', he⟩ := kinds
  simp [isPolled, ht, ht', he]

theorem Steady.carried {r r' : Relay σ} (h : r.Steady r') (hc : r.Carried) : r'.Carried := by
  intro sub d hd
  obtain ⟨t, ht⟩ := hc sub d ((h.flow sub).subset hd)
  obtain ⟨t', ht', -⟩ := h.kinds ht
  exact ⟨t', ht'⟩

theorem Steady.polled {r r' : Relay σ} (h : r.Steady r') (hc : r.Carried) (sub : SubId) :
    (r'.polled sub).Sublist (r.polled sub) := by
  have same : (r.flow sub).filter r'.isPolled = r.polled sub := by
    apply List.filter_congr
    intro d hd
    obtain ⟨t, ht⟩ := hc sub d hd
    exact isPolled_eq ht (h.kinds ht)
  exact same ▸ (h.flow sub).filter _

theorem Gained.carried {r r' : Relay σ} {targets : List SubId} {d : Delivery} (h : r.Gained r' targets d)
    (hc : r.Carried) {t : Task} (ht : r.tasks.get? d.carrier = some t) : r'.Carried := by
  intro sub x hx
  obtain ⟨k, -, hs⟩ := h.flow sub
  have row : ∃ t, r.tasks.get? x.carrier = some t := by
    rcases List.mem_append.mp (hs.subset hx) with ho | hn
    · exact hc sub x ho
    · rw [(List.mem_replicate.mp hn).2]
      exact ⟨t, ht⟩
  obtain ⟨t, ht⟩ := row
  obtain ⟨t', ht', -⟩ := h.kinds ht
  exact ⟨t', ht'⟩

/-- What a poller hands over comes at the end of what pollers have handed over. -/
theorem Gained.polled {r r' : Relay σ} {targets : List SubId} {d : Delivery} (h : r.Gained r' targets d)
    (hc : r.Carried) {t : Task} (ht : r.tasks.get? d.carrier = some t) (sub : SubId) :
    ∃ k, k ≤ targets.count sub ∧
      (r'.polled sub).Sublist (r.polled sub ++ if t.isPoller then List.replicate k d else []) := by
  obtain ⟨k, hk, hs⟩ := h.flow sub
  refine ⟨k, hk, ?_⟩
  have old : (r.flow sub).filter r'.isPolled = r.polled sub := by
    apply List.filter_congr
    intro x hx
    obtain ⟨u, hu⟩ := hc sub x hx
    exact isPolled_eq hu (h.kinds hu)
  have kind : r'.isPolled d = t.isPoller := by
    rw [isPolled_eq ht (h.kinds ht)]
    simp [isPolled, ht]
  have new : (List.replicate k d).filter r'.isPolled = if t.isPoller then List.replicate k d else [] := by
    rw [List.filter_replicate, kind]
  have both := hs.filter r'.isPolled
  rw [List.filter_append, old, new] at both
  exact both

/-- The cursor stayed, was reset, or was stamped as a poller started. -/
inductive CursorStep (r r' : Relay σ) : Prop
  | stayed (same : r'.cursor = r.cursor) : CursorStep r r'
  | reset (unset : r'.cursor = .unset) : CursorStep r r'
  | stamped {source : String} {task : TaskId} {now : Instant} {earlier : List Occurrence}
      (since : r'.cursor.since = some now) (past : r'.past = .pollerStarted source task now :: earlier)
      (before : r.past <:+ earlier) : CursorStep r r'

/-- A poller starts later than every post so far, so all of them stay behind the cursor. -/
theorem CursorStep.behind {r r' : Relay σ} (h : r.CursorStep r') (timely : Occurrence.areTimely r'.past = true)
    {i : Nat} {t : Instant} {e : Event} (hm : .posted i t e ∈ r.past) (behind : r.cursor.Behind t i) :
    r'.cursor.Behind t i := by
  cases h with
  | stayed same => exact same ▸ behind
  | reset unset =>
    intro stamped
    rw [unset] at stamped
    exact absurd rfl stamped
  | stamped since past before =>
    intro _
    rw [past] at timely
    have earlier := Occurrence.areTimely_started timely (before.subset hm)
    apply Bool.eq_false_iff.mpr
    intro hp
    have later := (Cursor.precedes_iff.mp hp).1 _ since
    exact absurd earlier (Nat.not_lt.mpr later)

theorem CursorStep.follows {r r' r'' : Relay σ} (h : r'.CursorStep r'') (same : r'.cursor = r.cursor)
    (older : r.past <:+ r'.past) : r.CursorStep r'' := by
  cases h with
  | stayed he => exact .stayed (he.trans same)
  | reset unset => exact .reset unset
  | stamped since past before => exact .stamped since past (older.trans before)

theorem Alignment.cursorStep [EventSource σ] {r r' : Relay σ} (ht : r.Tracked) (hc : r.hasController = true)
    (h : r.Alignment r') : r.CursorStep r' := by
  cases h with
  | resting | stopping | running | stopped | revived => exact .stayed rfl
  | started hs =>
    have unset := ht.unset hc hs
    refine .stamped ?_ (startPoller_past r) (List.suffix_cons _ _)
    change (r.cursor.stamp r.readClock.1).since = _
    rw [unset]
    rfl
  | buried => exact .reset rfl
  | @replaced s hs =>
    obtain ⟨since, hsince⟩ := Option.isSome_iff_exists.mp (ht.since hs)
    apply CursorStep.stayed
    change r.cursor.stamp _ = r.cursor
    exact Cursor.ext (by simp [Cursor.stamp, hsince]) rfl

/-- What pollers have handed to a subscriber comes in the order of the posts, and each event was posted under its
index and is behind the cursor now. -/
structure Delivered (r : Relay EventRing) : Prop where
  recorded : Recorded r.source r.past
  ascending : ∀ sub, (r.polled sub).Pairwise Delivery.Before
  genuine : ∀ {sub d}, d ∈ r.polled sub →
    ∃ i t e, .posted i t e ∈ r.past ∧ d.event = e.indexed i ∧ r.cursor.Behind t i

theorem Delivered.calm {r r' : Relay EventRing} (h : r.Delivered) (hc : r.Carried) (calm : r.Calm r')
    (slots : r'.source.slots = r.source.slots) (next : r'.source.next = r.source.next) (cursor : r.CursorStep r')
    (timely : Occurrence.areTimely r'.past = true) : r'.Delivered where
  recorded := h.recorded.same slots next calm.past calm.posts
  ascending sub := (h.ascending sub).sublist (calm.toSteady.polled hc sub)
  genuine hd := by
    obtain ⟨i, t, e, hm, he, hb⟩ := h.genuine ((calm.toSteady.polled hc _).subset hd)
    exact ⟨i, t, e, calm.past.subset hm, he, cursor.behind timely hm hb⟩

theorem Delivered.post {r r' : Relay EventRing} (h : r.Delivered) (hc : r.Carried) {index : Nat} {event : Event}
    (accepted : r.postToSource event = .ok (index, r')) (timely : Occurrence.areTimely r'.past = true) :
    r'.Delivered := by
  have steady := postToSource_steady accepted
  obtain ⟨source, hp, rfl⟩ := postToSource_ok accepted
  obtain ⟨rfl, rfl, -⟩ := EventRing.post_ok hp
  refine ⟨h.recorded.store (Occurrence.areTimely_posted timely),
    fun sub => (h.ascending sub).sublist (steady.polled hc sub), fun hd => ?_⟩
  obtain ⟨i, t, e, hm, he, hb⟩ := h.genuine ((steady.polled hc _).subset hd)
  exact ⟨i, t, e, List.mem_cons_of_mem _ hm, he, hb⟩

/-- The next event past the cursor comes after all that were handed over before. -/
theorem Delivered.pass {r r' : Relay EventRing} (h : r.Delivered) (hc : r.Carried) {s : Stored}
    (hold : r.source.Holds r.cursor s) (stamped : r.cursor.since ≠ none) {id : TaskId} {targets : List SubId}
    (gained : r.Gained r' targets ⟨s.event.indexed s.index, id⟩) (once : targets.Nodup) {t : Task}
    (ht : r.tasks.get? id = some t) (slots : r'.source.slots = r.source.slots)
    (next : r'.source.next = r.source.next) (cursor : r'.cursor = r.cursor.moveTo s.index) : r'.Delivered := by
  have longer : ∀ sub, (r'.polled sub).Sublist (r.polled sub ++ [⟨s.event.indexed s.index, id⟩]) := by
    intro sub
    obtain ⟨k, hk, hs⟩ := gained.polled hc ht sub
    have few : k ≤ 1 := Nat.le_trans hk (List.nodup_iff_count.mp once sub)
    refine hs.trans (List.Sublist.append (List.Sublist.refl _) ?_)
    split
    · exact (List.replicate_sublist_replicate _).mpr few
    · exact List.nil_sublist _
  have lower : ∀ {sub d}, d ∈ r.polled sub →
      ∃ i t e, .posted i t e ∈ r.past ∧ d.event = e.indexed i ∧ i < s.index := by
    intro sub d hd
    obtain ⟨i, t, e, hm, he, hb⟩ := h.genuine hd
    exact ⟨i, t, e, hm, he, h.recorded.before stamped hold hm hb⟩
  have behind : ∀ {t i}, i ≤ s.index → r'.cursor.Behind t i := by
    intro t i hi _
    apply Bool.eq_false_iff.mpr
    intro hp
    rw [cursor] at hp
    exact absurd ((Cursor.precedes_iff.mp hp).2 s.index rfl) (Nat.not_lt.mpr hi)
  refine ⟨h.recorded.same slots next gained.past gained.posts, fun sub => ?_, fun {sub d} hd => ?_⟩
  · refine List.Pairwise.sublist (longer sub) (List.pairwise_append.mpr ⟨h.ascending sub, by simp, fun a ha b hb => ?_⟩)
    obtain ⟨i, t, e, -, he, hi⟩ := lower ha
    rw [List.mem_singleton.mp hb]
    exact ⟨i, s.index, by rw [he]; rfl, rfl, hi⟩
  · rcases List.mem_append.mp ((longer sub).subset hd) with ho | hn
    · obtain ⟨i, t, e, hm, he, hi⟩ := lower ho
      exact ⟨i, t, e, gained.past.subset hm, he, behind (Nat.le_of_lt hi)⟩
    · rw [List.mem_singleton.mp hn]
      exact ⟨s.index, s.time, s.event, gained.past.subset (h.recorded.stored hold.1), rfl, behind (Nat.le_refl _)⟩

/-- What is fired past the source counts for nothing here. -/
theorem Delivered.fire {r r' : Relay EventRing} (h : r.Delivered) (hc : r.Carried) {targets : List SubId}
    {d : Delivery} (gained : r.Gained r' targets d) {t : Task} (ht : r.tasks.get? d.carrier = some t)
    (other : t.isPoller = false) (same : r'.source = r.source) (cursor : r'.cursor = r.cursor) : r'.Delivered := by
  have shorter : ∀ sub, (r'.polled sub).Sublist (r.polled sub) := by
    intro sub
    obtain ⟨k, -, hs⟩ := gained.polled hc ht sub
    rw [other] at hs
    simpa using hs
  refine ⟨h.recorded.same (by rw [same]) (by rw [same]) gained.past gained.posts,
    fun sub => (h.ascending sub).sublist (shorter sub), fun hd => ?_⟩
  obtain ⟨i, t, e, hm, he, hb⟩ := h.genuine ((shorter _).subset hd)
  exact ⟨i, t, e, gained.past.subset hm, he, cursor ▸ hb⟩

theorem Deed.cursorStep [EventSource σ] {r r' : Relay σ} (h : Deed r r') (ht : r.Tracked) : r.CursorStep r' := by
  rcases h.quiet with ⟨-, same⟩ | ⟨r₀, registry, hc, changed, rfl⟩
  · exact .stayed same
  · have step := (followRegistry_alignment r₀).cursorStep (ht.changed changed) (changed.hasController.trans hc)
    exact step.follows changed.aside.cursor changed.grown.past

theorem Act.cursorStep [EventSource σ] {r r' : Relay σ} (h : Act r r') (ht : r.Tracked) : r.CursorStep r' := by
  rcases h.still with hd | hs
  · exact hd.cursorStep ht
  · exact .stayed hs.cursor

/-- Only a post stores anything. -/
theorem Deed.slots {r r' : Relay EventRing} (h : Deed r r') :
    (r'.source.slots = r.source.slots ∧ r'.source.next = r.source.next) ∨
      ∃ index event, r.postToSource event = .ok (index, r') := by
  cases h with
  | told | interrupted | permitted | closed | pushed | slept | observed | cloned | dropped => exact .inl ⟨rfl, rfl⟩
  | discarded reason sub =>
    rw [(discardPending_aside r reason sub).source]
    exact .inl ⟨rfl, rfl⟩
  | fired event _ =>
    rw [(fireEvent_aside r event).source]
    exact .inl ⟨rfl, rfl⟩
  | posted accepted => exact .inr ⟨_, _, accepted⟩
  | @aligned r₀ _ _ _ changed =>
    obtain ⟨line, he⟩ := (followRegistry_alignment r₀).lineOnly
    rw [he, changed.aside.source]
    exact .inl ⟨rfl, rfl⟩
  | letGone _ =>
    left
    rw [letGo, (withRegistry_aside _ _).source]
    unfold abandonPoller
    split <;> exact ⟨rfl, rfl⟩

theorem Act.slots {r r' : Relay EventRing} (h : Act r r') :
    (r'.source.slots = r.source.slots ∧ r'.source.next = r.source.next) ∨
      ∃ index event, r.postToSource event = .ok (index, r') := by
  rcases h.still with hd | hs
  · exact hd.slots
  · rw [hs.source]
    exact .inl ⟨rfl, rfl⟩

/-- A fetched event is the first one that the ring holds past the controller's cursor. -/
theorem Consulted.fetched {r r₁ : Relay EventRing} {id : TaskId} {failures : Nat} {stage : PollerStage}
    {token : TokenId} {f : Fetched} (h : r.Consulted id stage token (.ready (.fetched f)) r₁) (hw : r.Waiting)
    (hc : r.hasController = true) (hp : r.PollerAt id failures stage) :
    ∃ s, r.source.Holds r.cursor s ∧ (∀ u, r.source.Holds r.cursor u → s.index ≤ u.index) ∧ f = s.fetched := by
  have found : ∀ {ring ring' : EventRing} {t}, ring.lookOrWait t r.cursor = (.ready (.fetched f), ring') →
      ring.slots = r.source.slots → r.source.find? r.cursor = some f := by
    intro ring ring' t answer slots
    have look := EventRing.lookOrWait_looked ring t r.cursor
    rw [answer] at look
    cases look with
    | found found => exact (EventRing.find?_congr slots _).symm.trans found
  apply EventRing.find?_eq_some
  cases h with
  | asked _ _ _ _ answer => exact found answer rfl
  | resumed _ awake answer =>
    obtain ⟨w, waiters, rfl, stands⟩ := hw.fetching hp
    rcases EventRing.resume_one waiters (r.surroundings.arrivalFirst r.choices) awake with he | he
    · rw [(stands hc).1] at he
      exact found (he.symm.trans answer) rfl
    · cases he.symm.trans answer

/-- A relay over a ring that is in order, and that delivers in order as long as the clock serves. -/
structure Routed (r : Relay EventRing) : Prop extends Orderly r where
  carried : r.Carried
  delivered : Occurrence.areTimely r.past = true → r.Delivered

/-- An act leaves the ring and the flows alone, or is a post. -/
theorem Act.stores {r r' : Relay EventRing} (h : Act r r') :
    (r.Calm r' ∧ r'.source.slots = r.source.slots ∧ r'.source.next = r.source.next) ∨
      ∃ index event, r.postToSource event = .ok (index, r') := by
  rcases h.calm with calm | posted
  · exact h.slots.imp_left fun same => ⟨calm, same⟩
  · exact .inr posted

theorem Act.routed {r r' : Relay EventRing} (h : Act r r') (hr : r.Routed) : r'.Routed := by
  have cursor := h.cursorStep hr.toTracked
  rcases h.stores with ⟨calm, slots, next⟩ | ⟨_, _, accepted⟩
  · refine ⟨h.orderly hr.toOrderly, calm.carried hr.carried, fun timely => ?_⟩
    exact (hr.delivered (Occurrence.areTimely_suffix calm.past timely)).calm hr.carried calm slots next cursor timely
  · have steady := postToSource_steady accepted
    refine ⟨h.orderly hr.toOrderly, steady.carried hr.carried, fun timely => ?_⟩
    exact (hr.delivered (Occurrence.areTimely_suffix steady.past timely)).post hr.carried accepted timely

/-- The poller passes on what the ring holds first past the cursor. -/
theorem pass_routed {r r₁ : Relay EventRing} (hr : r.Routed) {id : TaskId} {failures : Nat} {stage : PollerStage}
    (hp : r.PollerAt id failures stage) {token : TokenId} {f : Fetched}
    (consulted : r.Consulted id stage token (.ready (.fetched f)) r₁) (hc : r.hasController = true) :
    ∃ s : Stored, f = s.fetched ∧ r.Gained ((r₁.note (.resultTaken id (.fetched f))).passOn id f).2
      (r.registry.membersOf s.event.name) ⟨s.event.indexed s.index, id⟩ ∧
    (Occurrence.areTimely ((r₁.note (.resultTaken id (.fetched f))).passOn id f).2.past = true →
      ((r₁.note (.resultTaken id (.fetched f))).passOn id f).2.Delivered) := by
  obtain ⟨s, hold, -, rfl⟩ := consulted.fetched hr.toWaiting hc hp
  have same := consulted.sameControl
  have told : r.Calm (r₁.note (.resultTaken id (.fetched s.fetched))) := consulted.calm.trans (note_calm _ rfl)
  have poller : (r₁.note (.resultTaken id (.fetched s.fetched))).PollerAt id failures stage := same.pollerAt.mpr hp
  have gained := (told.gained [] _).trans (passOn_gained poller s.fetched)
  have members : (r₁.note (.resultTaken id (.fetched s.fetched))).registry.membersOf s.fetched.event.name =
      r.registry.membersOf s.event.name := by
    change r₁.registry.membersOf s.event.name = _
    rw [same.registry]
  rw [List.nil_append, members] at gained
  refine ⟨s, rfl, gained, fun timely => ?_⟩
  obtain ⟨token', hs⟩ := hr.current hc hp
  have stamped : r.cursor.since ≠ none := by
    intro unset
    have since := hr.since hs
    rw [unset] at since
    contradiction
  have kept := (passOn_leavesAlone (r₁.note (.resultTaken id (.fetched s.fetched))) id s.fetched).source
  have cursor : ((r₁.note (.resultTaken id (.fetched s.fetched))).passOn id s.fetched).2.cursor =
      r.cursor.moveTo s.index := by
    change (((r₁.note _).moveCursor s.fetched).handOut id s.fetched).cursor = _
    rw [(handOut_aside _ id s.fetched).cursor, (moveCursor_aside _ s.fetched).cursor]
    change r₁.cursor.moveTo s.index = _
    rw [same.cursor]
  obtain ⟨name, ht⟩ := hp
  refine (hr.delivered (Occurrence.areTimely_suffix gained.past timely)).pass hr.carried hold stamped gained
    (hr.proper.nodup s.event.name) ht ?_ ?_ cursor
  · rw [kept]
    exact consulted.lineOnly.slots
  · rw [kept]
    exact consulted.lineOnly.next

theorem pollerTurn_routed {r : Relay EventRing} (hr : r.Routed) {id : TaskId} {failures : Nat} {stage : PollerStage}
    (hp : r.PollerAt id failures stage) : (r.pollerTurn id failures stage).2.Routed := by
  have orderly := pollerTurn_orderly hr.toOrderly hp
  have turn := pollerTurn_step r id failures stage
  rcases turn.flow hp with ⟨token, f, r₁, consulted, hc, he⟩ | ⟨calm, cursor⟩
  · rw [consulted.sameControl.hasController] at hc
    obtain ⟨s, -, gained, delivered⟩ := pass_routed hr hp consulted hc
    rw [← he] at gained delivered
    obtain ⟨name, ht⟩ := hp
    exact ⟨orderly, gained.carried hr.carried ht, delivered⟩
  · obtain ⟨line, -, -⟩ := turn.leaves
    have step : r.CursorStep (r.pollerTurn id failures stage).2 := cursor.elim .stayed .reset
    refine ⟨orderly, calm.carried hr.carried, fun timely => ?_⟩
    exact (hr.delivered (Occurrence.areTimely_suffix calm.past timely)).calm hr.carried calm
      line.slots line.next step timely

theorem firingTurn_routed {r : Relay EventRing} (hr : r.Routed) {id : TaskId} {event : Event} {targets : List SubId}
    (hf : r.FiringAt id event targets) : (r.firingTurn id event targets).Routed := by
  have still := firingTurn_still hf
  have gained := firingTurn_gained hf
  obtain ⟨name, ht⟩ := hf
  refine ⟨hr.toOrderly.still still, gained.carried hr.carried ht, fun timely => ?_⟩
  exact (hr.delivered (Occurrence.areTimely_suffix gained.past timely)).fire hr.carried gained ht rfl still.source
    still.cursor

theorem routed_invariant : Invariant Routed :=
  ⟨Act.routed, fun hp hr => pollerTurn_routed hr hp, fun hf hr => firingTurn_routed hr hf⟩

theorem created_flow {source : σ} {r : Relay σ} (h : Created source r) (sub : SubId) : r.flow sub = [] := by
  obtain ⟨settings, surroundings, handlers, h⟩ := h
  obtain ⟨bus, -, rfl⟩ := Option.map_eq_some_iff.mp h
  change [] ++ (((handlers.map fun h => Subscriber.create h.1 h.2)[sub]?).map Subscriber.pending).getD [] = []
  rw [List.getElem?_map]
  cases handlers[sub]? <;> rfl

theorem created_routed {config : RingSize} {r : Relay EventRing} (h : Created (EventRing.create config) r) :
    r.Routed := by
  have orderly := created_orderly h
  have nothing := created_flow h
  have none : ∀ sub, r.polled sub = [] := fun sub => by rw [polled, nothing]; rfl
  refine ⟨orderly, fun sub d hd => ?_, fun _ => ⟨?_, fun sub => ?_, fun {sub d} hd => ?_⟩⟩
  · rw [nothing] at hd
    contradiction
  · obtain ⟨settings, surroundings, handlers, h⟩ := h
    obtain ⟨bus, -, rfl⟩ := Option.map_eq_some_iff.mp h
    exact ⟨fun hm => absurd hm List.not_mem_nil, fun hm => absurd hm List.not_mem_nil,
      fun hm => absurd hm List.not_mem_nil, fun hm => absurd hm List.not_mem_nil⟩
  · rw [none]
    exact .nil
  · rw [none] at hd
    contradiction

theorem follow_routed {config : RingSize} {start : Relay EventRing} (h : Created (EventRing.create config) start)
    (moves : List Move) : (start.follow moves).Routed :=
  follow_keeps routed_invariant.move (created_routed h) moves

/-- Only a step of the poller that carries an event brings it to a subscriber, and only to one that is registered
under its name. -/
theorem move_polled {r : Relay EventRing} (hr : r.Routed) {m : Move} {sub : SubId} {d : Delivery}
    (hd : d ∈ (r.move m).polled sub) :
    d ∈ r.polled sub ∨ (m = .turn d.carrier ∧ sub ∈ r.registry.membersOf d.event.name) := by
  rcases move_cases r m with acts | ⟨id, failures, stage, rfl, hp, he⟩ | ⟨id, event, targets, rfl, hf, he⟩
  · exact .inl ((acts.steady.polled hr.carried sub).subset hd)
  · rw [he] at hd
    rcases (pollerTurn_step r id failures stage).flow hp with ⟨token, f, r₁, consulted, hc, hturn⟩ | ⟨calm, -⟩
    · rw [consulted.sameControl.hasController] at hc
      obtain ⟨s, -, gained, -⟩ := pass_routed hr hp consulted hc
      rw [← hturn] at gained
      obtain ⟨name, ht⟩ := hp
      obtain ⟨k, hk, hs⟩ := gained.polled hr.carried ht sub
      rcases List.mem_append.mp (hs.subset hd) with ho | hn
      · exact .inl ho
      · obtain ⟨hne, rfl⟩ := List.mem_replicate.mp hn
        exact .inr ⟨rfl, List.count_pos_iff.mp (Nat.lt_of_lt_of_le (Nat.pos_of_ne_zero hne) hk)⟩
    · exact .inl ((calm.toSteady.polled hr.carried sub).subset hd)
  · rw [he] at hd
    have gained := firingTurn_gained hf
    obtain ⟨name, ht⟩ := hf
    obtain ⟨k, -, hs⟩ := gained.polled hr.carried ht sub
    have old := hs.subset hd
    rw [show Task.isPoller ⟨name, .firing event targets, none⟩ = false from rfl] at old
    simpa using Or.inl old

/-- An event in the flow of a subscriber came there in one step of the poller that carried it. -/
theorem polled_origin {config : RingSize} {start : Relay EventRing} (h : Created (EventRing.create config) start)
    {moves : List Move} {sub : SubId} {d : Delivery} (hd : d ∈ (start.follow moves).polled sub) :
    ∃ before after, moves = before ++ .turn d.carrier :: after ∧
      sub ∈ (start.follow before).registry.membersOf d.event.name ∧
      d ∉ (start.follow before).polled sub ∧ d ∈ (start.follow (before ++ [.turn d.carrier])).polled sub := by
  induction moves using List.reverseRecOn with
  | nil =>
    have none : start.polled sub = [] := by rw [polled, created_flow h]; rfl
    rw [show start.follow [] = start from rfl, none] at hd
    contradiction
  | append_singleton moves m ih =>
    by_cases old : d ∈ (start.follow moves).polled sub
    · obtain ⟨before, after, rfl, members, absent, present⟩ := ih old
      exact ⟨before, after ++ [m], by simp, members, absent, present⟩
    · have moved := hd
      rw [follow_concat] at moved
      rcases move_polled (follow_routed h moves) moved with ho | ⟨rfl, members⟩
      · exact absurd ho old
      · exact ⟨moves, [], rfl, members, old, hd⟩

/-- As long as the clock serves, the handler of a subscriber is given the events that the poller hands it in the order
of their indices, none twice, whatever else happens. Each is the one accepted post that was answered with its index,
and the poller handed it over in a step at which the subscriber was registered under its name. -/
theorem handler_enters_in_post_order {config : RingSize} {start : Relay EventRing}
    (h : Created (EventRing.create config) start) (moves : List Move)
    (timely : Occurrence.areTimely (start.follow moves).past = true) (sub : SubId) :
    (((start.follow moves).enteredBy sub).filter (start.follow moves).isPolled).Pairwise Delivery.Before ∧
    ∀ d ∈ ((start.follow moves).enteredBy sub).filter (start.follow moves).isPolled,
      (∃ i t e, .posted i t e ∈ (start.follow moves).past ∧ d.event = e.indexed i ∧
        ∀ u g, .posted i u g ∈ (start.follow moves).past → u = t ∧ g = e) ∧
      ∃ before after, moves = before ++ .turn d.carrier :: after ∧
        sub ∈ (start.follow before).registry.membersOf d.event.name ∧
        d ∉ (start.follow before).polled sub ∧ d ∈ (start.follow (before ++ [.turn d.carrier])).polled sub := by
  have delivered := (follow_routed h moves).delivered timely
  have entered : (((start.follow moves).enteredBy sub).filter (start.follow moves).isPolled).Sublist
      ((start.follow moves).polled sub) := (List.sublist_append_left _ _).filter _
  refine ⟨(delivered.ascending sub).sublist entered, fun d hd => ⟨?_, polled_origin h (entered.subset hd)⟩⟩
  obtain ⟨i, t, e, hm, he, -⟩ := delivered.genuine (entered.subset hd)
  exact ⟨i, t, e, hm, he, fun u g hg => delivered.recorded.unique hg hm⟩

/-- A poller is stopped and started again between two posts, and the second event is handed over alone. -/
theorem handler_enters_in_post_order_plain :
    let moves := [Move.request (.call (.add "a" 0)), .request (.call (.post (.named "a"))), .turn 0, .turn 1,
      .request (.call (.remove "a" 0)), .turn 0, .request (.call (.add "a" 0)),
      .request (.call (.post ((Event.named "a").carrying [7]))), .turn 2, .turn 1, .turn 3]
    let r := (plain (EventRing.create .standard)).follow moves
    Occurrence.areTimely r.past = true ∧
      r.enteredBy 0 = [⟨(Event.named "a").indexed 0, 0⟩, ⟨((Event.named "a").carrying [7]).indexed 1, 2⟩] ∧
      ((r.enteredBy 0).filter r.isPolled).Pairwise Delivery.Before := by
  intro moves r
  have timely : Occurrence.areTimely r.past = true := by decide
  exact ⟨timely, by decide, (handler_enters_in_post_order (plain_created _) moves timely 0).1⟩

end Relay

end EventRelay
