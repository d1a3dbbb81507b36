import EventRelay.Proofs.Laps
import EventRelay.Proofs.Publishing
import EventRelay.Proofs.Stride

namespace EventRelay

/-- The notices for the gaps between events, each with the event after its gap. -/
def gapNotices : List Fetched → List NoticeBody
  | f :: g :: rest =>
    (if f.index + 1 < g.index then
      [{ kind := .eventsSkipped, event := some g.event.name, count := some (g.index - f.index - 1) }]
    else []) ++ gapNotices (g :: rest)
  | _ => []

/-- How many events all these notices count. -/
def countedBy : List NoticeBody → Nat
  | [] => 0
  | n :: rest => n.count.getD 0 + countedBy rest

theorem gapNotices_concat (xs : List Fetched) (f g : Fetched) :
    gapNotices (xs ++ [f, g]) = gapNotices (xs ++ [f]) ++ gapNotices [f, g] := by
  induction xs with
  | nil => rfl
  | cons x xs ih =>
    cases xs with
    | nil => simp [gapNotices]
    | cons y ys =>
      simp only [List.cons_append, gapNotices] at ih ⊢
      rw [ih, List.append_assoc]

/-- The events and the gaps between them fill the range of the indices. -/
theorem length_add_gaps {f : Fetched} {rest : List Fetched} (h : (f :: rest).Pairwise (·.index < ·.index)) {g : Fetched}
    (last : (f :: rest).getLast? = some g) :
    (f :: rest).length + countedBy (gapNotices (f :: rest)) = g.index - f.index + 1 := by
  induction rest generalizing f with
  | nil =>
    cases Option.some.inj last
    simp [gapNotices, countedBy]
  | cons e rest ih =>
    rw [List.getLast?_cons_cons] at last
    obtain ⟨first, ascending⟩ := List.pairwise_cons.mp h
    have next : f.index < e.index := first e List.mem_cons_self
    have beyond : f.index < g.index := first g (List.mem_of_getLast? last)
    have upper : e.index ≤ g.index := by
      rcases List.mem_cons.mp (List.mem_of_getLast? last) with rfl | hm
      · exact Nat.le_refl _
      · exact Nat.le_of_lt ((List.pairwise_cons.mp ascending).1 g hm)
    have rest := ih ascending last
    rw [gapNotices]
    simp only [List.length_cons] at rest ⊢
    split
    · simp only [List.singleton_append, countedBy, Option.getD_some]
      omega
    · rw [List.nil_append]
      omega

/-- The events that were settled in a lap, in order. -/
def settledIn (lap : List Occurrence) : List Fetched := lap.filterMap Occurrence.settled?

/-- The notices of skipped events in a lap, in order. -/
def skipNotices (lap : List Occurrence) : List NoticeBody :=
  (lap.filterMap Occurrence.notice?).filter (fun n => n.kind == .eventsSkipped)

theorem settledIn_append (xs ys : List Occurrence) : settledIn (xs ++ ys) = settledIn xs ++ settledIn ys :=
  List.filterMap_append

theorem skipNotices_append (xs ys : List Occurrence) : skipNotices (xs ++ ys) = skipNotices xs ++ skipNotices ys := by
  rw [skipNotices, List.filterMap_append, List.filter_append]
  rfl

theorem settledIn_offLap {facts : List Occurrence} (h : ∀ o ∈ facts, o.isOffLap = true) : settledIn facts = [] :=
  List.filterMap_eq_nil_iff.mpr fun o hm => Occurrence.settled?_of_offLap (h o hm)

theorem skipNotices_offLap {facts : List Occurrence} (h : ∀ o ∈ facts, o.isOffLap = true) : skipNotices facts = [] := by
  refine List.filter_eq_nil_iff.mpr fun n hn => ?_
  obtain ⟨o, hm, ho⟩ := List.mem_filterMap.mp hn
  have off := h o hm
  cases o with
  | eventsSkipped => contradiction
  | discarded _ _ reason => cases reason <;> first | contradiction | (cases ho; simp)
  | _ => first | contradiction | (cases ho; simp)

/-- In a lap the indices ascend, and the gaps are reported one by one. -/
structure Exact (lap : List Occurrence) : Prop where
  ascending : (settledIn lap).Pairwise (·.index < ·.index)
  reported : skipNotices lap = gapNotices (settledIn lap)

theorem Exact.offLap {lap : List Occurrence} (h : Exact lap) {more : List Occurrence}
    (off : ∀ o ∈ more, o.isOffLap = true) : Exact (lap ++ more) := by
  have settled : settledIn (lap ++ more) = settledIn lap := by
    rw [settledIn_append, settledIn_offLap off, List.append_nil]
  have skipped : skipNotices (lap ++ more) = skipNotices lap := by
    rw [skipNotices_append, skipNotices_offLap off, List.append_nil]
  exact ⟨settled ▸ h.ascending, by rw [skipped, settled, h.reported]⟩

/-- An event that comes after the last one settled closes the gap between them. -/
theorem gapNotices_settle {settled : List Fetched} {c : Cursor} (last : settled.getLast?.map Fetched.index = c.last)
    {f : Fetched} : gapNotices (settled ++ [f]) = gapNotices settled ++ skipNotices (Relay.skips c f) := by
  rcases List.eq_nil_or_concat settled with rfl | ⟨xs, e, rfl⟩
  · have first : c.last = none := last.symm
    simp [Relay.skips, Cursor.skipped, first, gapNotices, skipNotices]
  · have previous : c.last = some e.index := by simpa using last.symm
    rw [List.concat_eq_append, List.append_assoc, List.singleton_append, gapNotices_concat]
    congr 1
    simp only [Relay.skips, Cursor.skipped, previous, gapNotices, List.append_nil]
    by_cases gap : e.index + 1 < f.index
    · have some : f.index - e.index - 1 ≠ 0 := by omega
      rw [if_pos gap, if_neg some]
      rfl
    · have none : f.index - e.index - 1 = 0 := by omega
      rw [if_neg gap, if_pos none]
      rfl

theorem Exact.settle {lap : List Occurrence} (h : Exact lap) {c : Cursor}
    (last : (settledIn lap).getLast?.map Fetched.index = c.last) {f : Fetched}
    (later : ∀ l, c.last = some l → l < f.index) (id : TaskId) :
    Exact (lap ++ .resultTaken id (.fetched f) :: Relay.skips c f) := by
  have settled : settledIn (lap ++ .resultTaken id (.fetched f) :: Relay.skips c f) = settledIn lap ++ [f] := by
    have none : settledIn (Relay.skips c f) = [] := by
      unfold Relay.skips
      split <;> rfl
    rw [settledIn_append]
    change _ ++ f :: settledIn (Relay.skips c f) = _
    rw [none]
  have skipped : skipNotices (lap ++ .resultTaken id (.fetched f) :: Relay.skips c f) =
      skipNotices lap ++ skipNotices (Relay.skips c f) := skipNotices_append _ _
  refine ⟨?_, by rw [skipped, settled, h.reported, gapNotices_settle last]⟩
  rw [settled]
  refine List.pairwise_append.mpr ⟨h.ascending, List.pairwise_singleton _ _, fun e he g hg => ?_⟩
  cases List.mem_singleton.mp hg
  rcases List.eq_nil_or_concat (settledIn lap) with none | ⟨xs, l, concat⟩
  · rw [none] at he
    contradiction
  · have ascending := h.ascending
    rw [concat, List.concat_eq_append] at last he ascending
    have below : l.index < f.index := later l.index (by simpa using last.symm)
    rcases List.mem_append.mp he with earlier | latest
    · have lower := (List.pairwise_append.mp ascending).2.2 e earlier l List.mem_cons_self
      exact Nat.lt_trans lower below
    · rw [List.mem_singleton.mp latest]
      exact below

/-- However facts without a reset are added, they go to the last lap. -/
theorem splitOn_append (past : List Occurrence) : ∃ done, ∀ news, .cursorReset ∉ news →
    (news ++ past).reverse.splitOn .cursorReset = done ++ [(sinceReset past).reverse ++ news.reverse] := by
  by_cases hm : .cursorReset ∈ past
  · obtain ⟨late, early, rfl, hl⟩ := List.eq_append_cons_of_mem hm
    refine ⟨early.reverse.splitOn .cursorReset, fun news hn => ?_⟩
    have last : sinceReset (late ++ .cursorReset :: early) = late := by
      rw [sinceReset_append _ hl]
      exact List.append_nil _
    have apart : (news ++ (late ++ .cursorReset :: early)).reverse =
        early.reverse ++ .cursorReset :: (late.reverse ++ news.reverse) := by simp
    have kept : .cursorReset ∉ late.reverse ++ news.reverse := by simp [hl, hn]
    rw [last, apart, List.splitOn_append_cons_self, List.splitOn_eq_singleton kept]
  · refine ⟨[], fun news hn => ?_⟩
    have last : sinceReset past = past := by
      have all := sinceReset_append [] hm
      rw [List.append_nil] at all
      exact all.trans (List.append_nil _)
    rw [last, List.reverse_append, List.splitOn_eq_singleton (by simp [hm, hn])]
    rfl

namespace Relay

section Laps

variable {σ : Type}

/-- The stretches between two resets of the cursor, in order. -/
def laps (r : Relay σ) : List (List Occurrence) := r.story.splitOn .cursorReset

/-- Every stretch between two resets is exact. -/
def Measured (r : Relay σ) : Prop := ∀ lap ∈ r.laps, Exact lap

theorem Measured.now {r : Relay σ} (h : r.Measured) : Exact (sinceReset r.past).reverse := by
  obtain ⟨done, laps⟩ := splitOn_append r.past
  have current : r.laps = done ++ [(sinceReset r.past).reverse ++ [].reverse] := laps [] List.not_mem_nil
  rw [List.reverse_nil, List.append_nil] at current
  exact h _ (by rw [current]; simp)

/-- Only the last lap becomes longer. -/
theorem Measured.append {r r' : Relay σ} (h : r.Measured) {news : List Occurrence} (past : r'.past = news ++ r.past)
    (none : .cursorReset ∉ news) (exact : Exact ((sinceReset r.past).reverse ++ news.reverse)) : r'.Measured := by
  obtain ⟨done, laps⟩ := splitOn_append r.past
  have before : r.laps = done ++ [(sinceReset r.past).reverse ++ [].reverse] := laps [] List.not_mem_nil
  have after : r'.laps = done ++ [(sinceReset r.past).reverse ++ news.reverse] := by
    rw [← laps news none, ← past]
    rfl
  intro lap hm
  rw [after] at hm
  rcases List.mem_append.mp hm with old | new
  · exact h lap (by rw [before]; exact List.mem_append_left _ old)
  · rw [List.mem_singleton.mp new]
    exact exact

theorem Measured.offLap {r r' : Relay σ} (h : r.Measured) (facts : Adds Occurrence.isOffLap r r') : r'.Measured := by
  obtain ⟨news, past, off⟩ := facts
  have none : .cursorReset ∉ news := fun hm => ne_reset_of_offLap (off _ hm) rfl
  exact h.append past none (h.now.offLap fun o hm => off o (List.mem_reverse.mp hm))

theorem LapStep.measured {r r' : Relay σ} (step : r.LapStep r') (h : r.Measured) : r'.Measured := by
  cases step with
  | kept facts | stamped facts => exact h.offLap facts
  | reset before after past off _ =>
    -- the lap that ends here, and the one that begins
    let ending : Relay σ := { r with past := before ++ r.past }
    have ended : ending.Measured := h.offLap ⟨before, rfl, fun o hm => off o (List.mem_append_right _ hm)⟩
    have laps : r'.laps = ending.laps ++ [after.reverse] := by
      have none : .cursorReset ∉ after.reverse := by
        intro hm
        exact ne_reset_of_offLap (off _ (List.mem_append_left _ (List.mem_reverse.mp hm))) rfl
      have apart : r'.story = ending.story ++ .cursorReset :: after.reverse := by simp [story, past, ending]
      rw [Relay.laps, apart, List.splitOn_append_cons_self, List.splitOn_eq_singleton none]
      rfl
    intro lap hm
    rw [laps] at hm
    rcases List.mem_append.mp hm with old | new
    · exact ended lap old
    · rw [List.mem_singleton.mp new]
      have empty : Exact [] := ⟨.nil, rfl⟩
      exact empty.offLap fun o hm => off o (List.mem_append_left _ (List.mem_reverse.mp hm))

theorem Settles.measured [EventSource σ] {r r' : Relay σ} {id : TaskId} {f : Fetched} (settles : r.Settles id f r')
    (h : r.Measured) (at_last : r.AtLast) (later : ∀ l, r.cursor.last = some l → l < f.index) : r'.Measured := by
  obtain ⟨asked, handed, past, off⟩ := settles.past
  have last : (settledIn (sinceReset r.past).reverse).getLast?.map Fetched.index = r.cursor.last := by
    unfold settledIn
    rw [List.filterMap_reverse, List.getLast?_reverse]
    exact at_last
  have skipped : (skips r.cursor f).reverse = skips r.cursor f := by
    unfold skips
    split <;> rfl
  have none : .cursorReset ∉ handed ++ skips r.cursor f ++ .resultTaken id (.fetched f) :: asked := by
    have absent : .cursorReset ∉ skips r.cursor f := by
      unfold skips
      split <;> simp
    have quiet : .cursorReset ∉ asked ++ handed := fun hm => ne_reset_of_offLap (off _ hm) rfl
    simp only [List.mem_append, List.mem_cons] at quiet ⊢
    simp [absent, not_or.mp quiet]
  refine h.append past none ?_
  have began : Exact ((sinceReset r.past).reverse ++ asked.reverse) :=
    h.now.offLap fun o hm => off o (List.mem_append_left _ (List.mem_reverse.mp hm))
  have same : settledIn ((sinceReset r.past).reverse ++ asked.reverse) = settledIn (sinceReset r.past).reverse := by
    rw [settledIn_append, settledIn_offLap fun o hm => off o (List.mem_append_left _ (List.mem_reverse.mp hm)),
      List.append_nil]
  have ended : Exact (_ ++ handed.reverse) := (began.settle (same ▸ last) later id).offLap
    fun o hm => off o (List.mem_append_right _ (List.mem_reverse.mp hm))
  simpa [skipped] using ended

end Laps

/-- The times of the accepted posts, the latest first. -/
def postTimes {σ : Type} (r : Relay σ) : List Instant := r.past.filterMap Occurrence.postTime?

theorem postTimes_suffix {σ : Type} {r r' : Relay σ} (older : r.past <:+ r'.past)
    (ordered : r'.postTimes.Pairwise (· ≥ ·)) : r.postTimes.Pairwise (· ≥ ·) :=
  ordered.sublist (older.sublist.filterMap _)

/-- The facts tell all that was posted, and where the cursor stands among it. -/
structure Logged (r : Relay EventRing) : Prop where
  recorded : Recorded r.source r.past
  complete : ∀ {i}, i < r.source.next → ∃ t e, .posted i t e ∈ r.past
  anchored : ∀ {l}, r.cursor.last = some l → ∃ t e, .posted l t e ∈ r.past ∧
    ∀ since, r.cursor.since = some since → since ≤ t

theorem Logged.same {r r' : Relay EventRing} (h : r.Logged) (slots : r'.source.slots = r.source.slots)
    (next : r'.source.next = r.source.next) (older : r.past <:+ r'.past)
    (posts : ∀ {i t e}, .posted i t e ∈ r'.past → .posted i t e ∈ r.past)
    (cursor : r'.cursor = r.cursor ∨ r'.cursor.last = none) : r'.Logged where
  recorded := h.recorded.same slots next older posts
  complete hi := by
    obtain ⟨t, e, hm⟩ := h.complete (next ▸ hi)
    exact ⟨t, e, older.subset hm⟩
  anchored {l} hl := by
    rcases cursor with same | none
    · obtain ⟨t, e, hm, since⟩ := h.anchored (same ▸ hl)
      exact ⟨t, e, older.subset hm, same ▸ since⟩
    · rw [none] at hl
      contradiction

theorem Logged.post {r r' : Relay EventRing} (h : r.Logged) {index : Nat} {event : Event}
    (accepted : r.postToSource event = .ok (index, r')) (ordered : r'.postTimes.Pairwise (· ≥ ·)) : r'.Logged := by
  obtain ⟨source, hp, rfl⟩ := postToSource_ok accepted
  obtain ⟨rfl, rfl, -⟩ := EventRing.post_ok hp
  have latest : ∀ {j u g}, .posted j u g ∈ r.past → u ≤ r.readClock.1 := fun {j u g} hm =>
    (List.pairwise_cons.mp ordered).1 u (List.mem_filterMap.mpr ⟨.posted j u g, hm, rfl⟩)
  refine ⟨h.recorded.store latest, fun {i} hi => ?_, fun {l} hl => ?_⟩
  · rcases Nat.lt_or_eq_of_le (Nat.le_of_lt_succ hi) with old | rfl
    · obtain ⟨t, e, hm⟩ := h.complete old
      exact ⟨t, e, List.mem_cons_of_mem _ hm⟩
    · exact ⟨_, _, List.mem_cons_self⟩
  · obtain ⟨t, e, hm, since⟩ := h.anchored hl
    exact ⟨t, e, List.mem_cons_of_mem _ hm, since⟩

theorem LapStep.cursor {σ : Type} {r r' : Relay σ} (h : r.LapStep r') :
    r'.cursor = r.cursor ∨ r'.cursor.last = none := by
  cases h with
  | kept _ same => exact .inl same
  | stamped _ _ none => exact .inr none
  | reset _ _ _ _ unset => exact .inr (by rw [unset]; rfl)

/-- What is settled is the first event that the ring holds past the cursor. -/
theorem Settles.first {r r' : Relay EventRing} {id : TaskId} {f : Fetched} (h : r.Settles id f r') (hw : r.Waiting) :
    ∃ s, r.source.Holds r.cursor s ∧ (∀ u, r.source.Holds r.cursor u → s.index ≤ u.index) ∧ f = s.fetched := by
  obtain ⟨failures, stage, token, r₁, hp, hc, consulted⟩ := h.fetched
  exact consulted.fetched hw hc hp

theorem Settles.later {r r' : Relay EventRing} {id : TaskId} {f : Fetched} (h : r.Settles id f r') (hw : r.Waiting) :
    ∀ l, r.cursor.last = some l → l < f.index := by
  obtain ⟨s, hold, -, rfl⟩ := h.first hw
  exact (Cursor.precedes_iff.mp hold.2).2

/-- Where the cursor goes there was a post that it had not passed. -/
theorem Settles.logged {r r' : Relay EventRing} {id : TaskId} {f : Fetched} (h : r.Settles id f r') (hw : r.Waiting)
    (hl : r.Logged) (slots : r'.source.slots = r.source.slots) (next : r'.source.next = r.source.next)
    (older : r.past <:+ r'.past) (posts : ∀ {i t e}, .posted i t e ∈ r'.past → .posted i t e ∈ r.past) :
    r'.Logged := by
  obtain ⟨s, hold, -, rfl⟩ := h.first hw
  refine ⟨hl.recorded.same slots next older posts, fun hi => ?_, fun {l} he => ?_⟩
  · obtain ⟨t, e, hm⟩ := hl.complete (next ▸ hi)
    exact ⟨t, e, older.subset hm⟩
  · rw [h.cursor] at he ⊢
    cases he
    exact ⟨s.time, s.event, older.subset (hl.recorded.stored hold.1), (Cursor.precedes_iff.mp hold.2).1⟩

/-- Between the event settled last and the first one past the cursor everything was posted, and nothing is left. -/
theorem Logged.overwritten {r : Relay EventRing} (h : r.Logged) (sound : r.source.Sound) {l : Nat}
    (last : r.cursor.last = some l) {s : Stored} (hold : r.source.Holds r.cursor s)
    (first : ∀ u, r.source.Holds r.cursor u → s.index ≤ u.index) {i : Nat} (after : l < i) (before : i < s.index) :
    (∃ t e, .posted i t e ∈ r.past) ∧ ∀ u ∈ r.source.slots, u.index ≠ i := by
  refine ⟨h.complete (Nat.lt_trans before (sound.recent hold.1).1), fun u hu => ?_⟩
  rintro rfl
  obtain ⟨t, e, posted, since⟩ := h.anchored last
  have later : t ≤ u.time := h.recorded.ordered posted (h.recorded.stored hu) after
  -- it would be past the cursor too, and come before the first
  have held : r.source.Holds r.cursor u := by
    refine ⟨hu, Cursor.precedes_iff.mpr ⟨fun a ha => Nat.le_trans (since a ha) later, fun l' hl' => ?_⟩⟩
    rw [last] at hl'
    cases hl'
    exact after
  exact absurd (first u held) (Nat.not_le.mpr before)

/-- A relay over a ring that is in order, with its laps, and its posts as long as their times do not decrease. -/
structure Spaced (r : Relay EventRing) : Prop extends Orderly r where
  atLast : r.AtLast
  measured : r.Measured
  logged : r.postTimes.Pairwise (· ≥ ·) → r.Logged

theorem Act.spaced {r r' : Relay EventRing} (h : Act r r') (hr : r.Spaced) : r'.Spaced := by
  have step := h.lapStep hr.toTracked
  refine ⟨h.orderly hr.toOrderly, step.atLast hr.atLast, step.measured hr.measured, fun ordered => ?_⟩
  rcases h.stores with ⟨calm, slots, next⟩ | ⟨_, _, accepted⟩
  · exact (hr.logged (postTimes_suffix calm.past ordered)).same slots next calm.past calm.posts step.cursor
  · exact (hr.logged (postTimes_suffix (postToSource_steady accepted).past ordered)).post accepted ordered

theorem pollerTurn_spaced {r : Relay EventRing} {id : TaskId} {failures : Nat} {stage : PollerStage}
    (hp : r.PollerAt id failures stage) (hr : r.Spaced) : (r.pollerTurn id failures stage).2.Spaced := by
  have orderly := pollerTurn_orderly hr.toOrderly hp
  have turn := pollerTurn_step r id failures stage
  obtain ⟨older, posts⟩ := turn.keepsPosts hp
  obtain ⟨line, -, -⟩ := turn.leaves
  rcases turn.lap hp with step | ⟨f, settles⟩
  · refine ⟨orderly, step.atLast hr.atLast, step.measured hr.measured, fun ordered => ?_⟩
    exact (hr.logged (postTimes_suffix older ordered)).same line.slots line.next older posts step.cursor
  · refine ⟨orderly, settles.atLast, settles.measured hr.measured hr.atLast (settles.later hr.toWaiting),
      fun ordered => ?_⟩
    exact settles.logged hr.toWaiting (hr.logged (postTimes_suffix older ordered)) line.slots line.next older
      posts

theorem spaced_invariant : Invariant Spaced where
  act act hr := act.spaced hr
  poller hp hr := pollerTurn_spaced hp hr
  firing {r id event targets} hf hr := by
    have step := firingTurn_lapStep hf
    have still := firingTurn_still hf
    have gained := firingTurn_gained hf
    refine ⟨hr.toOrderly.still still, step.atLast hr.atLast, step.measured hr.measured, fun ordered => ?_⟩
    exact (hr.logged (postTimes_suffix gained.past ordered)).same (by rw [still.source]) (by rw [still.source])
      gained.past gained.posts step.cursor

theorem created_spaced {config : RingSize} {r : Relay EventRing} (h : Created (EventRing.create config) r) :
    r.Spaced := by
  have orderly := created_orderly h
  obtain ⟨settings, surroundings, handlers, h⟩ := h
  obtain ⟨bus, -, rfl⟩ := Option.map_eq_some_iff.mp h
  refine ⟨orderly, rfl, fun lap hm => ?_, fun _ => ⟨⟨nofun, nofun, nofun, nofun⟩, nofun, nofun⟩⟩
  rw [List.mem_singleton.mp hm]
  exact ⟨.nil, rfl⟩

theorem follow_spaced {config : RingSize} {start : Relay EventRing} (h : Created (EventRing.create config) start)
    (moves : List Move) : (start.follow moves).Spaced :=
  follow_keeps spaced_invariant.move (created_spaced h) moves

theorem Acts.unsettled {r r' : Relay EventRing} (h : Acts r r') (hr : r.Spaced) :
    Adds (fun o => o.settled?.isNone) r r' := by
  induction h with
  | refl => exact .refl r
  | tail before act ih => exact ih.trans (act.lapStep (spaced_invariant.acts before hr).toTracked).unsettled

/-- The fact that tells of it stands where the poller's step began, but for what the poller asked. -/
theorem Settles.fact {r r' : Relay EventRing} {id : TaskId} {f : Fetched} (h : r.Settles id f r') {id' : TaskId}
    {g : Fetched} {earlier : List Occurrence} (hs : .resultTaken id' (.fetched g) :: earlier <:+ r'.past) :
    .resultTaken id' (.fetched g) :: earlier <:+ r.past ∨ (id' = id ∧ g = f ∧
      ∃ asked, earlier = asked ++ r.past ∧ ∀ o ∈ asked, o.isOffLap = true) := by
  obtain ⟨asked, handed, past, off⟩ := h.past
  have absent : ∀ {facts : List Occurrence}, (∀ o ∈ facts, o.isOffLap = true) → .resultTaken id' (.fetched g) ∉ facts :=
    fun all hm => absurd (all _ hm) Bool.false_ne_true
  have unskipped : .resultTaken id' (.fetched g) ∉ handed ++ skips r.cursor f := by
    have quiet : .resultTaken id' (.fetched g) ∉ skips r.cursor f := by
      unfold skips
      split <;> simp
    simpa [quiet] using absent fun o hm => off o (List.mem_append_right _ hm)
  rw [past, List.append_assoc, List.cons_append] at hs
  rcases List.suffix_cons_iff.mp (suffix_of_append hs unskipped) with here | before
  · cases here
    exact .inr ⟨rfl, rfl, asked, rfl, fun o hm => off o (List.mem_append_left _ hm)⟩
  · exact .inl (suffix_of_append before (absent fun o hm => off o (List.mem_append_left _ hm)))

/-- Only a step of the poller that settles it adds the fact that an event is settled. -/
theorem move_settles {r : Relay EventRing} (hr : r.Spaced) {m : Move} {id : TaskId} {g : Fetched}
    {earlier : List Occurrence} (hs : .resultTaken id (.fetched g) :: earlier <:+ (r.move m).past) :
    .resultTaken id (.fetched g) :: earlier <:+ r.past ∨ (m = .turn id ∧ r.Settles id g (r.move m) ∧
      ∃ asked, earlier = asked ++ r.past ∧ ∀ o ∈ asked, o.isOffLap = true) := by
  rcases move_cases r m with acts | ⟨id', failures, stage, rfl, hp, he⟩ | ⟨id', event, targets, rfl, hf, he⟩
  · exact .inl ((acts.unsettled hr).suffix hs rfl)
  · rw [he] at hs ⊢
    rcases (pollerTurn_step r id' failures stage).lap hp with step | ⟨f, settles⟩
    · exact .inl (step.unsettled.suffix hs rfl)
    · rcases settles.fact hs with old | ⟨rfl, rfl, asked⟩
      · exact .inl old
      · exact .inr ⟨rfl, settles, asked⟩
  · rw [he] at hs
    exact .inl ((firingTurn_lapStep hf).unsettled.suffix hs rfl)

/-- Every event that was settled was settled in one step of its poller. -/
theorem settled_origin {config : RingSize} {start : Relay EventRing} (h : Created (EventRing.create config) start)
    {moves : List Move} {id : TaskId} {g : Fetched} {earlier : List Occurrence}
    (hs : .resultTaken id (.fetched g) :: earlier <:+ (start.follow moves).past) :
    ∃ before after, moves = before ++ .turn id :: after ∧
      (start.follow before).Settles id g (start.follow (before ++ [.turn id])) ∧
      .resultTaken id (.fetched g) :: earlier <:+ (start.follow (before ++ [.turn id])).past ∧
      ∃ asked, earlier = asked ++ (start.follow before).past ∧ ∀ o ∈ asked, o.isOffLap = true := by
  obtain ⟨before, m, after, rfl, new, there⟩ := fact_origin h hs
  rcases move_settles (follow_spaced h before) there with old | ⟨rfl, settles, asked⟩
  · exact absurd old new
  · rw [← follow_concat] at settles there
    exact ⟨before, after, rfl, settles, there, asked⟩

/-- As long as the times of the posts do not decrease: between two resets of the cursor the poller settles events with
ascending indices, each gap is reported by one notice with the number of indices in it and the name of the event after
it, and the events and the gaps fill the whole range. Every event that is settled was posted under its index; and of
what lies between it and the event that was settled before it, everything was posted, and nothing was left in the ring
when it was fetched. The bus has carried the notices of all laps. -/
theorem gaps_are_reported {config : RingSize} {start : Relay EventRing} (h : Created (EventRing.create config) start)
    (moves : List Move) (ordered : ((start.follow moves).story.filterMap Occurrence.postTime?).Pairwise (· ≤ ·)) :
    (start.follow moves).Announced ∧ (∀ lap ∈ (start.follow moves).laps,
      (settledIn lap).Pairwise (·.index < ·.index) ∧ skipNotices lap = gapNotices (settledIn lap) ∧
      ∀ f g, (settledIn lap).head? = some f → (settledIn lap).getLast? = some g →
        (settledIn lap).length + countedBy (skipNotices lap) = g.index - f.index + 1) ∧
    ∀ {id g earlier}, .resultTaken id (.fetched g) :: earlier <:+ (start.follow moves).past →
      ∃ before after, moves = before ++ .turn id :: after ∧ (start.follow before).past <:+ earlier ∧
        .resultTaken id (.fetched g) :: earlier <:+ (start.follow (before ++ [.turn id])).past ∧
        (∃ t e, .posted g.index t e ∈ (start.follow before).past ∧ g.event = e.indexed g.index) ∧
        ∀ f, lastSettled earlier = some f → ∀ i, f.index < i → i < g.index →
          (∃ t e, .posted i t e ∈ (start.follow before).past) ∧
          ∀ s ∈ (start.follow before).source.slots, s.index ≠ i := by
  refine ⟨seen_announced (.between ((Reachable.created h).follow moves)), ?_, ?_⟩
  · intro lap hm
    have exact := (follow_spaced h moves).measured lap hm
    refine ⟨exact.ascending, exact.reported, fun f g first last => ?_⟩
    obtain ⟨rest, he⟩ := List.head?_eq_some_iff.mp first
    rw [exact.reported, he]
    exact length_add_gaps (he ▸ exact.ascending) (he ▸ last)
  · intro id g earlier hs
    obtain ⟨before, after, rfl, settles, there, asked, rfl, off⟩ := settled_origin h hs
    have spaced := follow_spaced h before
    have older : (start.follow before).past <:+ (start.follow (before ++ .turn id :: after)).past := by
      rw [follow_append]
      exact (Strides.ongoing (follow_strides _ _)).past
    have logged := spaced.logged (postTimes_suffix older (by
      rw [story, List.filterMap_reverse, List.pairwise_reverse] at ordered
      exact ordered))
    obtain ⟨s, hold, first, rfl⟩ := settles.first spaced.toWaiting
    refine ⟨before, after, rfl, List.suffix_append _ _, there, ?_, fun f last i above below => ?_⟩
    · exact ⟨s.time, s.event, logged.recorded.stored hold.1, rfl⟩
    · have cursor : (start.follow before).cursor.last = some f.index := by
        rw [lastSettled_append _ off] at last
        rw [← spaced.atLast, last]
        rfl
      exact logged.overwritten spaced.sound cursor hold first above below

/-- In a ring with one slot the second event is overwritten while the poller is about the first. -/
theorem gaps_are_reported_plain :
    let moves := [Move.request (.call (.add "a" 0)), .request (.call (.post (.named "a"))), .turn 0,
      .request (.call (.post (.named "a"))), .request (.call (.post (.named "a"))), .turn 0]
    let r := (plain (EventRing.create ⟨1, 15⟩)).follow moves
    (r.story.filterMap Occurrence.postTime?).Pairwise (· ≤ ·) ∧
      r.laps.map (fun lap => (settledIn lap).map Fetched.index) = [[0, 2]] ∧
      r.laps.map skipNotices = [[{ kind := .eventsSkipped, event := some "a", count := some 1 }]] ∧
      ∀ lap ∈ r.laps, skipNotices lap = gapNotices (settledIn lap) := by
  intro moves r
  have ordered : (r.story.filterMap Occurrence.postTime?).Pairwise (· ≤ ·) := by decide
  exact ⟨ordered, by decide, by decide,
    fun lap hm => ((gaps_are_reported (plain_created _) moves ordered).2.1 lap hm).2.1⟩

end Relay

end EventRelay
