import EventRelay.Proofs.Abreast

namespace EventRelay

namespace Vantage

open Relay

variable {σ : Type} [EventSource σ] {v : Vantage σ} {r r' : Relay σ} {i j : TaskId}

/-- Relays that look alike, with no task singled out. -/
abbrev Like (v : Vantage σ) (r r' : Relay σ) : Prop := v.Alike (fun _ _ => False) r r'

theorem Alike.like {pairs : TaskId → TaskId → Prop} (h : v.Alike pairs r r') : v.Like r r' := h.only nofun

theorem Alike.pair (h : v.Like r r') (twins : v.Twins r r' i j) : v.Alike (fun a b => a = i ∧ b = j) r r' := by
  refine h.only ?_
  rintro _ _ ⟨rfl, rfl⟩
  exact twins

theorem Alike.back (h : v.Like r r') : v.Like r' r := h.symm.like

/-- What is read off the facts that are seen is the same. -/
theorem Alike.story {α : Type} (h : v.Like r r') {f : Occurrence → Option α} (g : Sight → Option α)
    (seen : ∀ o, f o = (v.sight? o).bind g) : r.story.filterMap f = r'.story.filterMap f := by
  have read : ∀ r : Relay σ, r.story.filterMap f = ((v.sights r).filterMap g).reverse := by
    intro r
    rw [Relay.story, List.filterMap_reverse, Vantage.sights, List.filterMap_filterMap]
    exact congrArg (fun f => (r.past.filterMap f).reverse) (funext seen)
  rw [read, read, h.sights]

/-- A relay to which nothing has happened looks like itself, if the hidden subscriber makes no requests. -/
theorem created_like {source : σ} (h : Created source r) (quiet : ∀ sub s, v.hides sub = true →
    r.subscribers.get? sub = some s → s.reactions = []) : v.Like r r := by
  have vacant : r.slot = none := by
    obtain ⟨_, _, _, h⟩ := h
    obtain ⟨_, -, rfl⟩ := Option.map_eq_some_iff.mp h
    rfl
  refine ⟨rfl, vacant ▸ .none, fun sub => ?_, rfl, nofun, rfl⟩
  cases hs : r.subscribers.get? sub with
  | none => exact .none
  | some s =>
    refine .some ?_
    unfold Peers
    split
    · rename_i hides
      exact ⟨quiet sub s hides hs, quiet sub s hides hs⟩
    · exact ⟨rfl, rfl, rfl, rfl, rfl, rfl⟩

/-- A task that is seen has a twin. -/
theorem Alike.twin (h : v.Like r r') {t : Task} (ht : r.tasks.get? i = some t) (shown : v.shows t.work = true) :
    ∃ j t', v.Twins r r' i j ∧ r'.tasks.get? j = some t' := by
  obtain ⟨j, twins⟩ := Twin.exists_right h.count ((marks_get? ht).trans (congrArg some shown))
  obtain ⟨-, t', ht', -⟩ := Twins.found (v := v) twins
  exact ⟨j, t', twins, ht'⟩

/-- What is known of single polls. The tasks that run `aside` are not followed by the other relay. -/
structure Unwinds (v : Vantage σ) (source : σ) (aside : Relay σ → TaskId → Prop) : Prop where
  seen : ∀ {r i t}, r.tasks.get? i = some t → ¬ aside r i → v.shows t.work = true
  runnable : ∀ {r r' i j t t'}, Reachable source r → Reachable source r' → v.Like r r' → v.Twins r r' i j →
    r.tasks.get? i = some t → r'.tasks.get? j = some t' → ¬ aside r i → r.isRunnable t = true →
    r'.isRunnable t' = true ∧ ¬ aside r' j
  together : ∀ {r r' r₁ i j reply}, Reachable source r → Reachable source r' → v.Like r r' → v.Twins r r' i j →
    ¬ aside r i → Polled i r reply r₁ → ∃ r₁', Polled j r' reply r₁' ∧ v.Like r₁ r₁'
  alone : ∀ {r r' r₁ i reply}, Reachable source r → v.Like r r' → aside r i → Polled i r reply r₁ → v.Like r₁ r'
  rests : ∀ {r i}, Reachable source r → r.nextRunnable? = some i → aside r i →
    ∃ reply r₁, Polled i r reply r₁ ∧ ∀ j, r₁.nextRunnable? = some j → ¬ aside r₁ j

namespace Unwinds

variable {source : σ} {aside : Relay σ → TaskId → Prop}

/-- The next task to be polled has its twin as the next one, if nothing runs aside. -/
theorem next_twin (u : v.Unwinds source aside) (hr : Reachable source r) (hr' : Reachable source r')
    (h : v.Like r r') (next : r.nextRunnable? = some i) (seen : ¬ aside r i)
    (seen' : ∀ j, r'.nextRunnable? = some j → ¬ aside r' j) : ∃ j, r'.nextRunnable? = some j ∧ v.Twins r r' i j := by
  obtain ⟨⟨t, ht, runnable⟩, first⟩ := nextRunnable?_eq_some.mp next
  obtain ⟨j, t', twins, ht'⟩ := h.twin ht (u.seen ht seen)
  have runnable' := (u.runnable hr hr' h twins ht ht' seen runnable).1
  cases next' : r'.nextRunnable? with
  | none =>
    have waits := nextRunnable?_eq_none.mp next' j t' ht'
    rw [runnable'] at waits
    contradiction
  | some k =>
    refine ⟨k, rfl, ?_⟩
    -- the first one of the other relay has a twin as well, which is not before `i`, as twins come in one order
    obtain ⟨⟨u', hu', runs'⟩, first'⟩ := nextRunnable?_eq_some.mp next'
    have visible := seen' k next'
    obtain ⟨l, w, twins', hw⟩ := h.back.twin hu' (u.seen hu' visible)
    have runs := (u.runnable hr' hr h.back twins' hu' hw visible runs').1
    have le : i ≤ l := Nat.le_of_not_lt fun lt => by
      have waits := first l w lt hw
      rw [runs] at waits
      contradiction
    have le' : k ≤ j := Nat.le_of_not_lt fun lt => by
      have waits := first' j t' lt ht'
      rw [runnable'] at waits
      contradiction
    rcases Nat.lt_or_eq_of_le le' with lt | rfl
    · exact absurd (twins'.lt_of_lt twins.symm lt) (Nat.not_lt.mpr le)
    · exact twins

/-- What runs aside can be let run until nothing does. -/
theorem calmed (u : v.Unwinds source aside) (hr' : Reachable source r') (h : v.Like r r') :
    ∃ r'', Reachable source r'' ∧ v.Like r r'' ∧ (∀ r₁, Settled r'' r₁ → Settled r' r₁) ∧
      ∀ j, r''.nextRunnable? = some j → ¬ aside r'' j := by
  by_cases busy : ∃ j, r'.nextRunnable? = some j ∧ aside r' j
  · obtain ⟨j, next, unseen⟩ := busy
    obtain ⟨reply, r'', polled, rests⟩ := u.rests hr' next unseen
    exact ⟨r'', hr'.leads polled.leads, (u.alone hr' h.back unseen polled).back,
      fun _ settled => .polls next polled settled, rests⟩
  · exact ⟨r', hr', h, fun _ settled => settled, fun j next unseen => busy ⟨j, next, unseen⟩⟩

/-- Relays that look alike come to rest alike. -/
theorem settled (u : v.Unwinds source aside) {r₁ : Relay σ} (settled : Settled r r₁) (hr : Reachable source r)
    (hr' : Reachable source r') (h : v.Like r r') : ∃ r₁', Settled r' r₁' ∧ v.Like r₁ r₁' := by
  -- on the polls of the one run; before each of them the other lets run what runs aside
  induction settled generalizing r' with
  | @rests r idle =>
    obtain ⟨r'', hr'', h', after, calm⟩ := u.calmed hr' h
    have idle' : r''.nextRunnable? = none := by
      cases next : r''.nextRunnable? with
      | none => rfl
      | some j =>
        obtain ⟨i, next', -⟩ := u.next_twin hr'' hr h'.back next (calm j next) (by simp [idle])
        rw [idle] at next'
        contradiction
    exact ⟨r'', after r'' (.rests idle'), h'⟩
  | @polls i reply r r₁ r₂ next polled _ ih =>
    have later := hr.leads polled.leads
    by_cases unseen : aside r i
    · exact ih later hr' (u.alone hr h unseen polled)
    · obtain ⟨r'', hr'', h', after, calm⟩ := u.calmed hr' h
      obtain ⟨j, next', twins⟩ := u.next_twin hr hr'' h' next unseen calm
      obtain ⟨r₁', polled', alike⟩ := u.together hr hr'' h' twins unseen polled
      obtain ⟨r₂', settled, alike'⟩ := ih later (hr''.leads polled'.leads) alike
      exact ⟨r₂', after r₂' (.polls next' polled' settled), alike'⟩

end Unwinds

/-- A task and its twin take a step, if they do so as pollers. -/
theorem Alike.takes {pairs : TaskId → TaskId → Prop} (h : v.Alike pairs r r') (known : pairs i j) {turn : Turn}
    {r₁ : Relay σ} (step : r.Takes i turn r₁) (poller : ∀ f p f' p', r.PollerAt i f p → r'.PollerAt j f' p' →
      v.work (.poller f p) = v.work (.poller f' p') → v.Agree pairs (r.pollerTurn i f p) (r'.pollerTurn j f' p')) :
    ∃ r₁', r'.Takes j turn r₁' ∧ v.Alike pairs r₁ r₁' := by
  obtain ⟨name, work, ht, he⟩ := step
  obtain ⟨-, ⟨name', work', ending'⟩, ht', -⟩ := (h.pairs known).found
  obtain ⟨same, ending⟩ := h.row (h.pairs known) ht ht'
  cases ending
  have agree : v.Agree pairs (r.turn i work) (r'.turn j work') := by
    refine h.turn known ht ht' fun f p f' p' hw hw' => ?_
    cases hw
    cases hw'
    exact poller f p f' p' ⟨name, ht⟩ ⟨name', ht'⟩ same
  rw [he] at agree
  exact ⟨(r'.turn j work').2, ⟨name', work', ht', Prod.ext agree.outcome.symm rfl⟩, agree.alike⟩

section Together

variable {P : Relay σ → Prop} (turn : ∀ {r r' r₁ : Relay σ} {turn : Turn}, P r →
  v.Alike (fun a b => a = i ∧ b = j) r r' → r.Takes i turn r₁ →
  P r₁ ∧ ∃ r₁', r'.Takes j turn r₁' ∧ v.Alike (fun a b => a = i ∧ b = j) r₁ r₁')
include turn

/-- What a task does as long as it goes on, its twin does. -/
theorem goes_together {n : Nat} {r₁ : Relay σ} (going : Goes i n r r₁) (start : P r)
    (h : v.Alike (fun a b => a = i ∧ b = j) r r') :
    P r₁ ∧ ∃ r₁', Goes j n r' r₁' ∧ v.Alike (fun a b => a = i ∧ b = j) r₁ r₁' := by
  induction going generalizing r' with
  | stay r => exact ⟨start, r', .stay r', h⟩
  | go step _ ih =>
    obtain ⟨start', r₂, step', alike⟩ := turn start h step
    obtain ⟨last, r₁', rest', alike'⟩ := ih start' alike
    exact ⟨last, r₁', .go step' rest', alike'⟩

theorem polled_together {reply : PollReply} {r₁ : Relay σ} (polled : Polled i r reply r₁) (start : P r)
    (h : v.Like r r') (twins : v.Twins r r' i j) : ∃ r₁', Polled j r' reply r₁' ∧ v.Like r₁ r₁' := by
  cases polled with
  | absent absent =>
    obtain ⟨⟨t, ht, -⟩, -⟩ := twins.found
    rw [absent] at ht
    contradiction
  | ended ended => exact ⟨r', .ended ((h.taskEnded twins).symm.trans ended), h⟩
  | stops going step last =>
    obtain ⟨start', r₂, going', alike⟩ := goes_together turn going start (h.pair twins)
    obtain ⟨-, r₁', step', alike'⟩ := turn start' alike step
    exact ⟨r₁', .stops going' step' last, alike'.like⟩

end Together

end Vantage

end EventRelay
