import EventRelay.Proofs.Session
import EventRelay.Proofs.Stride

namespace EventRelay

/-- What is said of a poll that ended with this step. -/
def Turn.reply? : Turn → Option Relay.PollReply
  | .going => none
  | .blocked => some .blocked
  | .ended .finished => some .finished
  | .ended .panicked => some .panicked

namespace Relay

variable {σ : Type} [EventSource σ]

theorem nextRunnable?_eq_some {r : Relay σ} {id : TaskId} : r.nextRunnable? = some id ↔
    (∃ t, r.tasks.get? id = some t ∧ r.isRunnable t = true) ∧
      ∀ j t, j < id → r.tasks.get? j = some t → r.isRunnable t = false := by
  unfold nextRunnable? Table.get?
  rw [List.findIdx?_eq_some_iff_getElem]
  constructor
  · rintro ⟨inside, runnable, before⟩
    refine ⟨⟨_, List.getElem?_eq_getElem inside, runnable⟩, fun j t hj ht => ?_⟩
    obtain ⟨hl, rfl⟩ := List.getElem?_eq_some_iff.mp ht
    simpa using before j hj
  · rintro ⟨⟨t, ht, runnable⟩, before⟩
    obtain ⟨inside, rfl⟩ := List.getElem?_eq_some_iff.mp ht
    refine ⟨inside, runnable, fun j hj => ?_⟩
    simpa using before j _ hj (List.getElem?_eq_getElem (Nat.lt_trans hj inside))

theorem nextRunnable?_eq_none {r : Relay σ} : r.nextRunnable? = none ↔
    ∀ j t, r.tasks.get? j = some t → r.isRunnable t = false := by
  unfold nextRunnable? Table.get?
  rw [List.findIdx?_eq_none_iff]
  constructor
  · intro h j t ht
    exact h t (List.mem_of_getElem? ht)
  · intro h t hm
    obtain ⟨j, ht⟩ := List.mem_iff_getElem?.mp hm
    exact h j t ht

theorem nextRunnable?_live {r : Relay σ} {id : TaskId} (next : r.nextRunnable? = some id) : r.taskEnded id = false := by
  obtain ⟨⟨t, ht, runnable⟩, -⟩ := nextRunnable?_eq_some.mp next
  cases live : t.hasEnded with
  | false => simp [taskEnded, ht, live]
  | true => simp [isRunnable, live] at runnable

theorem Leads.ongoing {r r' : Relay σ} (h : r.Leads r') : r.Ongoing r' := by
  obtain ⟨moves, rfl⟩ := h
  exact (follow_strides r moves).ongoing

/-- The unfinished task `id` takes a step. -/
def Takes (r : Relay σ) (id : TaskId) (turn : Turn) (r' : Relay σ) : Prop :=
  ∃ name work, r.tasks.get? id = some ⟨name, work, none⟩ ∧ r.turn id work = (turn, r')

/-- The task `id` takes so many steps, and after each it goes on. -/
inductive Goes (id : TaskId) : Nat → Relay σ → Relay σ → Prop
  | stay (r : Relay σ) : Goes id 0 r r
  | go {n : Nat} {r r₁ r' : Relay σ} (step : r.Takes id .going r₁) (rest : Goes id n r₁ r') : Goes id (n + 1) r r'

/-- A poll that is not cut short. -/
inductive Polled (id : TaskId) (r : Relay σ) : PollReply → Relay σ → Prop
  | absent (absent : r.tasks.get? id = none) : Polled id r .none r
  | ended (ended : r.taskEnded id = true) : Polled id r .ended r
  | stops {n : Nat} {turn : Turn} {reply : PollReply} {r₁ r' : Relay σ} (going : Goes id n r r₁)
      (step : r₁.Takes id turn r') (last : turn.reply? = some reply) : Polled id r reply r'

/-- A run that comes to rest. -/
inductive Settled : Relay σ → Relay σ → Prop
  | rests {r : Relay σ} (idle : r.nextRunnable? = none) : Settled r r
  | polls {id : TaskId} {reply : PollReply} {r r₁ r' : Relay σ} (next : r.nextRunnable? = some id)
      (polled : Polled id r reply r₁) (rest : Settled r₁ r') : Settled r r'

theorem Takes.unique {r r₁ r₂ : Relay σ} {id : TaskId} {turn turn' : Turn} (h : r.Takes id turn r₁)
    (h' : r.Takes id turn' r₂) : turn = turn' ∧ r₁ = r₂ := by
  obtain ⟨_, _, ht, he⟩ := h
  obtain ⟨_, _, ht', he'⟩ := h'
  cases ht.symm.trans ht'
  cases he.symm.trans he'
  exact ⟨rfl, rfl⟩

theorem Takes.live {r r' : Relay σ} {id : TaskId} {turn : Turn} (h : r.Takes id turn r') : r.taskEnded id = false := by
  obtain ⟨_, _, ht, -⟩ := h
  simp [taskEnded, ht, Task.hasEnded]

theorem Takes.present {r r' : Relay σ} {id : TaskId} {turn : Turn} (h : r.Takes id turn r') :
    r.tasks.get? id ≠ none := by
  obtain ⟨_, _, ht, -⟩ := h
  simp [ht]

theorem Takes.move {r r' : Relay σ} {id : TaskId} {turn : Turn} (h : r.Takes id turn r') :
    r' = r.move (.turn id) := by
  obtain ⟨_, _, ht, he⟩ := h
  simp only [Relay.move, advance, ht, Task.hasEnded, Option.isSome_none, Bool.false_eq_true, if_false, he]

theorem Takes.leads {r r' : Relay σ} {id : TaskId} {turn : Turn} (h : r.Takes id turn r') : r.Leads r' :=
  h.move ▸ .move r (.turn id)

theorem takes_of_live {r : Relay σ} {id : TaskId} {t : Task} (ht : r.tasks.get? id = some t)
    (live : t.hasEnded = false) : ∃ turn r', r.Takes id turn r' := by
  obtain ⟨name, work, ending⟩ := t
  cases ending with
  | some ending => contradiction
  | none => exact ⟨_, _, name, work, ht, rfl⟩

/-- A task that goes on takes another step. -/
theorem Takes.next {r r₁ : Relay σ} {id : TaskId} (h : r.Takes id .going r₁) : ∃ turn r₂, r₁.Takes id turn r₂ := by
  obtain ⟨name, work, ht, he⟩ := h
  have ongoing := (Takes.leads ⟨name, work, ht, he⟩).ongoing
  have lasts := turn_lasts ht rfl
  rw [he] at lasts
  obtain ⟨t', ht', -⟩ := ongoing.kinds ht
  have live : r₁.taskEnded id = false := lasts nofun
  exact takes_of_live ht' (by simpa [taskEnded, ht'] using live)

theorem Goes.leads {id : TaskId} {n : Nat} {r r' : Relay σ} (h : Goes id n r r') : r.Leads r' := by
  induction h with
  | stay r => exact .refl r
  | go step _ ih => exact step.leads.trans ih

theorem Goes.live {id : TaskId} {n : Nat} {r r₁ r' : Relay σ} {turn : Turn} (h : Goes id n r r₁)
    (step : r₁.Takes id turn r') : r.taskEnded id = false := by
  cases h with
  | stay => exact step.live
  | go step' _ => exact step'.live

theorem Goes.present {id : TaskId} {n : Nat} {r r₁ r' : Relay σ} {turn : Turn} (h : Goes id n r r₁)
    (step : r₁.Takes id turn r') : r.tasks.get? id ≠ none := by
  cases h with
  | stay => exact step.present
  | go step' _ => exact step'.present

theorem Goes.append {id : TaskId} {n m : Nat} {r r₁ r' : Relay σ} (h : Goes id n r r₁) (h' : Goes id m r₁ r') :
    Goes id (n + m) r r' := by
  induction h with
  | stay r => simpa using h'
  | @go n _ _ _ step _ ih =>
    rw [Nat.add_right_comm]
    exact .go step (ih h')

theorem Polled.leads {id : TaskId} {reply : PollReply} {r r' : Relay σ} (h : Polled id r reply r') : r.Leads r' := by
  cases h with
  | absent | ended => exact .refl r
  | stops going step _ => exact going.leads.trans step.leads

/-- A poll that goes on is the poll of what comes after. -/
theorem Polled.after {id : TaskId} {n : Nat} {reply : PollReply} {r r₁ r' : Relay σ} (going : Goes id n r r₁)
    (live : r₁.taskEnded id = false) (found : r₁.tasks.get? id ≠ none) (h : Polled id r₁ reply r') :
    Polled id r reply r' := by
  cases h with
  | absent absent => exact absurd absent found
  | ended ended =>
    rw [ended] at live
    contradiction
  | stops going' step last => exact .stops (going.append going') step last

/-- Two chains of steps of one task part only where one of them stops. -/
theorem Goes.split {id : TaskId} {n m : Nat} {r r₁ r₂ : Relay σ} (h : Goes id n r r₁) (h' : Goes id m r r₂)
    (le : n ≤ m) : Goes id (m - n) r₁ r₂ := by
  induction h generalizing m with
  | stay r => exact h'
  | @go n _ _ _ step _ ih =>
    cases h' with
    | stay => omega
    | @go m _ _ _ step' rest' =>
      obtain ⟨-, rfl⟩ := step.unique step'
      rw [Nat.add_sub_add_right]
      exact ih rest' (Nat.le_of_succ_le_succ le)

/-- Where a task stops it does not go on. -/
theorem Goes.stops_le {id : TaskId} {n m : Nat} {r r₁ r' r₂ : Relay σ} {turn : Turn} {reply : PollReply}
    (h : Goes id n r r₁) (step : r₁.Takes id turn r') (last : turn.reply? = some reply) (h' : Goes id m r r₂) :
    m ≤ n := by
  refine Nat.le_of_not_lt fun more => ?_
  have rest := h.split h' (Nat.le_of_lt more)
  generalize hk : m - n = k at rest
  cases rest with
  | stay => omega
  | go step' _ =>
    obtain ⟨rfl, -⟩ := step.unique step'
    contradiction

theorem Polled.unique {id : TaskId} {reply reply' : PollReply} {r r₁ r₂ : Relay σ} (h : Polled id r reply r₁)
    (h' : Polled id r reply' r₂) : reply = reply' ∧ r₁ = r₂ := by
  cases h with
  | absent absent =>
    cases h' with
    | absent => exact ⟨rfl, rfl⟩
    | ended ended => simp [taskEnded, absent] at ended
    | stops going step _ => exact absurd absent (going.present step)
  | ended ended =>
    cases h' with
    | absent absent => simp [taskEnded, absent] at ended
    | ended => exact ⟨rfl, rfl⟩
    | stops going step _ =>
      rw [going.live step] at ended
      contradiction
  | @stops n turn _ r₃ _ going step last =>
    cases h' with
    | absent absent => exact absurd absent (going.present step)
    | ended ended =>
      rw [going.live step] at ended
      contradiction
    | @stops m turn' _ r₄ _ going' step' last' =>
      have same : m = n :=
        Nat.le_antisymm (going.stops_le step last going') (going'.stops_le step' last' going)
      subst same
      have none := going.split going' (Nat.le_refl m)
      rw [Nat.sub_self] at none
      cases none
      obtain ⟨rfl, rfl⟩ := step.unique step'
      exact ⟨Option.some.inj (last.symm.trans last'), rfl⟩

theorem Settled.idle {r r' : Relay σ} (h : Settled r r') : r'.nextRunnable? = none := by
  induction h with
  | rests idle => exact idle
  | polls _ _ _ ih => exact ih

theorem Settled.unique {r r₁ r₂ : Relay σ} (h : Settled r r₁) (h' : Settled r r₂) : r₁ = r₂ := by
  induction h with
  | rests idle =>
    cases h' with
    | rests => rfl
    | polls next _ _ =>
      rw [idle] at next
      contradiction
  | polls next polled _ ih =>
    cases h' with
    | rests idle =>
      rw [idle] at next
      contradiction
    | polls next' polled' rest' =>
      cases next.symm.trans next'
      obtain ⟨-, rfl⟩ := polled.unique polled'
      exact ih rest'

end Relay

end EventRelay
