import EventRelay.Session.ExecUnit
import Mathlib.Data.List.Induction

namespace EventRelay

/-- What is told of the task of a unit and of its handle. -/
inductive HandleFact
  | begun
  | taken
  | met
deriving DecidableEq

/-- A join that goes on waiting has taken the handle, and one that ends when it is looked after has seen the end. -/
def UnitStep.fact? : UnitStep → UnitAnswer → Option HandleFact
  | .start _, .started => some .begun
  | .join _, .join .pending => some .taken
  | .poll _, .join .joined => some .met
  | _, _ => none

namespace ExecUnit

def after (u : ExecUnit) (steps : List UnitStep) : ExecUnit := steps.foldl (fun u x => (u.step x).2) u

/-- What is told on the way, in order. -/
def facts (u : ExecUnit) : List UnitStep → List HandleFact
  | [] => []
  | x :: rest => (x.fact? (u.step x).1).toList ++ (u.step x).2.facts rest

theorem after_append (u : ExecUnit) (steps rest : List UnitStep) :
    u.after (steps ++ rest) = (u.after steps).after rest := List.foldl_append

theorem facts_concat (u : ExecUnit) (steps : List UnitStep) (x : UnitStep) :
    u.facts (steps ++ [x]) = u.facts steps ++ (x.fact? ((u.after steps).step x).1).toList := by
  induction steps generalizing u with
  | nil => simp [facts, after]
  | cons y rest ih =>
    simp only [List.cons_append, facts, ih, List.append_assoc]
    rfl

/-- All that a step can do to the handle, and what is told of it. -/
inductive Turned (u u' : ExecUnit) : Option HandleFact → Prop
  | kept (handle : u'.handle = u.handle) (joined : u'.joined = u.joined) (started : u'.isStarted = u.isStarted)
      (ended : u.taskEnded = true → u'.taskEnded = true) : Turned u u' none
  | begun (fresh : u.isStarted = false) (started : u'.isStarted = true) (handle : u'.handle = .inside)
      (joined : u'.joined = u.joined) : Turned u u' (some .begun)
  | taken {key : String} (inside : u.handle = .inside) (running : u.taskEnded = false) (task : u'.task = u.task)
      (handle : u'.handle = .joining key) (joined : u'.joined = u.joined) : Turned u u' (some .taken)
  | joined (inside : u.handle = .inside) (ended : u.taskEnded = true) (task : u'.task = u.task)
      (handle : u'.handle = .nowhere) (joined : u'.joined = true) : Turned u u' none
  | met {key : String} (waits : u.handle = .joining key) (ended : u.taskEnded = true) (task : u'.task = u.task)
      (handle : u'.handle = .nowhere) (joined : u'.joined = true) : Turned u u' (some .met)
  | lost {key : String} (waits : u.handle = .joining key) (task : u'.task = u.task) (handle : u'.handle = .nowhere)
      (joined : u'.joined = u.joined) : Turned u u' none

theorem run_turned (u : ExecUnit) : u.Turned u.run none := by
  unfold run
  split <;> rename_i task
  · exact .kept rfl rfl (by simp [isStarted, task]) (by simp [taskEnded, task, TaskState.hasEnded])
  · split
    · exact .kept rfl rfl rfl id
    · exact .kept rfl rfl (by simp [isStarted, task]) (by simp [taskEnded, task, TaskState.hasEnded])
  · exact .kept rfl rfl (by simp [isStarted, task]) (by simp [taskEnded, task, TaskState.hasEnded])
  · exact .kept rfl rfl rfl id

theorem cancelJoin_turned (u : ExecUnit) (key : String) : u.Turned (u.cancelJoin key).2 none := by
  unfold cancelJoin
  split
  · rename_i waits
    exact .lost waits rfl rfl rfl
  · exact .kept rfl rfl rfl id

/-- A join of a unit that has the handle ends at once or takes the handle, any other one ends at once. -/
theorem join_eq (u : ExecUnit) (key : String) : u.join key =
    if u.handle = .inside then
      if u.taskEnded = true then (.joined, { u with handle := .nowhere, joined := true })
      else (.pending, { u with handle := .joining key })
    else (.joined, (u.cancelJoin key).2) := by
  by_cases inside : u.handle = .inside
  · simp only [join, cancelJoin, pollJoin, inside, reduceCtorEq, if_true, if_false]
    rfl
  · have outside : (u.cancelJoin key).2.handle ≠ .inside := by
      unfold cancelJoin
      split
      · nofun
      · exact inside
    simp [join, inside, outside]

theorem step_turned (u : ExecUnit) (x : UnitStep) : u.Turned (u.step x).2 (x.fact? (u.step x).1) := by
  cases x with
  | start plan =>
    cases hs : u.isStarted with
    | true =>
      simp only [step, start, hs]
      exact .kept rfl rfl rfl id
    | false =>
      simp only [step, start, hs]
      exact .begun hs rfl rfl rfl
  | run => exact run_turned u
  | join key =>
    simp only [step, join_eq]
    split
    · rename_i inside
      split
      · rename_i ended
        exact .joined inside ended rfl rfl rfl
      · rename_i running
        exact .taken inside (by simpa using running) rfl rfl rfl
    · exact cancelJoin_turned u key
  | poll key =>
    simp only [step, pollJoin]
    split
    · rename_i waits
      split
      · rename_i ended
        exact .met waits ended rfl rfl rfl
      · exact .kept rfl rfl rfl id
    · exact .kept rfl rfl rfl id
  | cancel key => exact cancelJoin_turned u key
  | release | inspect | name => exact .kept rfl rfl rfl id

/-- The handle is where the facts told so far leave it. -/
structure Attested (facts : List HandleFact) (u : ExecUnit) : Prop where
  started : u.isStarted = true ↔ .begun ∈ facts
  inside : u.handle = .inside ↔ u.isStarted = true ∧ .taken ∉ facts ∧ u.joined = false
  waits : ∀ {key}, u.handle = .joining key → .taken ∈ facts ∧ u.joined = false
  joined : u.joined = true → u.isStarted = true ∧ u.taskEnded = true ∧ (.taken ∈ facts → .met ∈ facts)
  taken : .taken ∈ facts → u.isStarted = true
  met : .met ∈ facts → u.joined = true

theorem create_attested (name : String) : (create name).Attested [] := by
  constructor <;> simp [create, isStarted]

theorem started_of_taskEnded {u : ExecUnit} (ended : u.taskEnded = true) : u.isStarted = true := by
  cases ht : u.task with
  | none => simp [taskEnded, ht] at ended
  | some task => simp [isStarted, ht]

theorem isStarted_congr {u u' : ExecUnit} (task : u'.task = u.task) : u'.isStarted = u.isStarted := by
  simp only [isStarted, task]

theorem taskEnded_congr {u u' : ExecUnit} (task : u'.task = u.task) : u'.taskEnded = u.taskEnded := by
  simp only [taskEnded, task]

theorem Attested.turn {facts : List HandleFact} {u u' : ExecUnit} {fact : Option HandleFact}
    (h : u.Attested facts) (turned : u.Turned u' fact) : u'.Attested (facts ++ fact.toList) := by
  have unmet (waiting : u.joined = false) : .met ∉ facts := fun met => by simp [h.met met] at waiting
  cases turned with
  | kept handle joined started ended =>
    simp only [Option.toList_none, List.append_nil]
    refine ⟨started ▸ h.started, ?_, ?_, ?_, started ▸ h.taken, joined ▸ h.met⟩
    · rw [handle, started, joined]
      exact h.inside
    · rw [handle, joined]
      exact h.waits
    · rw [joined, started]
      intro seen
      obtain ⟨begun, before, met⟩ := h.joined seen
      exact ⟨begun, ended before, met⟩
  | begun fresh started handle joined =>
    have untaken : .taken ∉ facts := fun taken => by simp [h.taken taken] at fresh
    have waiting : u.joined = false := by
      cases hj : u.joined with
      | false => rfl
      | true => simp [(h.joined hj).1] at fresh
    constructor <;> simp [started, handle, joined, untaken, waiting, unmet waiting]
  | taken inside _ task handle joined =>
    obtain ⟨started, -, waiting⟩ := h.inside.mp inside
    have begun := h.started.mp started
    constructor <;> simp [isStarted_congr task, started, begun, handle, joined, waiting, unmet waiting]
  | joined inside ended task handle joined =>
    obtain ⟨started, untaken, -⟩ := h.inside.mp inside
    have begun := h.started.mp started
    constructor <;> simp [isStarted_congr task, taskEnded_congr task, started, begun, handle, joined, untaken, ended]
  | met waits ended task handle joined =>
    have started := started_of_taskEnded ended
    have begun := h.started.mp started
    constructor <;> simp [isStarted_congr task, taskEnded_congr task, started, begun, handle, joined, ended]
  | lost waits task handle joined =>
    obtain ⟨taken, waiting⟩ := h.waits waits
    have started := h.taken taken
    have begun := h.started.mp started
    constructor <;>
      simp [isStarted_congr task, started, begun, handle, joined, taken, waiting, unmet waiting]

theorem after_attested (name : String) (steps : List UnitStep) :
    ((create name).after steps).Attested ((create name).facts steps) := by
  induction steps using List.reverseRecOn with
  | nil => exact create_attested name
  | append_singleton steps x ih =>
    rw [after_append, facts_concat]
    exact ih.turn (step_turned _ x)

theorem Attested.isFinished_iff {facts : List HandleFact} {u : ExecUnit} (h : u.Attested facts) :
    u.isFinished = true ↔ .begun ∈ facts ∧ u.taskEnded = true ∧ (.taken ∈ facts → .met ∈ facts) := by
  rw [← h.started]
  simp only [isFinished, Bool.or_eq_true, Bool.and_eq_true, beq_iff_eq]
  constructor
  · rintro (joined | ⟨inside, ended⟩)
    · exact h.joined joined
    · obtain ⟨started, untaken, -⟩ := h.inside.mp inside
      exact ⟨started, ended, fun taken => absurd taken untaken⟩
  · rintro ⟨started, ended, seen⟩
    cases joined : u.joined with
    | true => exact .inl rfl
    | false =>
      have untaken : .taken ∉ facts := fun taken => by simp [h.met (seen taken)] at joined
      exact .inr ⟨h.inside.mpr ⟨started, untaken, joined⟩, ended⟩

/-- What is finished stays so. -/
theorem Attested.stays {facts : List HandleFact} {u u' : ExecUnit} {fact : Option HandleFact} (h : u.Attested facts)
    (turned : u.Turned u' fact) (finished : u.isFinished = true) : u'.isFinished = true := by
  obtain ⟨begun, ended, -⟩ := h.isFinished_iff.mp finished
  simp only [isFinished, Bool.or_eq_true, Bool.and_eq_true, beq_iff_eq] at finished ⊢
  cases turned with
  | kept handle joined _ later =>
    rw [handle, joined]
    exact finished.imp_right fun inside => ⟨inside.1, later inside.2⟩
  | begun fresh =>
    rw [h.started.mpr begun] at fresh
    contradiction
  | taken _ running =>
    rw [ended] at running
    contradiction
  | joined _ _ _ _ joined | met _ _ _ _ joined => exact .inl joined
  | lost waits _ _ joined =>
    rw [joined]
    exact finished.imp_right fun inside => by simp [waits] at inside

theorem after_stays {name : String} {steps : List UnitStep} (rest : List UnitStep)
    (finished : ((create name).after steps).isFinished = true) :
    ((create name).after (steps ++ rest)).isFinished = true := by
  induction rest using List.reverseRecOn with
  | nil => simpa using finished
  | append_singleton rest x ih =>
    rw [← List.append_assoc, after_append _ (steps ++ rest)]
    exact (after_attested name (steps ++ rest)).stays (step_turned _ x) ih

/-- A unit is finished once its task has ended, however it ended, if no join took the handle before, or if the one that
did has seen the end; and then it stays finished. -/
theorem finished_once_ended (name : String) (steps : List UnitStep) :
    (((create name).after steps).isFinished = true ↔
      .begun ∈ (create name).facts steps ∧ ((create name).after steps).taskEnded = true ∧
      (.taken ∈ (create name).facts steps → .met ∈ (create name).facts steps)) ∧
    ∀ rest, ((create name).after steps).isFinished = true →
      ((create name).after (steps ++ rest)).isFinished = true :=
  ⟨(after_attested name steps).isFinished_iff, fun rest finished => after_stays rest finished⟩

/-- A join that waits keeps the end of the task to itself, and one that is dropped while it waits takes it along. -/
theorem taken_end_goes_unseen :
    let u := (create "u").after [.start .finish, .join "a", .run]
    u.taskEnded = true ∧ u.isFinished = false ∧
      (u.after [.cancel "a"]).isFinished = false ∧ (u.after [.cancel "a", .join "b", .run]).isFinished = false := by
  decide

theorem Attested.join_eq_joined {facts : List HandleFact} {u : ExecUnit} (h : u.Attested facts) (key : String) :
    (u.step (.join key)).1 = .join .joined ↔
      u.taskEnded = true ∨ u.isStarted = false ∨ .taken ∈ facts := by
  simp only [step, join_eq]
  by_cases inside : u.handle = .inside
  · obtain ⟨started, untaken, -⟩ := h.inside.mp inside
    cases ended : u.taskEnded <;> simp [inside, started, untaken]
  · rw [if_neg inside]
    refine ⟨fun _ => ?_, fun _ => rfl⟩
    cases ended : u.taskEnded with
    | true => exact .inl rfl
    | false =>
      have waiting : u.joined = false := by
        cases joined : u.joined with
        | false => rfl
        | true => simp [(h.joined joined).2.1] at ended
      cases started : u.isStarted with
      | false => exact .inr (.inl rfl)
      | true =>
        refine .inr (.inr ?_)
        by_contra untaken
        exact inside (h.inside.mpr ⟨started, untaken, waiting⟩)

theorem poll_joined {u : ExecUnit} {key : String} (joined : (u.step (.poll key)).1 = .join .joined) :
    u.taskEnded = true := by
  simp only [step, pollJoin] at joined
  split at joined
  · split at joined
    · rename_i ended
      exact ended
    · cases joined
  · cases joined

/-- A join that is over when it is first looked after has waited for the task, unless there was none or an earlier join
took the handle; any other join is over only when the task has ended. -/
theorem join_waits_unless_taken (name : String) (steps : List UnitStep) (key : String) :
    ((((create name).after steps).step (.join key)).1 = .join .joined ↔
      ((create name).after steps).taskEnded = true ∨ ((create name).after steps).isStarted = false ∨
      .taken ∈ (create name).facts steps) ∧
    ((((create name).after steps).step (.poll key)).1 = .join .joined →
      ((create name).after steps).taskEnded = true) :=
  ⟨(after_attested name steps).join_eq_joined key, poll_joined⟩

/-- The handle taken, a second join does not wait, whether the first one still does or was dropped. -/
theorem second_join_does_not_wait :
    let u := (create "u").after [.start .waitThenFinish, .join "a"]
    u.isStarted = true ∧ u.taskEnded = false ∧ (u.step (.join "b")).1 = .join .joined ∧
      ((u.after [.cancel "a"]).step (.join "b")).1 = .join .joined :=
  ⟨rfl, rfl, rfl, rfl⟩

end ExecUnit

end EventRelay
