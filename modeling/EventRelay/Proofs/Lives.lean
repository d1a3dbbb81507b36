import EventRelay.Proofs.OnePoller
import EventRelay.Proofs.Publishing
import Mathlib.Data.List.Chain

namespace EventRelay

/-- The notice is about the life of a poller. -/
def NoticeKind.isLife : NoticeKind → Bool
  | .pollerStarted | .pollerInterrupted | .pollerStopped => true
  | _ => false

/-- The notices of a poller that was revived so many times before it stopped. -/
def lifespan (revivals : Nat) : List NoticeKind :=
  .pollerStarted :: List.replicate (revivals + 1) .pollerInterrupted ++ [.pollerStopped]

/-- The elements that count are the same in the same places. -/
theorem countP_eq_of_getElem? {α : Type} {p : α → Bool} {xs ys : List α}
    (h : ∀ (i : Nat) a, p a = true → (ys[i]? = some a ↔ xs[i]? = some a)) : ys.countP p = xs.countP p := by
  induction xs generalizing ys with
  | nil =>
    refine List.countP_eq_zero.mpr fun a ha hp => ?_
    obtain ⟨i, hi⟩ := List.mem_iff_getElem?.mp ha
    simpa using (h i a hp).mp hi
  | cons x xs ih =>
    cases ys with
    | nil =>
      refine (List.countP_eq_zero.mpr fun a ha hp => ?_).symm
      obtain ⟨i, hi⟩ := List.mem_iff_getElem?.mp ha
      simpa using (h i a hp).mpr hi
    | cons y ys =>
      have rest := ih fun i a hp => by simpa using h (i + 1) a hp
      have head : p y = p x := by
        rw [Bool.eq_iff_iff]
        constructor
        · intro hp
          have he := (h 0 y hp).mp rfl
          cases Option.some.inj he
          exact hp
        · intro hp
          have he := (h 0 x hp).mpr rfl
          cases Option.some.inj he
          exact hp
      rw [List.countP_cons, List.countP_cons, rest, head]

theorem countP_modify {α : Type} {p : α → Bool} {xs : List α} {i : Nat} {a : α} {f : α → α} (ha : xs[i]? = some a)
    (h : p (f a) = p a) : (xs.modify i f).countP p = xs.countP p := by
  induction xs generalizing i with
  | nil => rw [List.modify_nil]
  | cons x xs ih =>
    cases i with
    | zero =>
      cases Option.some.inj ha
      rw [List.modify_zero_cons, List.countP_cons, List.countP_cons, h]
    | succ i => rw [List.modify_succ_cons, List.countP_cons, List.countP_cons, ih ha]

namespace Occurrence

/-- The fact is about the life of a poller, about what the registry asks of it, or an interrupt by the controller. -/
def isLife : Occurrence → Bool
  | .registryFilled | .registryEmptied | .pollerStarted .. | .pollerInterrupted _ | .pollerStopped _
  | .interruptCalled .controller => true
  | _ => false

/-- Whether the registry is empty afterwards. -/
def turn? : Occurrence → Option Bool
  | .registryFilled => some false
  | .registryEmptied => some true
  | _ => none

def lifeNotice? (o : Occurrence) : Option NoticeKind := (o.notice?.map NoticeBody.kind).filter NoticeKind.isLife

theorem isLife_of_aside {o : Occurrence} (h : o.isAside = true) : o.isLife = false := by
  cases o <;> first | rfl | contradiction

theorem lifeNotice?_of_not_life {o : Occurrence} (h : o.isLife = false) : o.lifeNotice? = none := by
  cases o with
  | interruptCalled | fetchFailed | eventsSkipped | fired | dropped | handlerPanicked => rfl
  | discarded _ _ reason => cases reason <;> rfl
  | _ => first | rfl | contradiction

theorem turn?_of_not_life {o : Occurrence} (h : o.isLife = false) : o.turn? = none := by
  cases o <;> first | rfl | contradiction

end Occurrence

namespace Relay

variable {σ : Type}

/-- What was published about the lives of pollers, in order. -/
def lifeNotices (r : Relay σ) : List NoticeKind := (r.notices.map NoticeBody.kind).filter NoticeKind.isLife

/-- How many pollers were spawned. -/
def pollerCount (r : Relay σ) : Nat := r.tasks.rows.countP Task.isPoller

/-- Whether the registry was empty at first and after each fact about it, the latest first. -/
def turns (r : Relay σ) : List Bool := r.past.filterMap Occurrence.turn? ++ [true]

/-- No poller died over a delay that could not be computed. -/
def Healthy (r : Relay σ) : Prop := ∀ t ∈ r.tasks.rows, t.isPoller = true → t.ending ≠ some .panicked

theorem Healthy.row {r : Relay σ} (h : r.Healthy) {id : TaskId} {t : Task} (ht : r.tasks.get? id = some t)
    (poller : t.isPoller = true) : t.ending ≠ some .panicked :=
  h t (List.mem_of_getElem? ht) poller

def lifeFacts (r : Relay σ) : List Occurrence := r.past.filter Occurrence.isLife

theorem lifeFacts_of_aside {r r' : Relay σ} (h : Adds Occurrence.isAside r r') : r'.lifeFacts = r.lifeFacts :=
  h.filter fun _ => Occurrence.isLife_of_aside

theorem lifeFacts_note {r : Relay σ} {o : Occurrence} (ho : o.isLife = false) : (r.note o).lifeFacts = r.lifeFacts :=
  List.filter_cons_of_neg (by simp [ho])

theorem lifeNotices_eq (r : Relay σ) : r.lifeNotices = r.lifeFacts.reverse.filterMap Occurrence.lifeNotice? := by
  have same : ∀ o : Occurrence, (if o.isLife then o.lifeNotice? else none) = o.lifeNotice? := by
    intro o
    cases h : o.isLife with
    | true => rfl
    | false => exact (Occurrence.lifeNotice?_of_not_life h).symm
  unfold lifeNotices notices lifeFacts story
  rw [← List.filter_reverse, List.filterMap_filter, List.map_filterMap, List.filter_filterMap]
  simp only [same]
  rfl

theorem turns_eq (r : Relay σ) : r.turns = r.lifeFacts.filterMap Occurrence.turn? ++ [true] := by
  have same : ∀ o : Occurrence, (if o.isLife then o.turn? else none) = o.turn? := by
    intro o
    cases h : o.isLife with
    | true => rfl
    | false => exact (Occurrence.turn?_of_not_life h).symm
  unfold turns lifeFacts
  rw [List.filterMap_filter]
  simp only [same]

theorem lifeNotices_append {r r' : Relay σ} (news : List Occurrence) (h : r'.lifeFacts = news ++ r.lifeFacts) :
    r'.lifeNotices = r.lifeNotices ++ news.reverse.filterMap Occurrence.lifeNotice? := by
  rw [lifeNotices_eq, lifeNotices_eq, h, List.reverse_append, List.filterMap_append]

theorem turns_append {r r' : Relay σ} (news : List Occurrence) (h : r'.lifeFacts = news ++ r.lifeFacts) :
    r'.turns = news.filterMap Occurrence.turn? ++ r.turns := by
  rw [turns_eq, turns_eq, h, List.filterMap_append, List.append_assoc]

/-- What was published of the life that has not ended: nothing if the slot is vacant, and at least one interrupt if
nobody is registered. -/
inductive Living (r : Relay σ) : List NoticeKind → Prop
  | vacant (slot : r.slot.isSome = false) : Living r []
  | alive (interrupts : Nat) (slot : r.slot.isSome = true) (asked : r.registry.isEmpty = true → 0 < interrupts) :
      Living r (.pollerStarted :: List.replicate interrupts .pollerInterrupted)

/-- The notices tell the lives of the pollers. -/
structure Candid (r : Relay σ) : Prop where
  told : ∃ (lives : List Nat) (ongoing : List NoticeKind),
    r.lifeNotices = lives.flatMap lifespan ++ ongoing ∧ r.Living ongoing
  spawned : r.lifeNotices.count .pollerStarted = r.pollerCount
  called : r.lifeNotices.count .pollerInterrupted = r.lifeFacts.count (.interruptCalled .controller)
  emptied : r.lifeNotices.count .pollerInterrupted = r.lifeFacts.count .registryEmptied
  turning : r.turns.IsChain (· ≠ ·) ∧ r.turns.head? = some r.registry.isEmpty

/-- Nothing happened in the lives of pollers. -/
structure SameLives (r r' : Relay σ) : Prop where
  slot : r'.slot.isSome = r.slot.isSome
  registry : r'.registry.isEmpty = r.registry.isEmpty
  pollers : r'.pollerCount = r.pollerCount
  facts : r'.lifeFacts = r.lifeFacts

theorem SameLives.refl (r : Relay σ) : r.SameLives r := ⟨rfl, rfl, rfl, rfl⟩

theorem SameLives.trans {r r' r'' : Relay σ} (h : r.SameLives r') (h' : r'.SameLives r'') : r.SameLives r'' :=
  ⟨h'.slot.trans h.slot, h'.registry.trans h.registry, h'.pollers.trans h.pollers, h'.facts.trans h.facts⟩

/-- All that a step can mean for the lives of pollers. -/
inductive LifeStep (r r' : Relay σ) : Prop
  | kept (same : r.SameLives r')
  | started {source : String} {task : TaskId} {time : Instant} (vacant : r.slot.isSome = false)
      (slot : r'.slot.isSome = true) (empty : r.registry.isEmpty = true) (filled : r'.registry.isEmpty = false)
      (pollers : r'.pollerCount = r.pollerCount + 1)
      (facts : r'.lifeFacts = .pollerStarted source task time :: .registryFilled :: r.lifeFacts)
  | revived (slot : r'.slot.isSome = r.slot.isSome) (occupied : r.slot.isSome = true)
      (empty : r.registry.isEmpty = true) (filled : r'.registry.isEmpty = false)
      (pollers : r'.pollerCount = r.pollerCount) (facts : r'.lifeFacts = .registryFilled :: r.lifeFacts)
  | interrupted {source : String} (slot : r'.slot.isSome = r.slot.isSome) (occupied : r.slot.isSome = true)
      (filled : r.registry.isEmpty = false) (empty : r'.registry.isEmpty = true)
      (pollers : r'.pollerCount = r.pollerCount)
      (facts : r'.lifeFacts =
        .pollerInterrupted source :: .interruptCalled .controller :: .registryEmptied :: r.lifeFacts)
  | stopped {source : String} (occupied : r.slot.isSome = true) (vacant : r'.slot.isSome = false)
      (empty : r.registry.isEmpty = true) (registry : r'.registry.isEmpty = r.registry.isEmpty)
      (pollers : r'.pollerCount = r.pollerCount) (facts : r'.lifeFacts = .pollerStopped source :: r.lifeFacts)

/-- What is told of a registry that turned over, or did not. -/
theorem Candid.turning_on {r r' : Relay σ} (h : r.Candid) {new : List Bool} (turns : r'.turns = new ++ r.turns)
    (turn : new = if r'.registry.isEmpty = r.registry.isEmpty then [] else [r'.registry.isEmpty]) :
    r'.turns.IsChain (· ≠ ·) ∧ r'.turns.head? = some r'.registry.isEmpty := by
  obtain ⟨chain, latest⟩ := h.turning
  by_cases same : r'.registry.isEmpty = r.registry.isEmpty
  · rw [turns, turn, if_pos same, List.nil_append, same]
    exact ⟨chain, latest⟩
  · obtain ⟨rest, he⟩ := List.head?_eq_some_iff.mp latest
    rw [turns, turn, if_neg same]
    refine ⟨?_, rfl⟩
    rw [he] at chain ⊢
    exact List.isChain_cons_cons.mpr ⟨same, chain⟩

/-- What is told anew must be in balance with what was done. -/
theorem Candid.extend {r r' : Relay σ} (h : r.Candid) (news : List Occurrence) (new : List NoticeKind)
    (facts : r'.lifeFacts = news ++ r.lifeFacts) (published : news.reverse.filterMap Occurrence.lifeNotice? = new)
    (told : ∃ (lives : List Nat) (ongoing : List NoticeKind),
      r.lifeNotices ++ new = lives.flatMap lifespan ++ ongoing ∧ r'.Living ongoing)
    (pollers : r'.pollerCount = r.pollerCount + new.count .pollerStarted)
    (called : new.count .pollerInterrupted = news.count (.interruptCalled .controller))
    (emptied : new.count .pollerInterrupted = news.count .registryEmptied)
    (turn : news.filterMap Occurrence.turn? =
      if r'.registry.isEmpty = r.registry.isEmpty then [] else [r'.registry.isEmpty]) : r'.Candid := by
  have notices : r'.lifeNotices = r.lifeNotices ++ new := published ▸ lifeNotices_append news facts
  refine ⟨notices ▸ told, ?_, ?_, ?_, h.turning_on (turns_append news facts) turn⟩
  · rw [notices, List.count_append, h.spawned, pollers]
  · rw [notices, facts, List.count_append, List.count_append, h.called, called, Nat.add_comm]
  · rw [notices, facts, List.count_append, List.count_append, h.emptied, emptied, Nat.add_comm]

theorem SameControl.pollerCount {r r' : Relay σ} (h : r.SameControl r') : r'.pollerCount = r.pollerCount :=
  countP_eq_of_getElem? h.pollers

/-- Tasks that have ended stay as they ended. -/
structure KeepsEnded (r r' : Relay σ) : Prop where
  rows : ∀ {id t}, r.tasks.get? id = some t → t.hasEnded = true → r'.tasks.get? id = some t

theorem KeepsEnded.trans {r r' r'' : Relay σ} (h : r.KeepsEnded r') (h' : r'.KeepsEnded r'') : r.KeepsEnded r'' :=
  ⟨fun ht ended => h'.rows (h.rows ht ended) ended⟩

theorem Grown.keepsEnded {r r' : Relay σ} (h : r.Grown r') : r.KeepsEnded r' := ⟨fun ht _ => h.rows _ _ ht⟩

/-- Only a task that has not ended goes on. -/
theorem updateTask_keepsEnded {r r₁ r' : Relay σ} (h : r.Grown r₁) {id : TaskId} {name : String} {work : Work}
    (live : r.tasks.get? id = some ⟨name, work, none⟩) {f : Task → Task}
    (tasks : r'.tasks = r₁.tasks.update id f) : r.KeepsEnded r' := by
  refine ⟨fun {j t} ht ended => ?_⟩
  have other : id ≠ j := by
    rintro rfl
    cases live.symm.trans ht
    contradiction
  rw [tasks, Table.get?_update, if_neg other]
  exact h.rows j t ht

theorem KeepsEnded.healthy {r r' : Relay σ} (h : r.KeepsEnded r') (healthy : r'.Healthy) : r.Healthy := by
  intro t mem poller died
  obtain ⟨id, ht⟩ := List.mem_iff_getElem?.mp mem
  exact healthy.row (h.rows ht (by simp [Task.hasEnded, died])) poller died

theorem SameLives.aside {r r' : Relay σ} (same : r.SameControl r') (facts : r'.lifeFacts = r.lifeFacts) :
    r.SameLives r' :=
  ⟨by rw [same.slot], by rw [same.registry], same.pollerCount, facts⟩

theorem note_sameLives (r : Relay σ) {o : Occurrence} (ho : o.isLife = false) : r.SameLives (r.note o) :=
  ⟨rfl, rfl, rfl, lifeFacts_note ho⟩

/-- A poller goes on, or ends, as the poller that it is. -/
theorem updatePoller_sameLives {r : Relay σ} {id : TaskId} {failures : Nat} {stage : PollerStage}
    (hp : r.PollerAt id failures stage) {f : Task → Task} (hf : ∀ t, t.isPoller = true → (f t).isPoller = true) :
    r.SameLives { r with tasks := r.tasks.update id f } := by
  obtain ⟨name, ht⟩ := hp
  exact ⟨rfl, rfl, countP_modify ht (hf _ rfl), rfl⟩

theorem setWork_sameLives {r : Relay σ} {id : TaskId} {failures : Nat} {stage : PollerStage}
    (hp : r.PollerAt id failures stage) (failures' : Nat) (stage' : PollerStage) :
    r.SameLives (r.setWork id (.poller failures' stage')) :=
  updatePoller_sameLives hp fun _ _ => rfl

theorem endTask_sameLives {r : Relay σ} {id : TaskId} {failures : Nat} {stage : PollerStage}
    (hp : r.PollerAt id failures stage) (ending : Ending) : r.SameLives (r.endTask id ending) :=
  updatePoller_sameLives hp fun _ poller => poller

/-- What happens after nothing happened. -/
theorem SameLives.then {r r₁ r' : Relay σ} (same : r.SameLives r₁) (step : r₁.LifeStep r') : r.LifeStep r' := by
  obtain ⟨slot, registry, pollers, facts⟩ := same
  cases step with
  | kept same => exact .kept (SameLives.trans ⟨slot, registry, pollers, facts⟩ same)
  | started vacant occupied empty filled more told =>
    exact .started (slot ▸ vacant) occupied (registry ▸ empty) filled (pollers ▸ more) (facts ▸ told)
  | revived occupied held empty filled more told =>
    exact .revived (slot ▸ occupied) (slot ▸ held) (registry ▸ empty) filled (pollers ▸ more) (facts ▸ told)
  | interrupted occupied held filled empty more told =>
    exact .interrupted (slot ▸ occupied) (slot ▸ held) (registry ▸ filled) empty (pollers ▸ more) (facts ▸ told)
  | stopped held vacant empty kept more told =>
    exact .stopped (slot ▸ held) vacant (registry ▸ empty) (registry ▸ kept) (pollers ▸ more) (facts ▸ told)

theorem passOn_sameLives {r : Relay σ} {id : TaskId} {failures : Nat} {stage : PollerStage}
    (hp : r.PollerAt id failures stage) (f : Fetched) : r.SameLives (r.passOn id f).2 := by
  have moved : r.SameLives (r.moveCursor f) := by
    refine ⟨?_, ?_, (moveCursor_aside r f).toSameControl.pollerCount, ?_⟩
    · rw [(moveCursor_aside r f).slot]
    · rw [(moveCursor_aside r f).registry]
    · unfold lifeFacts
      rw [moveCursor_past, List.filter_append]
      unfold skips
      split <;> rfl
  have out := handOut_aside (r.moveCursor f) id f
  have poller := out.pollerAt ((moveCursor_aside r f).pollerAt hp)
  exact (moved.trans (.aside out.toSameControl (lifeFacts_of_aside (handOut_adds _ id f)))).trans
    (setWork_sameLives poller 0 .ready)

theorem Changed.lifeFacts {r r' : Relay σ} {registry : Registry} (h : r.Changed registry r') :
    r'.lifeFacts = turned r.registry registry ++ r.lifeFacts := by
  have all : ∀ o ∈ turned r.registry registry, o.isLife = true := by
    unfold turned
    cases r.registry.isEmpty <;> cases registry.isEmpty <;> simp [Occurrence.isLife]
  rw [lifeFacts_of_aside h.adds]
  unfold Relay.lifeFacts
  rw [withRegistry_past, List.filter_append, List.filter_eq_self.mpr all]

section Steps

variable [EventSource σ]

theorem startPoller_pollerCount (r : Relay σ) : r.startPoller.pollerCount = r.pollerCount + 1 := by
  change (r.tasks.rows ++ [_]).countP Task.isPoller = _
  rw [List.countP_append]
  rfl

/-- Whoever comes or goes, the poller is started, revived or interrupted exactly if the registry turned over. -/
theorem followRegistry_lifeStep {r r₀ : Relay σ} {registry : Registry} (changed : r.Changed registry r₀)
    (hl : r.Lifecycle) (healthy : r₀.followRegistry.Healthy) : r.LifeStep r₀.followRegistry := by
  have slot : r₀.slot = r.slot := changed.aside.slot
  have registry' : r₀.registry = registry := changed.aside.registry
  have count : r₀.pollerCount = r.pollerCount := changed.aside.toSameControl.pollerCount
  have facts := changed.lifeFacts
  have flag : ∀ {s}, r₀.slot = some s → r₀.isCancelled s.token = r.registry.isEmpty := by
    intro s hs
    rw [isCancelled, changed.aside.cancelled]
    exact hl.flag (slot ▸ hs)
  have alive : ∀ {s}, r₀.slot = some s → r₀.taskEnded s.task = false := by
    intro s hs
    rcases hl.task (slot ▸ hs) with ⟨f, stage, hp⟩ | ⟨name, f, stage, draw, ht, -⟩
    · exact taskEnded_of_pollerAt (changed.grown.pollerAt hp)
    · exact absurd rfl (healthy.row ((changed.grown.trans (followRegistry_grown r₀)).rows _ _ ht) rfl)
  have alignment := followRegistry_alignment r₀
  generalize r₀.followRegistry = r' at alignment
  cases alignment with
  | resting hs empty =>
    have before := hl.vacant (slot ▸ hs)
    refine .kept ⟨by rw [slot], empty.trans before.symm, count, ?_⟩
    rw [facts, turned, before, ← registry', empty]
    rfl
  | started hs filled =>
    have before := hl.vacant (slot ▸ hs)
    have told : r₀.startPoller.lifeFacts =
        .pollerStarted r₀.sourceName r₀.tasks.size r₀.readClock.1 :: r₀.lifeFacts := rfl
    rw [facts, turned, before, ← registry', filled] at told
    exact .started (by rw [← slot, hs]; rfl) rfl before filled ((startPoller_pollerCount r₀).trans (congrArg _ count))
      told
  | buried hs dead | replaced hs dead => exact absurd ((alive hs).symm.trans dead) Bool.false_ne_true
  | @stopped s hs _ empty raised =>
    have before := (flag hs).symm.trans raised
    have told : (r₀.stopPoller s).lifeFacts =
        .pollerInterrupted r₀.sourceName :: .interruptCalled .controller :: r₀.lifeFacts := rfl
    rw [facts, turned, before, ← registry', empty] at told
    exact .interrupted (congrArg _ slot) (by rw [← slot, hs]; rfl) before empty count told
  | stopping hs _ empty raised =>
    have before := (flag hs).symm.trans raised
    refine .kept ⟨by rw [slot], empty.trans before.symm, count, ?_⟩
    rw [facts, turned, before, ← registry', empty]
    rfl
  | revived hs _ filled raised =>
    have before := (flag hs).symm.trans raised
    have occupied : r.slot.isSome = true := by rw [← slot, hs]; rfl
    refine .revived occupied.symm occupied before filled count ?_
    change r₀.lifeFacts = _
    rw [facts, turned, before, ← registry', filled]
    rfl
  | running hs _ filled raised =>
    have before := (flag hs).symm.trans raised
    refine .kept ⟨by rw [slot], filled.trans before.symm, count, ?_⟩
    rw [facts, turned, before, ← registry', filled]
    rfl

theorem letGo_hasController {r : Relay σ} (last : r.handles = 1) :
    { r with handles := r.handles - 1 }.letGo.hasController = false := by
  have handles : { r with handles := r.handles - 1 }.letGo.handles = r.handles - 1 := by
    rw [letGo, (withRegistry_aside _ _).handles]
    unfold abandonPoller
    split <;> rfl
  rw [hasController, handles, last]
  rfl

theorem Deed.lifeStep {r r' : Relay σ} (h : Deed r r') (hl : r.Lifecycle) (hc : r'.hasController = true)
    (healthy : r'.Healthy) : r.LifeStep r' := by
  cases h with
  | aligned _ _ changed => exact followRegistry_lifeStep changed hl healthy
  | told o remark =>
    exact .kept (.aside (note_aside r o).toSameControl (lifeFacts_of_aside (note_adds r (o.isAside_of_remark remark))))
  | discarded reason sub =>
    exact .kept (.aside (discardPending_aside r reason sub).toSameControl
      (lifeFacts_of_aside (discardPending_adds r reason sub)))
  | fired event _ =>
    exact .kept (.aside (fireEvent_aside r event).toSameControl (lifeFacts_of_aside (fireEvent_adds r event)))
  | posted accepted =>
    obtain ⟨source, -, rfl⟩ := postToSource_ok accepted
    exact .kept ⟨rfl, rfl, rfl, lifeFacts_note rfl⟩
  | interrupted => exact .kept ⟨rfl, rfl, rfl, lifeFacts_note rfl⟩
  | closed | pushed | permitted | slept | observed | cloned | dropped => exact .kept ⟨rfl, rfl, rfl, rfl⟩
  | letGone last =>
    rw [letGo_hasController last] at hc
    contradiction

theorem Act.lifeStep {r r' : Relay σ} (h : Act r r') (hl : r.Lifecycle) (hc : r'.hasController = true)
    (healthy : r'.Healthy) : r.LifeStep r' := by
  rcases h.aside with deed | ⟨still, adds⟩
  · exact deed.lifeStep hl hc healthy
  · exact .kept (.aside still.toSameControl (lifeFacts_of_aside adds))

/-- A controller that is gone does not come back. -/
theorem Deed.controller {r r' : Relay σ} (h : Deed r r') (hc : r'.hasController = true) : r.hasController = true := by
  cases h with
  | aligned held _ _ | fired _ held | cloned held => exact held
  | told | interrupted | closed | pushed | permitted | slept | observed => exact hc
  | discarded reason sub => exact (discardPending_aside r reason sub).toSameControl.hasController.symm.trans hc
  | posted accepted =>
    obtain ⟨source, -, rfl⟩ := postToSource_ok accepted
    exact hc
  | dropped other =>
    simp only [hasController, bne_iff_ne] at hc ⊢
    omega
  | letGone last =>
    rw [letGo_hasController last] at hc
    contradiction

theorem Act.controller {r r' : Relay σ} (h : Act r r') (hc : r'.hasController = true) : r.hasController = true := by
  rcases h.still with deed | still
  · exact deed.controller hc
  · exact still.toSameControl.hasController.symm.trans hc

theorem Act.keepsEnded {r r' : Relay σ} (h : Act r r') : r.KeepsEnded r' := by
  cases h with
  | deed h => exact h.grown.keepsEnded
  | began => exact (beginHandling_aside r _ _ _).toGrown.keepsEnded
  | @left id sub _ worker d panic =>
    obtain ⟨name, ht⟩ := worker
    rw [leaveHandler_eq]
    exact updateTask_keepsEnded (reportOutcome_aside r sub d panic).toGrown ht rfl
  | waited worker _ | orphaned worker _ =>
    obtain ⟨name, ht⟩ := worker
    exact updateTask_keepsEnded (.refl r) ht rfl
  | @retired id sub _ worker _ _ =>
    obtain ⟨name, ht⟩ := worker
    exact updateTask_keepsEnded (updateSubscriber_aside r sub _).toGrown ht rfl

theorem Consulted.grown {r r' : Relay σ} {id : TaskId} {stage : PollerStage} {token : TokenId} {reply : FetchReply}
    (h : r.Consulted id stage token reply r') : r.Grown r' := by
  cases h with
  | asked => exact ⟨fun _ _ h => h, List.suffix_cons _ _⟩
  | declined | withdrawn | resumed => exact ⟨fun _ _ h => h, List.suffix_refl _⟩

theorem Consulted.sameLives {r r' : Relay σ} {id : TaskId} {stage : PollerStage} {token : TokenId}
    {reply : FetchReply} (h : r.Consulted id stage token reply r') : r.SameLives r' := by
  refine .aside h.sameControl ?_
  unfold lifeFacts
  rcases h.past with same | asked
  · rw [same]
  · rw [asked]
    rfl

theorem Taken.keepsEnded {r : Relay σ} {id : TaskId} {failures : Nat} {token : TokenId} {result : FetchResult}
    {turn : Turn × Relay σ} (h : r.Taken id failures token result turn) {stage : PollerStage}
    (hp : r.PollerAt id failures stage) : r.KeepsEnded turn.2 := by
  obtain ⟨name, ht⟩ := hp
  have told : r.Grown (r.note (.resultTaken id result)) := (note_aside r _).toGrown
  cases h with
  | orphaned | exited | ignored => exact updateTask_keepsEnded (.refl r) ht rfl
  | @passed f _ _ =>
    have cursor := (moveCursor_aside (r.note (.resultTaken id (.fetched f))) f).toGrown
    have moved : r.Grown ((r.note (.resultTaken id (.fetched f))).moveCursor f) :=
      ⟨fun j t hj => cursor.rows j t hj, told.past.trans cursor.past⟩
    exact updateTask_keepsEnded (moved.trans (handOut_aside _ id f).toGrown) ht rfl
  | failed =>
    unfold pauseAfter
    split <;> exact updateTask_keepsEnded (.refl r) ht rfl

theorem PollerStep.keepsEnded {r : Relay σ} {id : TaskId} {failures : Nat} {stage : PollerStage}
    {turn : Turn × Relay σ} (h : r.PollerStep id failures stage turn) (hp : r.PollerAt id failures stage) :
    r.KeepsEnded turn.2 := by
  cases h with
  | orphaned | exited | rested =>
    obtain ⟨name, ht⟩ := hp
    exact updateTask_keepsEnded (.refl r) ht rfl
  | asleep | resting => exact (Grown.refl r).keepsEnded
  | queued consulted =>
    obtain ⟨name, ht⟩ := hp
    exact updateTask_keepsEnded consulted.grown ht rfl
  | answered consulted =>
    exact consulted.grown.keepsEnded.trans ((takeResult_taken ..).keepsEnded (consulted.grown.pollerAt hp))

theorem PollerStep.handles {r : Relay σ} {id : TaskId} {failures : Nat} {stage : PollerStage} {turn : Turn × Relay σ}
    (h : r.PollerStep id failures stage turn) : turn.2.handles = r.handles := by
  cases h with
  | orphaned | exited | rested | asleep | resting => rfl
  | queued consulted => exact consulted.sameControl.handles
  | answered consulted => exact (takeResult_taken ..).leavesAlone.handles.trans consulted.sameControl.handles

theorem exitPoller_lifeStep {r : Relay σ} {id : TaskId} {failures : Nat} {stage : PollerStage}
    (hp : r.PollerAt id failures stage) (occupied : r.slot.isSome = true) (empty : r.registry.isEmpty = true) :
    r.LifeStep (r.exitPoller id).2 := by
  have told : (r.exitPoller id).2.lifeFacts = .pollerStopped r.sourceName :: r.lifeFacts := rfl
  exact .stopped occupied rfl empty rfl (endTask_sameLives hp .finished).pollers told

theorem Taken.lifeStep {r : Relay σ} {id : TaskId} {failures : Nat} {token : TokenId} {result : FetchResult}
    {turn : Turn × Relay σ} (h : r.Taken id failures token result turn) {stage : PollerStage}
    (hp : r.PollerAt id failures stage) (hc : r.hasController = true) (occupied : r.slot.isSome = true)
    (healthy : turn.2.Healthy) : r.LifeStep turn.2 := by
  have told : r.SameLives (r.note (.resultTaken id result)) := note_sameLives r rfl
  have poller : (r.note (.resultTaken id result)).PollerAt id failures stage := hp
  cases h with
  | orphaned alone => exact absurd (hc.symm.trans alone) Bool.noConfusion
  | exited _ empty => exact exitPoller_lifeStep hp occupied empty
  | passed => exact .kept (told.trans (passOn_sameLives poller _))
  | @ignored _ fault =>
    have noted : ((r.note (.resultTaken id result)).note (.nothingFetched fault)).PollerAt id failures stage := hp
    exact .kept ((told.trans (note_sameLives _ rfl)).trans (setWork_sameLives noted failures .ready))
  | @failed _ fault =>
    unfold pauseAfter at healthy ⊢
    split at healthy
    · -- the poller would have died here
      obtain ⟨name, ht⟩ := hp
      have died : (r.endTask id .panicked).tasks.get? id = some ⟨name, .poller failures stage, some .panicked⟩ := by
        simp [endTask_get?, ht]
      exact absurd rfl (healthy.row died rfl)
    · rename_i delay _
      have noted : r.SameLives ({ r.note (.resultTaken id result) with draws := r.draws + 1 }.note
          (.fetchFailed id r.sourceName fault (min (failures + 1) maxFailures) delay)) := ⟨rfl, rfl, rfl, rfl⟩
      have poller : ({ r.note (.resultTaken id result) with draws := r.draws + 1 }.note
          (.fetchFailed id r.sourceName fault (min (failures + 1) maxFailures) delay)).PollerAt id failures stage := hp
      exact .kept (noted.trans (setWork_sameLives poller _ _))

theorem PollerStep.lifeStep {r : Relay σ} {id : TaskId} {failures : Nat} {stage : PollerStage}
    {turn : Turn × Relay σ} (h : r.PollerStep id failures stage turn) (hp : r.PollerAt id failures stage)
    (hl : r.Lifecycle) (hc : r.hasController = true) (healthy : turn.2.Healthy) : r.LifeStep turn.2 := by
  obtain ⟨token, slot⟩ := hl.current hc hp
  have occupied : r.slot.isSome = true := by rw [slot]; rfl
  cases h with
  | orphaned alone =>
    rw [alone hc] at slot
    contradiction
  | exited _ empty => exact exitPoller_lifeStep hp occupied empty
  | answered consulted =>
    have same := consulted.sameControl
    exact consulted.sameLives.then ((takeResult_taken ..).lifeStep (same.pollerAt.mpr hp)
      (same.hasController.trans hc) (by rw [same.slot, occupied]) healthy)
  | queued consulted =>
    exact .kept (consulted.sameLives.trans (setWork_sameLives (consulted.sameControl.pollerAt.mpr hp) _ _))
  | rested => exact .kept (setWork_sameLives hp failures .ready)
  | asleep | resting => exact .kept (.refl r)

end Steps

variable [EventSource σ]

end Relay

end EventRelay
