import EventRelay.Proofs.Heed
import EventRelay.Proofs.Publishing
import Mathlib.Data.List.Forall2

namespace EventRelay

/-- A notice of a failed fetch, or of events that were skipped. -/
def NoticeBody.isTrouble (n : NoticeBody) : Bool := n.kind == .fetchFailed || n.kind == .eventsSkipped

namespace Occurrence

def fetchedIndex? : Occurrence → Option Nat
  | .resultTaken _ (.fetched f) => some f.index
  | _ => none

def troubleNotice? : Occurrence → Option NoticeBody
  | o@(.fetchFailed ..) | o@(.eventsSkipped ..) => o.notice?
  | _ => none

end Occurrence

namespace Sight

def entered? (sub : SubId) : Sight → Option Event
  | .entered sub' event => if sub' = sub then some event else none
  | _ => none

def fetched? : Sight → Option Nat
  | .fetched index => some index
  | _ => none

def told? : Sight → Option NoticeBody
  | .told body => some body
  | _ => none

end Sight

/-- What is seen of a step and of all that happened until then, apart from fetches that found nothing. -/
structure Moment.SameCourse {σ : Type} (m m' : Moment σ) : Prop where
  step : m.step = m'.step
  entered : ∀ sub, (m.relay.enteredBy sub).map Delivery.event = (m'.relay.enteredBy sub).map Delivery.event
  fetched : m.relay.story.filterMap Occurrence.fetchedIndex? = m'.relay.story.filterMap Occurrence.fetchedIndex?
  registry : m.relay.registry = m'.relay.registry
  cursor : m.relay.cursor = m'.relay.cursor
  slot : m.relay.slot.isSome = m'.relay.slot.isSome
  troubles : m.relay.notices.filter NoticeBody.isTrouble = m'.relay.notices.filter NoticeBody.isTrouble

theorem Relay.troubles_eq {σ : Type} (r : Relay σ) :
    r.notices.filter NoticeBody.isTrouble = r.story.filterMap Occurrence.troubleNotice? := by
  rw [notices, List.filter_filterMap]
  congr 1
  funext o
  cases o with
  | discarded _ _ reason => cases reason <;> rfl
  | _ => rfl

open Relay Vantage

namespace Vantage

variable {config : RingSize} {r r' r₁ : Relay EventRing} {i j : TaskId} {pairs : TaskId → TaskId → Prop}

theorem Alike.due (h : deaf.Alike pairs r r') : r.due? = r'.due? := by
  have line : r'.source.LineOnly r.source := EventRing.cleared_eq_iff.mp h.source.symm
  unfold due?
  rw [h.hasController, h.registry, h.cursor, line.look?]

theorem Alike.slotToken (h : deaf.Alike pairs r r') : r.slotToken = r'.slotToken := by
  unfold Relay.slotToken
  rcases h.slots with ⟨hn, hn'⟩ | ⟨s, s', hs, hs', token, -⟩
  · rw [hn, hn']
  · rw [hs, hs']
    exact token

/-- Pollers that look alike both pause, until the same time, or neither does. -/
theorem deaf_stages {f f' : Nat} {p p' : PollerStage} (same : deaf.work (.poller f p) = deaf.work (.poller f' p')) :
    f = f' ∧ (((∀ token deadline, p ≠ .pausing token deadline) ∧ ∀ token deadline, p' ≠ .pausing token deadline) ∨
      ∃ token deadline, p = .pausing token deadline ∧ p' = .pausing token deadline) := by
  cases p with
  | pausing token deadline =>
    cases p' with
    | pausing =>
      cases same
      exact ⟨rfl, .inr ⟨token, deadline, rfl, rfl⟩⟩
    | ready | fetching =>
      change Work.poller f (.pausing token deadline) = .poller f' .ready at same
      cases same
  | ready | fetching =>
    cases p' with
    | pausing token deadline =>
      change Work.poller f .ready = .poller f' (.pausing token deadline) at same
      cases same
    | ready | fetching =>
      change Work.poller f .ready = .poller f' .ready at same
      cases same
      exact ⟨rfl, .inl ⟨nofun, nofun⟩⟩

/-- A poller and its twin. -/
theorem Alike.pollerAt (h : deaf.Alike pairs r r') (twins : deaf.Twins r r' i j) {f : Nat} {p : PollerStage}
    (hp : r.PollerAt i f p) : ∃ p', r'.PollerAt j f p' ∧
      (((∀ token deadline, p ≠ .pausing token deadline) ∧ ∀ token deadline, p' ≠ .pausing token deadline) ∨
        ∃ token deadline, p = .pausing token deadline ∧ p' = .pausing token deadline) := by
  obtain ⟨name, ht⟩ := hp
  obtain ⟨-, ⟨name', work', ending'⟩, ht', -⟩ := twins.found
  obtain ⟨same, ending⟩ := h.row twins ht ht'
  cases ending
  cases same_work same with
  | poller f f' p p' =>
    obtain ⟨rfl, stages⟩ := deaf_stages same
    exact ⟨p', ⟨name', ht'⟩, stages⟩

/-- Nothing is hidden, so twins have the same number. -/
theorem deaf_twins_eq (twins : deaf.Twins r r' i j) : i = j := by
  have marks : ∀ tasks : Table Task, deaf.marks tasks = List.replicate tasks.size true := by
    intro tasks
    refine List.eq_replicate_iff.mpr ⟨List.length_map _, fun mark hm => ?_⟩
    obtain ⟨t, -, rfl⟩ := List.mem_map.mp hm
    exact deaf_shows t.work
  obtain ⟨⟨t, ht, -⟩, t', ht', -⟩ := twins.found
  have inside := Table.lt_of_get? ht
  have inside' := Table.lt_of_get? ht'
  have rank := twins.rank
  rw [marks, marks, List.take_replicate, List.take_replicate, List.count_replicate_self, List.count_replicate_self,
    Nat.min_eq_left (Nat.le_of_lt inside), Nat.min_eq_left (Nat.le_of_lt inside')] at rank
  exact rank

/-- Everything that is there is its own twin. -/
theorem deaf_twins {tasks : Table Task} {t : Task} (ht : tasks.get? i = some t) :
    Twin (deaf.marks tasks) (deaf.marks tasks) i i :=
  ⟨(marks_get? ht).trans (congrArg some (deaf_shows _)), (marks_get? ht).trans (congrArg some (deaf_shows _)), rfl⟩

theorem like_self (h : r.Lifecycle) : deaf.Like r r := by
  refine ⟨rfl, ?_, fun sub => ?_, rfl, nofun, rfl⟩
  · cases hs : r.slot with
    | none => exact .none
    | some s =>
      refine .some ⟨rfl, ?_⟩
      rcases h.task hs with ⟨f, stage, name, ht⟩ | ⟨name, f, stage, draw, ht, -⟩
      · exact deaf_twins ht
      · exact deaf_twins ht
  · cases hs : r.subscribers.get? sub with
    | none => exact .none
    | some s => exact .some ⟨rfl, rfl, rfl, rfl, rfl, rfl⟩

theorem Hushed.like (h : Hushed r r') (lifecycle : r.Lifecycle) : deaf.Like r r' := h.alike (like_self lifecycle)

end Vantage

namespace Relay

variable {config : RingSize} {r r' r₁ : Relay EventRing} {i j : TaskId}

/-- A poller that does not pause comes to where it takes what is due, or waits if nothing is. -/
inductive CatchesUp (r : Relay EventRing) (id : TaskId) (failures : Nat) : Prop
  | takes {n : Nat} {r₁ r₂ r₃ : Relay EventRing} {turn : Turn} {result : FetchResult} (going : Goes id n r r₁)
      (step : r₁.Takes id turn r₃) (due : r.due? = some result) (hushed : Hushed r r₂)
      (taken : r₂.takeResult id failures r.slotToken result = (turn, r₃)) : CatchesUp r id failures
  | waits {n : Nat} {r₁ r₂ : Relay EventRing} {token : TokenId} {ticket : Ticket} (going : Goes id n r r₁)
      (step : r₁.Takes id .blocked r₂) (none : r.due? = none) (hushed : Hushed r r₂)
      (poller : r₂.PollerAt id failures (.fetching token ticket)) (flag : r₂.isCancelled token = false)
      (asleep : EventSource.isAwake r₂.source ticket = false) : CatchesUp r id failures

theorem PollerAt.takes {failures : Nat} {stage : PollerStage} (hp : r.PollerAt i failures stage) {turn : Turn}
    (he : r.pollerTurn i failures stage = (turn, r')) : r.Takes i turn r' := by
  obtain ⟨name, ht⟩ := hp
  exact ⟨name, _, ht, he⟩

theorem Takes.pollerTurn {failures : Nat} {stage : PollerStage} {turn : Turn} (step : r.Takes i turn r')
    (hp : r.PollerAt i failures stage) : r.pollerTurn i failures stage = (turn, r') := by
  obtain ⟨name, ht⟩ := hp
  obtain ⟨_, _, ht', he⟩ := step
  cases ht.symm.trans ht'
  exact he

theorem catches_up (n : Nat) (hr : Reachable (EventRing.create config) r) {failures : Nat} {stage : PollerStage}
    (hp : r.PollerAt i failures stage) (attends : ∀ token deadline, stage ≠ .pausing token deadline)
    (bound : r.patience stage ≤ n) : r.CatchesUp i failures := by
  -- on how often the poller may still come back to where it looks
  induction n using Nat.strongRecOn generalizing r stage with
  | ind n ih =>
    have heeds := hr.orderly.heeds hr.attentive hp attends
    generalize he : r.pollerTurn i failures stage = turn at heeds
    cases heeds with
    | @takes result r₂ due hushed =>
      exact .takes (.stay r) (hp.takes (he.trans rfl)) due hushed rfl
    | @waits token ticket r₂ none hushed poller flag asleep =>
      exact .waits (.stay r) (hp.takes he) none hushed poller flag asleep
    | @returns r₁ hushed poller sooner =>
      have step := hp.takes he
      have like := hushed.like hr.lifecycle
      cases ih _ (Nat.lt_of_lt_of_le sooner bound) (hr.leads step.leads) poller nofun (Nat.le_refl _) with
      | takes going step' due hushed' taken =>
        rw [← like.due] at due
        rw [← like.slotToken] at taken
        exact .takes (.go step going) step' due (hushed.trans hushed') taken
      | waits going step' none hushed' poller' flag asleep =>
        rw [← like.due] at none
        exact .waits (.go step going) step' none (hushed.trans hushed') poller' flag asleep

/-- The poller of the one takes a step. Nobody can tell that it did, or the other takes the same step, perhaps later. -/
theorem follows_step (hr : Reachable (EventRing.create config) r) (hr' : Reachable (EventRing.create config) r')
    (h : deaf.Alike (fun a b => a = i ∧ b = j) r r') {failures : Nat} {stage : PollerStage}
    (hp : r.PollerAt i failures stage) {turn : Turn} (step : r.Takes i turn r₁) :
    (turn = .going ∧ deaf.Alike (fun a b => a = i ∧ b = j) r₁ r') ∨
    ∃ n r₂ r₁', Goes j n r' r₂ ∧ r₂.Takes j turn r₁' ∧ deaf.Alike (fun a b => a = i ∧ b = j) r₁ r₁' := by
  have he := step.pollerTurn hp
  obtain ⟨stage', hp', ⟨attends, attends'⟩ | ⟨token, deadline, rfl, rfl⟩⟩ := h.pollerAt (h.pairs ⟨rfl, rfl⟩) hp
  · have heeds := hr.orderly.heeds hr.attentive hp attends
    have other := catches_up _ hr' hp' attends' (Nat.le_refl _)
    rw [he] at heeds
    generalize ht : (turn, r₁) = taken at heeds
    cases heeds with
    | @takes result r₂ due hushed =>
      cases other with
      | @takes n r₃ r₄ r₅ turn' result' going step' due' hushed' taken' =>
        cases due.symm.trans (h.due.trans due')
        have alike := hushed'.alike (hushed.alike h.symm).symm
        have agree := alike.takeResult ⟨rfl, rfl⟩ failures r.slotToken result
        rw [← ht] at agree
        rw [h.slotToken, taken'] at agree
        obtain ⟨rfl, alike'⟩ := agree
        exact .inr ⟨n, r₃, r₅, going, step', alike'⟩
      | waits _ _ none =>
        rw [h.due, none] at due
        contradiction
    | @returns r₂ hushed _ _ =>
      cases ht
      exact .inl ⟨rfl, (hushed.alike h.symm).symm⟩
    | @waits token ticket r₂ none hushed _ _ _ =>
      cases ht
      cases other with
      | takes _ _ due =>
        rw [← h.due, none] at due
        contradiction
      | @waits n r₃ r₄ _ _ going step' _ hushed' _ _ _ =>
        exact .inr ⟨n, r₃, r₄, going, step', hushed'.alike (hushed.alike h.symm).symm⟩
  · have agree := h.restTurn ⟨rfl, rfl⟩ failures token deadline
    rw [he] at agree
    have step' := hp'.takes (Prod.ext agree.outcome.symm rfl : r'.pollerTurn j failures (.pausing token deadline) =
      (turn, (r'.pollerTurn j failures (.pausing token deadline)).2))
    exact .inr ⟨0, r', _, .stay r', step', agree.alike⟩

/-- A poll of the poller is followed by a poll of its twin. -/
theorem follows_poll (hr : Reachable (EventRing.create config) r) (hr' : Reachable (EventRing.create config) r')
    (h : deaf.Alike (fun a b => a = i ∧ b = j) r r') {failures : Nat} {stage : PollerStage}
    (hp : r.PollerAt i failures stage) {n : Nat} {r₂ : Relay EventRing} {turn : Turn} {reply : PollReply}
    (going : Goes i n r r₁) (step : r₁.Takes i turn r₂) (last : turn.reply? = some reply) :
    ∃ r₂', Polled j r' reply r₂' ∧ deaf.Like r₂ r₂' := by
  -- the twin stays where it is during the steps that nobody can tell, and catches up at each of the others
  induction going generalizing r' failures stage with
  | stay r =>
    rcases follows_step hr hr' h hp step with ⟨rfl, -⟩ | ⟨m, r₃, r₂', going', step', alike⟩
    · contradiction
    · exact ⟨r₂', .stops going' step' last, alike.like⟩
  | go first _ ih =>
    obtain ⟨f, p, poller⟩ := hp.going first
    have later := hr.leads first.leads
    rcases follows_step hr hr' h hp first with ⟨-, alike⟩ | ⟨m, r₃, r₂', going', step', alike⟩
    · exact ih later hr' alike poller step
    · obtain ⟨r₄, polled, like⟩ := ih later ((hr'.leads going'.leads).leads step'.leads) alike poller step
      obtain ⟨_, _, more⟩ := step'.next
      exact ⟨r₄, polled.after (going'.append (.go step' (.stay _))) more.live more.present, like⟩

/-- A poll of a task is followed by a poll of its twin. -/
theorem follows (hr : Reachable (EventRing.create config) r) (hr' : Reachable (EventRing.create config) r')
    (h : deaf.Like r r') (twins : deaf.Twins r r' i j) {reply : PollReply} (polled : Polled i r reply r₁) :
    ∃ r₁', Polled j r' reply r₁' ∧ deaf.Like r₁ r₁' := by
  obtain ⟨⟨⟨name, work, ending⟩, ht, -⟩, -⟩ := twins.found
  by_cases poller : ∃ f p, r.PollerAt i f p
  · obtain ⟨f, p, hp⟩ := poller
    cases polled with
    | absent absent =>
      rw [absent] at ht
      contradiction
    | ended ended => exact ⟨r', .ended ((h.taskEnded twins).symm.trans ended), h⟩
    | stops going step last => exact follows_poll hr hr' (h.pair twins) hp going step last
  · refine polled_together (P := fun r => ∀ f p, ¬ r.PollerAt i f p) ?_ polled (fun f p hp => poller ⟨f, p, hp⟩) h twins
    intro r r' r₁ turn other h step
    refine ⟨fun f p hp => ?_, h.takes ⟨rfl, rfl⟩ step fun f p _ _ hp => absurd hp (other f p)⟩
    obtain ⟨f, p, hp⟩ := step.was_poller hp
    exact other f p hp

/-- A poller that does not pause, though nothing is due. -/
def Dormant (r : Relay EventRing) (id : TaskId) : Prop :=
  ∃ f p, r.PollerAt id f p ∧ (∀ token deadline, p ≠ .pausing token deadline) ∧ r.due? = none

theorem Dormant.step (hr : Reachable (EventRing.create config) r) (h : r.Dormant i) {turn : Turn}
    (step : r.Takes i turn r₁) : Hushed r r₁ ∧ r₁.Dormant i := by
  obtain ⟨f, p, hp, attends, none⟩ := h
  have heeds := hr.orderly.heeds hr.attentive hp attends
  rw [step.pollerTurn hp] at heeds
  generalize ht : (turn, r₁) = taken at heeds
  cases heeds with
  | takes due =>
    rw [none] at due
    contradiction
  | returns hushed poller _ =>
    cases ht
    exact ⟨hushed, f, _, poller, nofun, (hushed.like hr.lifecycle).due.symm.trans none⟩
  | waits _ hushed poller _ _ =>
    cases ht
    exact ⟨hushed, f, _, poller, nofun, (hushed.like hr.lifecycle).due.symm.trans none⟩

theorem Dormant.goes {n : Nat} (going : Goes i n r r₁) (hr : Reachable (EventRing.create config) r) (h : r.Dormant i) :
    Hushed r r₁ ∧ r₁.Dormant i := by
  induction going with
  | stay r => exact ⟨.refl r, h⟩
  | go step _ ih =>
    obtain ⟨hushed, dormant⟩ := h.step hr step
    obtain ⟨hushed', dormant'⟩ := ih (hr.leads step.leads) dormant
    exact ⟨hushed.trans hushed', dormant'⟩

theorem Dormant.polled (hr : Reachable (EventRing.create config) r) (h : r.Dormant i) {reply : PollReply}
    (polled : Polled i r reply r₁) : Hushed r r₁ := by
  cases polled with
  | absent | ended => exact .refl r
  | stops going step last =>
    obtain ⟨hushed, dormant⟩ := h.goes going hr
    exact hushed.trans (dormant.step (hr.leads going.leads) step).1

/-- A poller that does not pause can run if anything is due. -/
theorem isRunnable_of_due (hr : Reachable (EventRing.create config) r) {name : String} {f : Nat} {p : PollerStage}
    (ht : r.tasks.get? i = some ⟨name, .poller f p, none⟩) (attends : ∀ token deadline, p ≠ .pausing token deadline)
    (due : r.due? ≠ none) : r.isRunnable ⟨name, .poller f p, none⟩ = true := by
  cases p with
  | ready => rfl
  | pausing => exact absurd rfl (attends _ _)
  | fetching token ticket =>
    cases flag : r.isCancelled token with
    | true => simp [isRunnable, Task.hasEnded, flag]
    | false =>
      have attending := hr.orderly.attends ⟨name, ht⟩ rfl flag
      cases awake : EventSource.isAwake r.source ticket with
      | true => simp [isRunnable, Task.hasEnded, awake]
      | false => exact absurd (attending.asleep hr.orderly hr.attentive ⟨name, ht⟩ awake) due

theorem Dormant.back (h : deaf.Like r r') (twins : deaf.Twins r r' i j) (dormant : r.Dormant i) : r'.Dormant j := by
  obtain ⟨f, p, hp, attends, none⟩ := dormant
  obtain ⟨p', hp', ⟨-, attends'⟩ | ⟨token, deadline, rfl, -⟩⟩ := h.pollerAt twins hp
  · exact ⟨f, p', hp', attends', h.due.symm.trans none⟩
  · exact absurd rfl (attends _ _)

/-- A task and its twin can both run, or neither can, unless the task is a poller for which nothing is due. -/
theorem isRunnable_alike (hr : Reachable (EventRing.create config) r) (hr' : Reachable (EventRing.create config) r')
    (h : deaf.Like r r') (twins : deaf.Twins r r' i j) {t t' : Task} (ht : r.tasks.get? i = some t)
    (ht' : r'.tasks.get? j = some t') (awake : ¬ r.Dormant i) : r.isRunnable t = r'.isRunnable t' := by
  refine h.isRunnable twins ht ht' fun f p f' p' hw hw' => ?_
  obtain ⟨work, ending⟩ := h.row twins ht ht'
  obtain ⟨name, w, e⟩ := t
  obtain ⟨name', w', e'⟩ := t'
  cases hw
  cases hw'
  cases ending
  cases e with
  | some => rfl
  | none =>
    obtain ⟨rfl, ⟨attends, attends'⟩ | ⟨token, deadline, rfl, rfl⟩⟩ := deaf_stages work
    · have due : r.due? ≠ none := fun none => awake ⟨f, p, ⟨name, ht⟩, attends, none⟩
      rw [isRunnable_of_due hr ht attends due, isRunnable_of_due hr' ht' attends' (h.due ▸ due)]
    · have now : r.now = r'.now := h.seen Relay.now fun _ => rfl
      simp only [isRunnable, h.isCancelled, now, Task.hasEnded]

/-- A poller for which nothing is due waits after a poll, and no other is there. -/
theorem Dormant.rests (hr : Reachable (EventRing.create config) r) (h : r.Dormant i) :
    ∃ reply r₁, Polled i r reply r₁ ∧ ∀ j, r₁.nextRunnable? = some j → ¬ r₁.Dormant j := by
  obtain ⟨f, p, hp, attends, none⟩ := h
  cases catches_up _ hr hp attends (Nat.le_refl _) with
  | takes _ _ due =>
    rw [none] at due
    contradiction
  | @waits n r₁ r₂ token ticket going step _ hushed poller flag asleep =>
    refine ⟨.blocked, r₂, .stops going step rfl, fun j next dormant => ?_⟩
    obtain ⟨f', p', hp', -⟩ := dormant
    have reachable := (hr.leads going.leads).leads step.leads
    cases reachable.lifecycle.unique hp' poller
    cases hp'.stage_eq poller
    obtain ⟨⟨t, ht, runnable⟩, -⟩ := nextRunnable?_eq_some.mp next
    obtain ⟨name, ht'⟩ := hp'
    cases ht.symm.trans ht'
    simp [isRunnable, Task.hasEnded, flag, asleep] at runnable

theorem dormant_unwinds (config : RingSize) : deaf.Unwinds (EventRing.create config) Dormant where
  seen _ _ := deaf_shows _
  runnable hr hr' h twins ht ht' awake runnable :=
    ⟨(isRunnable_alike hr hr' h twins ht ht' awake).symm.trans runnable,
      fun dormant => awake (dormant.back h.back twins.symm)⟩
  together hr hr' h twins _ polled := follows hr hr' h twins polled
  alone hr h dormant polled := ((dormant.polled hr polled).alike h.back).back
  rests hr _ dormant := dormant.rests hr

end Relay

namespace RelaySession

/-- The steps of a scenario are carried out in turn, each after so many interrupts of the source. -/
inductive Disturbed {σ : Type} [EventSource σ] : Relay σ → List (Nat × RelayStep) → List (Moment σ) → Prop
  | finished (r : Relay σ) : Disturbed r [] []
  | stray {r : Relay σ} {n : Nat} {x : RelayStep} {rest : List (Nat × RelayStep)} {trace : List (Moment σ)}
      (later : Disturbed (r.perform .interruptSource).2 ((n, x) :: rest) trace) : Disturbed r ((n + 1, x) :: rest) trace
  | step {r r' : Relay σ} {x : RelayStep} {answer : RelayAnswer} {rest : List (Nat × RelayStep)}
      {trace : List (Moment σ)} (done : Performed r x answer r') (later : Disturbed r' rest trace) :
      Disturbed r ((0, x) :: rest) (⟨x, answer, r'⟩ :: trace)

variable {config : RingSize} {r r' r₁ : Relay EventRing}

theorem interrupted_hushed (r : Relay EventRing) : Hushed r (r.perform .interruptSource).2 := by
  have unseen : deaf.sight? (.interruptCalled .client) = none := rfl
  have line : r.source.LineOnly r.source.interrupt := ⟨_, rfl⟩
  exact (Hushed.source r line).trans (.note _ unseen)

theorem performed_follows (hr : Reachable (EventRing.create config) r) (hr' : Reachable (EventRing.create config) r')
    (h : deaf.Like r r') {x : RelayStep} {answer : RelayAnswer} (done : Performed r x answer r₁) :
    ∃ answer' r₁', Performed r' x answer' r₁' ∧ deaf.Like r₁ r₁' := by
  cases done with
  | brief brief => exact ⟨_, _, .brief brief, h.brief brief⟩
  | run rest =>
    obtain ⟨r₁', settled, like⟩ := (dormant_unwinds config).settled ((comesToRest_iff hr).mp rest) hr hr' h
    exact ⟨_, r₁', .run ((comesToRest_iff hr').mpr settled), like⟩
  | @poll id reply _ polled =>
    cases ht : r.tasks.get? id with
    | some t =>
      obtain ⟨j, -, twins, -⟩ := h.twin ht (deaf_shows _)
      cases deaf_twins_eq twins
      obtain ⟨r₁', polled', like⟩ := follows hr hr' h twins polled
      exact ⟨_, r₁', .poll polled', like⟩
    | none =>
      have absent : r'.tasks.get? id = none := by
        cases ht' : r'.tasks.get? id with
        | none => rfl
        | some t =>
          obtain ⟨j, t', twins, hj⟩ := h.back.twin ht' (deaf_shows _)
          cases deaf_twins_eq twins
          rw [ht] at hj
          contradiction
      obtain ⟨rfl, rfl⟩ := polled.unique (.absent ht)
      exact ⟨_, r', .poll (.absent absent), h⟩

theorem sameCourse_of_like (h : deaf.Like r r') (x : RelayStep) (answer answer' : RelayAnswer) :
    Moment.SameCourse ⟨x, answer, r⟩ ⟨x, answer', r'⟩ where
  step := rfl
  entered sub := by
    simp only [enteredBy, List.map_filterMap]
    refine h.story (Sight.entered? sub) fun o => ?_
    cases o with
    | entered party d =>
      have shows : deaf.hides party.id = false := rfl
      simp only [Occurrence.entryOf?, sight?, shows, Sight.entered?, Bool.false_eq_true, if_false, Option.bind_some]
      split <;> rfl
    | reacted party c reply => cases c <;> rfl
    | resultTaken task result => cases result <;> rfl
    | _ => rfl
  fetched := by
    refine h.story Sight.fetched? fun o => ?_
    cases o with
    | reacted party c reply => cases c <;> rfl
    | resultTaken task result => cases result <;> rfl
    | _ => rfl
  registry := h.registry
  cursor := h.cursor
  slot := by
    rcases h.slots with ⟨hn, hn'⟩ | ⟨s, s', hs, hs', -⟩
    · exact congrArg Option.isSome (hn.trans hn'.symm)
    · exact (congrArg Option.isSome hs).trans (congrArg Option.isSome hs').symm
  troubles := by
    rw [troubles_eq, troubles_eq]
    refine h.story Sight.told? fun o => ?_
    cases o with
    | reacted party c reply => cases c <;> rfl
    | resultTaken task result => cases result <;> rfl
    | _ => rfl

theorem disturbed_of_played (plan : List (Nat × RelayStep)) {trace : List (Moment EventRing)}
    (played : Played r (plan.map Prod.snd) trace) (hr : Reachable (EventRing.create config) r)
    (hr' : Reachable (EventRing.create config) r') (h : deaf.Like r r') :
    ∃ trace', Disturbed r' plan trace' ∧ List.Forall₂ Moment.SameCourse trace trace' := by
  -- on the steps, and for each of them on the interrupts that are still to come before it
  induction plan generalizing r r' trace with
  | nil =>
    cases played
    exact ⟨[], .finished r', .nil⟩
  | cons p rest ih =>
    obtain ⟨n, x⟩ := p
    induction n generalizing r' with
    | zero =>
      cases played with
      | step done later =>
        obtain ⟨answer', r₁', done', like⟩ := performed_follows hr hr' h done
        obtain ⟨trace', later', same⟩ := ih later (hr.leads done.leads) (hr'.leads done'.leads) like
        exact ⟨_, .step done' later', .cons (sameCourse_of_like like _ _ _) same⟩
    | succ n again =>
      have reachable : Reachable (EventRing.create config) (r'.perform .interruptSource).2 :=
        hr'.leads (.move r' (.request .interruptSource))
      obtain ⟨trace', later, same⟩ := again reachable ((interrupted_hushed r').alike h) played
      exact ⟨trace', .stray later, same⟩

theorem played_of_disturbed {plan : List (Nat × RelayStep)} {trace' : List (Moment EventRing)}
    (disturbed : Disturbed r' plan trace') (hr : Reachable (EventRing.create config) r)
    (hr' : Reachable (EventRing.create config) r') (h : deaf.Like r r') :
    ∃ trace, Played r (plan.map Prod.snd) trace ∧ List.Forall₂ Moment.SameCourse trace trace' := by
  induction disturbed generalizing r with
  | finished => exact ⟨[], .finished r, .nil⟩
  | @stray r' n x rest trace _ ih =>
    exact ih hr (hr'.leads (.move r' (.request .interruptSource))) ((interrupted_hushed r').alike h)
  | step done' _ ih =>
    obtain ⟨answer, r₁, done, like⟩ := performed_follows hr' hr h.back done'
    obtain ⟨trace, later, same⟩ := ih (hr.leads done.leads) (hr'.leads done'.leads) like.back
    exact ⟨_, .step done later, .cons (sameCourse_of_like like.back _ _ _) same⟩

theorem played_announced {steps : List RelayStep} {trace : List (Moment EventRing)} (played : Played r steps trace)
    (hr : Reachable (EventRing.create config) r) : ∀ m ∈ trace, m.relay.Announced := by
  induction played with
  | finished => exact fun _ hm => absurd hm List.not_mem_nil
  | step done _ ih =>
    have next := hr.leads done.leads
    exact List.forall_mem_cons.mpr ⟨seen_announced (.between next), ih next⟩

theorem disturbed_announced {plan : List (Nat × RelayStep)} {trace : List (Moment EventRing)}
    (disturbed : Disturbed r plan trace) (hr : Reachable (EventRing.create config) r) :
    ∀ m ∈ trace, m.relay.Announced := by
  induction disturbed with
  | finished => exact fun _ hm => absurd hm List.not_mem_nil
  | @stray r n x rest trace _ ih => exact ih (hr.leads (.move r (.request .interruptSource)))
  | step done _ ih =>
    have next := hr.leads done.leads
    exact List.forall_mem_cons.mpr ⟨seen_announced (.between next), ih next⟩

/-- However often the source is interrupted between the steps of a scenario, the scenario is carried out if it is
without that, and everything in it stays the same, step by step. Both times the bus carries the notices. -/
theorem stray_interrupts_are_harmless {config : RingSize} {start : Relay EventRing}
    (created : Created (EventRing.create config) start) (plan : List (Nat × RelayStep)) :
    ((∃ trace, Played start (plan.map Prod.snd) trace) ↔ ∃ trace, Disturbed start plan trace) ∧
    ∀ trace trace', Played start (plan.map Prod.snd) trace → Disturbed start plan trace' →
      List.Forall₂ Moment.SameCourse trace trace' ∧ ∀ m ∈ trace ++ trace', m.relay.Announced := by
  have hr : Reachable (EventRing.create config) start := .created created
  have h := like_self hr.lifecycle
  refine ⟨⟨fun ⟨trace, played⟩ => ?_, fun ⟨trace, disturbed⟩ => ?_⟩, fun trace trace' played disturbed => ?_⟩
  · obtain ⟨trace', disturbed, -⟩ := disturbed_of_played plan played hr hr h
    exact ⟨trace', disturbed⟩
  · obtain ⟨trace', played, -⟩ := played_of_disturbed disturbed hr hr h
    exact ⟨trace', played⟩
  · obtain ⟨trace₁, played₁, same⟩ := played_of_disturbed disturbed hr hr h
    have once : trace = trace₁ := played.unique hr played₁
    refine ⟨once ▸ same, fun m hm => ?_⟩
    exact (List.mem_append.mp hm).elim (played_announced played hr m) (disturbed_announced disturbed hr m)

/-- An interrupt comes before the poller first looks, and one more while it waits. -/
theorem stray_interrupts_are_harmless_plain :
    let start := plain (EventRing.create .standard)
    let plan : List (Nat × RelayStep) := [(0, .command (.call (.add "a" 0))), (1, .run),
      (1, .command (.call (.post (.named "a")))), (0, .run)]
    let waiting := ((start.perform (.call (.add "a" 0))).2.perform .interruptSource).2.runUpTo 2
    let rested := ((waiting.perform .interruptSource).2.perform (.call (.post (.named "a")))).2.runUpTo 3
    rested.enteredBy 0 = [⟨(Event.named "a").indexed 0, 0⟩] ∧
    ∃ trace trace', Played start (plan.map Prod.snd) trace ∧ Disturbed start plan trace' ∧
      trace'.getLast? = some ⟨.run, .nothing, rested⟩ ∧ List.Forall₂ Moment.SameCourse trace trace' := by
  intro start plan waiting rested
  -- for any relay first, so that nothing is computed while the steps are put together
  have disturbing : ∀ r : Relay EventRing,
      let waiting := ((r.perform (.call (.add "a" 0))).2.perform .interruptSource).2.runUpTo 2
      let rested := ((waiting.perform .interruptSource).2.perform (.call (.post (.named "a")))).2.runUpTo 3
      waiting.nextRunnable? = none → rested.nextRunnable? = none →
        ∃ a b c, Disturbed r plan [a, b, c, ⟨.run, .nothing, rested⟩] := by
    intro r waiting rested idle idle'
    exact ⟨_, _, _, .step (.brief rfl) (.stray (.step (.run ⟨2, rfl, idle⟩) (.stray (.step (.brief rfl)
      (.step (.run ⟨3, rfl, idle'⟩) (.finished _))))))⟩
  have created : Created (EventRing.create .standard) start := plain_created _
  obtain ⟨a, b, c, disturbed⟩ := disturbing start (by decide) (by decide)
  obtain ⟨trace, played⟩ := (stray_interrupts_are_harmless created plan).1.mpr ⟨_, disturbed⟩
  exact ⟨by decide, trace, _, played, disturbed, rfl,
    ((stray_interrupts_are_harmless created plan).2 trace _ played disturbed).1⟩

end RelaySession

end EventRelay
