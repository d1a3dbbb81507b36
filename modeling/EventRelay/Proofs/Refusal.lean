import EventRelay.Proofs.Run

namespace EventRelay

/-- The reply only says why nothing was done. -/
def Reply.isRefusal : Reply → Bool
  | .refused _ | .rejected _ => true
  | _ => false

namespace Relay

variable {σ : Type} [EventSource σ]

/-- Why a call is refused: it gives an empty event name, or the source does not take the event that is posted. -/
inductive Refusal (r : Relay σ) : Call → CallFault → Prop
  | unnamed {c : Call} (empty : c.eventName? = some "") : Refusal r c emptyName
  | untaken {event : Event} {cause : SourceFault} (named : event.name ≠ "")
      (answer : EventSource.post r.source (r.surroundings.reading r.readings) event = .error cause) :
      Refusal r (.post event) (.source cause)

theorem postToSource_error_iff {r : Relay σ} {event : Event} {cause : SourceFault} :
    r.postToSource event = .error cause ↔
      EventSource.post r.source (r.surroundings.reading r.readings) event = .error cause := by
  unfold postToSource readClock
  dsimp only
  cases EventSource.post r.source (r.surroundings.reading r.readings) event with
  | error => simp
  | ok => simp

/-- A call that got past the check of its name is refused by the source alone. -/
theorem carryOut_refused_iff {r : Relay σ} {c : Call} {cause : CallFault} :
    (r.carryOut c).1 = .refused cause ↔
      ∃ event fault, c = .post event ∧ cause = .source fault ∧ r.postToSource event = .error fault := by
  cases c with
  | post event =>
    simp only [carryOut]
    cases h : r.postToSource event with
    | error fault => simp [h, eq_comm]
    | ok => simp [h]
  | add name sub =>
    simp only [carryOut]
    split <;> simp
  | remove | removeName | fire | shutdown | count | settings | sourceName => simp [carryOut]

theorem call_refused_iff {r : Relay σ} {c : Call} {cause : CallFault} :
    (r.call c).1 = .refused cause ↔ r.hasController = true ∧ r.Refusal c cause := by
  unfold call
  cases hc : r.hasController with
  | false => simp
  | true =>
    simp only [Bool.not_true, Bool.false_eq_true, if_false, true_and]
    by_cases unnamed : c.eventName? = some ""
    · have empty : c.eventName?.any String.isEmpty = true := by rw [unnamed]; rfl
      rw [if_pos empty]
      constructor
      · intro h
        cases h
        exact .unnamed unnamed
      · intro refusal
        cases refusal with
        | unnamed => rfl
        | untaken named => exact absurd (Option.some.inj unnamed) named
    · have named : ¬ c.eventName?.any String.isEmpty = true := by
        rintro given
        obtain ⟨name, told, empty⟩ := (Option.any_eq_true _ _).mp given
        exact unnamed (String.isEmpty_iff.mp empty ▸ told)
      rw [if_neg named, carryOut_refused_iff]
      constructor
      · rintro ⟨event, fault, rfl, rfl, answer⟩
        exact .untaken (fun empty => unnamed (congrArg some empty)) (postToSource_error_iff.mp answer)
      · intro refusal
        cases refusal with
        | unnamed empty => exact absurd empty unnamed
        | untaken _ answer => exact ⟨_, _, rfl, rfl, postToSource_error_iff.mpr answer⟩

theorem carryOut_refused_keeps {r : Relay σ} {c : Call} (h : (r.carryOut c).1.isRefusal = true) :
    (r.carryOut c).2 = r := by
  cases c with
  | post event =>
    simp only [carryOut] at h ⊢
    cases answer : r.postToSource event with
    | error => rfl
    | ok =>
      rw [answer] at h
      contradiction
  | add name sub =>
    simp only [carryOut] at h ⊢
    split at h <;> contradiction
  | remove | removeName | fire | shutdown | count | settings | sourceName => contradiction

/-- Whoever is refused leaves the relay as it was. -/
theorem perform_refused_keeps {r : Relay σ} {c : Command} (h : (r.perform c).1.isRefusal = true) :
    (r.perform c).2 = r := by
  cases c with
  | call c =>
    simp only [perform, call] at h ⊢
    split
    · rfl
    · rename_i hc
      rw [if_neg hc] at h
      split
      · rfl
      · rename_i named
        rw [if_neg named] at h
        exact carryOut_refused_keeps h
  | postToSource event =>
    simp only [perform] at h ⊢
    cases answer : r.postToSource event with
    | error => rfl
    | ok =>
      rw [answer] at h
      contradiction
  | interruptSource | closeSource | pushToSource | grant => contradiction
  | inspect sub | describe sub => rfl

/-- The move is not a request that is refused. -/
def heeds (r : Relay σ) : Move → Bool
  | .request c => !(r.perform c).1.isRefusal
  | _ => true

/-- The moves of a run without the requests that are refused on the way. -/
def heeded (r : Relay σ) : List Move → List Move
  | [] => []
  | m :: rest => if r.heeds m then m :: (r.move m).heeded rest else r.heeded rest

theorem move_unheeded {r : Relay σ} {m : Move} (h : r.heeds m = false) : r.move m = r := by
  cases m with
  | request c => exact perform_refused_keeps (by simpa [heeds] using h)
  | turn | sleep | cloneHandle | dropHandle | subscribe | receive | unsubscribe => contradiction

theorem follow_heeded (r : Relay σ) (moves : List Move) : r.follow (r.heeded moves) = r.follow moves := by
  induction moves generalizing r with
  | nil => rfl
  | cons m rest ih =>
    cases h : r.heeds m with
    | true =>
      simp only [heeded, h, if_true]
      exact ih (r.move m)
    | false =>
      simp only [heeded, h, Bool.false_eq_true, if_false]
      change _ = (r.move m).follow rest
      rw [move_unheeded h, ih r]

/-- A call is refused exactly where it gives an empty name or the source does not take what is posted. A request that
is refused leaves everything as it was, so a run goes on as if it had not been made, and so does a handler. -/
theorem refused_requests_change_nothing (r : Relay σ) :
    (∀ c cause, (r.call c).1 = .refused cause ↔ r.hasController = true ∧ r.Refusal c cause) ∧
    (∀ c, (r.perform c).1.isRefusal = true → (r.perform c).2 = r) ∧
    (∀ moves, r.follow (r.heeded moves) = r.follow moves) ∧
    ∀ sub c rest, (r.perform c).1.isRefusal = true →
      r.react sub (c :: rest) = (r.note (.reacted (r.party sub) c (r.perform c).1)).react sub rest := by
  refine ⟨fun _ _ => call_refused_iff, fun _ => perform_refused_keeps, r.follow_heeded, fun sub c rest refused => ?_⟩
  change ((r.perform c).2.note (.reacted ((r.perform c).2.party sub) c (r.perform c).1)).react sub rest = _
  rw [perform_refused_keeps refused]

/-- The longest span there is, as the first delay and as the greatest. Rounded to seconds it is no span any more. -/
def endless : Backoff :=
  let longest := Duration.ofParts (Duration.secondsLimit - 1) (Duration.nanosPerSecond - 1)
  ⟨longest, longest, .ofNat 2, .none⟩

/-- A poller has died over its first failure, while one subscriber is registered. -/
def bereft : Relay Script :=
  { plain (Script.create [.failed .closed]) with settings := ⟨1024, endless, "rtevent-poller"⟩ }.follow
    [.request (.call (.add "a" 0)), .turn 0]

/-- A call that is refused leaves a dead poller in the slot, and one that succeeds puts a new one there. -/
theorem refused_requests_change_nothing_bereft :
    bereft.slot = some ⟨0, 0⟩ ∧ bereft.taskEnded 0 = true ∧
      (bereft.call (.add "" 0)).1 = .refused emptyName ∧ (bereft.call (.add "" 0)).2 = bereft ∧
      (bereft.call (.post (.named "a"))).1 = .refused (.source .unsupported) ∧
      (bereft.call (.post (.named "a"))).2 = bereft ∧ (bereft.call (.add "b" 0)).2.slot = some ⟨1, 1⟩ := by
  have keeps := (refused_requests_change_nothing bereft).2.1
  exact ⟨by decide +kernel, by decide +kernel, by decide +kernel, keeps (.call (.add "" 0)) (by decide +kernel),
    by decide +kernel, keeps (.call (.post (.named "a"))) (by decide +kernel), by decide +kernel⟩

end Relay

end EventRelay
