import EventRelay.Pause
import Mathlib.Algebra.Ring.Nat

namespace EventRelay

theorem Duration.ofMillis_mono {a b : Nat} (h : a ≤ b) : ofMillis a ≤ ofMillis b := Nat.mul_le_mul_right _ h

theorem Duration.ofMillis_le {delay : Duration} {k : Nat} (h : k ≤ delay.millis) : ofMillis k ≤ delay :=
  Nat.le_trans (ofMillis_mono h) (Nat.div_mul_le_self _ _)

namespace Jitter

/-- The milliseconds of a delay that are varied. -/
def basis (delay : Duration) : Nat := min delay.millis maxMillis

/-- The delay stays as it is. -/
def Spares (j : Jitter) (delay : Duration) : Prop := basis delay = 0 ∨ j = .none

variable {j : Jitter} {delay d : Duration}

theorem basis_le (delay : Duration) : basis delay ≤ delay.millis := Nat.min_le_left _ _

theorem bounds_le (j : Jitter) (ms : Nat) : (j.bounds ms).1 ≤ (j.bounds ms).2 := by
  cases j with
  | none => exact Nat.le_refl ms
  | full => exact Nat.zero_le ms
  | equal => exact Nat.div_le_self ms 2

theorem bounds_snd (j : Jitter) (ms : Nat) : (j.bounds ms).2 = ms := by
  cases j <;> rfl

theorem vary_spared (h : j.Spares delay) (draw : Nat) : j.vary delay draw = delay := if_pos h

theorem vary_eq (h : ¬ j.Spares delay) (draw : Nat) :
    j.vary delay draw = .ofMillis ((j.bounds (basis delay)).1 +
      draw % ((j.bounds (basis delay)).2 - (j.bounds (basis delay)).1 + 1)) :=
  if_neg h

/-- A delay can become as many milliseconds as are within the bounds. -/
theorem vary_range (h : ¬ j.Spares delay) :
    (∃ draw, j.vary delay draw = d) ↔
      ∃ k, (j.bounds (basis delay)).1 ≤ k ∧ k ≤ (j.bounds (basis delay)).2 ∧ d = .ofMillis k := by
  have ordered := j.bounds_le (basis delay)
  simp only [vary_eq h]
  generalize j.bounds (basis delay) = bounds at ordered
  obtain ⟨low, high⟩ := bounds
  constructor
  · rintro ⟨draw, rfl⟩
    have drawn : draw % (high - low + 1) < high - low + 1 := Nat.mod_lt draw (Nat.succ_pos _)
    refine ⟨low + draw % (high - low + 1), Nat.le_add_right _ _, ?_, rfl⟩
    show low + draw % (high - low + 1) ≤ high
    omega
  · rintro ⟨k, above, below, rfl⟩
    refine ⟨k - low, congrArg Duration.ofMillis ?_⟩
    rw [Nat.mod_eq_of_lt (by omega)]
    omega

theorem mem_outcomes : d ∈ j.outcomes delay ↔ ∃ draw, j.vary delay draw = d := by
  by_cases h : j.Spares delay
  · have alone : j.outcomes delay = [delay] := if_pos h
    simp [alone, vary_spared h, eq_comm]
  · have ordered := j.bounds_le (basis delay)
    have all : j.outcomes delay = (List.range ((j.bounds (basis delay)).2 - (j.bounds (basis delay)).1 + 1)).map
        (fun k => .ofMillis ((j.bounds (basis delay)).1 + k)) := if_neg h
    rw [all, vary_range h, List.mem_map]
    generalize j.bounds (basis delay) = bounds at ordered
    obtain ⟨low, high⟩ := bounds
    constructor
    · rintro ⟨k, within, rfl⟩
      have := List.mem_range.mp within
      exact ⟨low + k, Nat.le_add_right _ _, by omega, rfl⟩
    · rintro ⟨k, above, below, rfl⟩
      refine ⟨k - low, List.mem_range.mpr (by omega), congrArg Duration.ofMillis ?_⟩
      exact Nat.add_sub_cancel' above

/-- The extremes are the least and the greatest of what a delay can become. -/
theorem extremes_attained (j : Jitter) (delay : Duration) :
    (∃ draw, j.vary delay draw = (j.extremes delay).1) ∧ (∃ draw, j.vary delay draw = (j.extremes delay).2) ∧
    ∀ draw, (j.extremes delay).1 ≤ j.vary delay draw ∧ j.vary delay draw ≤ (j.extremes delay).2 := by
  by_cases h : j.Spares delay
  · have same : j.extremes delay = (delay, delay) := if_pos h
    rw [same]
    refine ⟨⟨0, vary_spared h 0⟩, ⟨0, vary_spared h 0⟩, fun draw => ?_⟩
    rw [vary_spared h]
    exact ⟨Nat.le_refl delay.nanos, Nat.le_refl delay.nanos⟩
  · have ends : j.extremes delay =
        (.ofMillis (j.bounds (basis delay)).1, .ofMillis (j.bounds (basis delay)).2) := if_neg h
    have ordered := j.bounds_le (basis delay)
    rw [ends]
    refine ⟨(vary_range h).mpr ⟨_, Nat.le_refl _, ordered, rfl⟩,
      (vary_range h).mpr ⟨_, ordered, Nat.le_refl _, rfl⟩, fun draw => ?_⟩
    obtain ⟨k, above, below, varied⟩ := (vary_range h).mp ⟨draw, rfl⟩
    rw [varied]
    exact ⟨Duration.ofMillis_mono above, Duration.ofMillis_mono below⟩

theorem vary_le (j : Jitter) (delay : Duration) (draw : Nat) : j.vary delay draw ≤ delay := by
  by_cases h : j.Spares delay
  · rw [vary_spared h]
    exact Nat.le_refl delay.nanos
  · obtain ⟨k, -, below, varied⟩ := (vary_range h).mp ⟨draw, rfl⟩
    rw [bounds_snd] at below
    rw [varied]
    exact Duration.ofMillis_le (Nat.le_trans below (basis_le delay))

end Jitter

namespace Word

variable {w : Nat}

/-- The sum of two words, unless it overflows. -/
def add? (a b : BitVec w) : Option (BitVec w) := if a.uaddOverflow b then none else some (a + b)

def sub? (a b : BitVec w) : Option (BitVec w) := if a.usubOverflow b then none else some (a - b)

def mul? (a b : BitVec w) : Option (BitVec w) := if a.umulOverflow b then none else some (a * b)

theorem add?_eq {a b : BitVec w} (fits : a.toNat + b.toNat < 2 ^ w) :
    ∃ c, add? a b = some c ∧ c.toNat = a.toNat + b.toNat := by
  refine ⟨a + b, if_neg ?_, ?_⟩
  · simpa [BitVec.uaddOverflow] using fits
  · rw [BitVec.toNat_add, Nat.mod_eq_of_lt fits]

theorem sub?_eq {a b : BitVec w} (fits : b.toNat ≤ a.toNat) :
    ∃ c, sub? a b = some c ∧ c.toNat = a.toNat - b.toNat := by
  refine ⟨a - b, if_neg ?_, ?_⟩
  · simpa [BitVec.usubOverflow] using fits
  · exact BitVec.toNat_sub_of_le fits

theorem mul?_eq {a b : BitVec w} (fits : a.toNat * b.toNat < 2 ^ w) :
    ∃ c, mul? a b = some c ∧ c.toNat = a.toNat * b.toNat := by
  refine ⟨a * b, if_neg ?_, ?_⟩
  · simpa [BitVec.umulOverflow] using fits
  · rw [BitVec.toNat_mul, Nat.mod_eq_of_lt fits]

/-- A remainder is a word if the divisor is at most one more than a word. -/
theorem toNat_ofNat_mod (n : Nat) (bound : BitVec w) :
    (BitVec.ofNat w (n % (bound.toNat + 1))).toNat = n % (bound.toNat + 1) := by
  have small : n % (bound.toNat + 1) < bound.toNat + 1 := Nat.mod_lt n (Nat.succ_pos _)
  rw [BitVec.toNat_ofNat]
  exact Nat.mod_eq_of_lt (Nat.lt_of_lt_of_le small bound.isLt)

end Word

/-- A span in words: its whole seconds, and the nanoseconds left. -/
structure Span where
  seconds : BitVec 64
  subsecond : BitVec 32
  valid : subsecond.toNat < Duration.nanosPerSecond

namespace Span

def duration (s : Span) : Duration := .ofParts s.seconds.toNat s.subsecond.toNat

/-- The whole milliseconds of a span. -/
def millis? (s : Span) : Option (BitVec 128) := do
  let whole ← Word.mul? (s.seconds.setWidth 128) 1000
  Word.add? whole ((s.subsecond / 1000000).setWidth 128)

/-- The whole milliseconds of a span, or the greatest number of 64 bits if they are more. -/
def clampedMillis? (s : Span) : Option (BitVec 64) := do
  let millis ← s.millis?
  let most := (BitVec.allOnes 64).setWidth 128
  some ((if millis ≤ most then millis else most).setWidth 64)

def ofMillis? (millis : BitVec 64) : Option Span := do
  let subsecond ← Word.mul? ((millis % 1000).setWidth 32) 1000000
  if valid : subsecond.toNat < Duration.nanosPerSecond then some ⟨millis / 1000, subsecond, valid⟩ else none

theorem millis_duration (s : Span) :
    s.duration.millis = s.seconds.toNat * 1000 + s.subsecond.toNat / Duration.nanosPerMilli := by
  have parts : s.seconds.toNat * Duration.nanosPerSecond = s.seconds.toNat * 1000 * Duration.nanosPerMilli := by
    rw [Nat.mul_assoc]
    rfl
  rw [duration, Duration.ofParts, Duration.millis, parts, Nat.add_comm, Nat.add_mul_div_right _ _ (by decide),
    Nat.add_comm]

theorem millis?_eq (s : Span) : ∃ millis, s.millis? = some millis ∧ millis.toNat = s.duration.millis := by
  have seconds : (s.seconds.setWidth 128).toNat = s.seconds.toNat := BitVec.toNat_setWidth_of_le (by decide)
  have rest : ((s.subsecond / 1000000).setWidth 128).toNat = s.subsecond.toNat / Duration.nanosPerMilli := by
    rw [BitVec.toNat_setWidth_of_le (by decide), BitVec.toNat_udiv]
    rfl
  have thousand : (1000 : BitVec 128).toNat = 1000 := rfl
  have few := s.seconds.isLt
  have less : s.subsecond.toNat / Duration.nanosPerMilli < 2 ^ 32 :=
    Nat.lt_of_le_of_lt (Nat.div_le_self _ _) s.subsecond.isLt
  obtain ⟨whole, product, hw⟩ := Word.mul?_eq (a := s.seconds.setWidth 128) (b := 1000) (by
    rw [seconds, thousand]
    omega)
  rw [seconds, thousand] at hw
  obtain ⟨millis, sum, hm⟩ := Word.add?_eq (a := whole) (b := (s.subsecond / 1000000).setWidth 128) (by
    rw [hw, rest]
    omega)
  refine ⟨millis, ?_, by rw [hm, hw, rest, millis_duration]⟩
  rw [millis?, product]
  exact sum

theorem clampedMillis?_eq (s : Span) :
    ∃ millis, s.clampedMillis? = some millis ∧ millis.toNat = Jitter.basis s.duration := by
  obtain ⟨whole, found, hw⟩ := s.millis?_eq
  have most : ((BitVec.allOnes 64).setWidth 128).toNat = Jitter.maxMillis := by decide
  refine ⟨_, by rw [clampedMillis?, found]; rfl, ?_⟩
  have narrow : Jitter.maxMillis < 2 ^ 64 := by decide
  rw [BitVec.toNat_setWidth]
  split
  · rename_i below
    rw [BitVec.le_def, most, hw] at below
    rw [hw, Nat.mod_eq_of_lt (by omega), Jitter.basis, Nat.min_eq_left below]
  · rename_i above
    rw [BitVec.le_def, most, hw] at above
    rw [most, Nat.mod_eq_of_lt narrow, Jitter.basis, Nat.min_eq_right (by omega)]

theorem ofMillis?_eq (millis : BitVec 64) :
    ∃ s, ofMillis? millis = some s ∧ s.duration = .ofMillis millis.toNat := by
  have rest : ((millis % 1000).setWidth 32).toNat = millis.toNat % 1000 := by
    have less : millis.toNat % 1000 < 1000 := Nat.mod_lt _ (by decide)
    rw [BitVec.toNat_setWidth, BitVec.toNat_umod]
    exact Nat.mod_eq_of_lt (Nat.lt_trans less (by decide))
  have million : (1000000 : BitVec 32).toNat = Duration.nanosPerMilli := rfl
  have less : millis.toNat % 1000 < 1000 := Nat.mod_lt _ (by decide)
  obtain ⟨subsecond, product, hs⟩ := Word.mul?_eq (a := (millis % 1000).setWidth 32) (b := 1000000) (by
    rw [rest, million, Duration.nanosPerMilli]
    omega)
  rw [rest, million] at hs
  have valid : subsecond.toNat < Duration.nanosPerSecond := by
    rw [hs, Duration.nanosPerMilli, Duration.nanosPerSecond]
    omega
  refine ⟨⟨millis / 1000, subsecond, valid⟩, ?_, ?_⟩
  · rw [ofMillis?, product]
    exact dif_pos valid
  · have parts : millis.toNat / 1000 * Duration.nanosPerSecond + millis.toNat % 1000 * Duration.nanosPerMilli =
        millis.toNat * Duration.nanosPerMilli := by
      simp only [Duration.nanosPerSecond, Duration.nanosPerMilli]
      omega
    rw [duration, Duration.ofParts, hs, BitVec.toNat_udiv]
    exact congrArg Duration.mk parts

end Span

/-- Where random numbers come from: for every bound, one that is at most as great. -/
structure Chance where
  upTo : BitVec 64 → BitVec 64
  upTo_le : ∀ bound, (upTo bound).toNat ≤ bound.toNat

/-- The random numbers that come from one draw. -/
def Chance.ofDraw (draw : Nat) : Chance where
  upTo bound := BitVec.ofNat 64 (draw % (bound.toNat + 1))
  upTo_le bound := by
    rw [Word.toNat_ofNat_mod]
    exact Nat.le_of_lt_succ (Nat.mod_lt draw (Nat.succ_pos _))

theorem Chance.ofDraw_toNat (draw : Nat) (bound : BitVec 64) :
    ((Chance.ofDraw draw).upTo bound).toNat = draw % (bound.toNat + 1) :=
  Word.toNat_ofNat_mod draw bound

namespace Jitter

/-- Varies `delay` in words. There is no result if a number or a span is too great for its words. -/
def varyWords? (j : Jitter) (delay : Span) (chance : Chance) : Option Span := do
  let millis ← delay.clampedMillis?
  if millis = 0 then some delay
  else
    match j with
    | .none => some delay
    | .full => Span.ofMillis? (chance.upTo millis)
    | .equal =>
      let rest ← Word.sub? millis (millis / 2)
      let sum ← Word.add? (millis / 2) (chance.upTo rest)
      Span.ofMillis? sum

/-- How far apart the bounds are, as a word. -/
def room (j : Jitter) (delay : Duration) : BitVec 64 :=
  BitVec.ofNat 64 ((j.bounds (basis delay)).2 - (j.bounds (basis delay)).1)

theorem room_toNat (j : Jitter) (delay : Duration) :
    (j.room delay).toNat = (j.bounds (basis delay)).2 - (j.bounds (basis delay)).1 := by
  have most : basis delay ≤ maxMillis := Nat.min_le_right _ _
  have narrow : maxMillis < 2 ^ 64 := by decide
  rw [room, BitVec.toNat_ofNat, bounds_snd]
  exact Nat.mod_eq_of_lt (by omega)

/-- A draw that is within the room is added to the lower bound. -/
theorem vary_within {j : Jitter} {delay : Duration} {draw : Nat} (h : ¬ j.Spares delay)
    (within : draw ≤ (j.room delay).toNat) : j.vary delay draw = .ofMillis ((j.bounds (basis delay)).1 + draw) := by
  rw [room_toNat] at within
  rw [vary_eq h, Nat.mod_eq_of_lt (Nat.lt_succ_of_le within)]

theorem vary_mod (j : Jitter) (delay : Duration) (draw : Nat) :
    j.vary delay (draw % ((j.room delay).toNat + 1)) = j.vary delay draw := by
  by_cases h : j.Spares delay
  · rw [vary_spared h, vary_spared h]
  · rw [vary_eq h, vary_eq h, room_toNat, Nat.mod_mod]

theorem varyWords?_spared {j : Jitter} {delay : Span} (h : j.Spares delay.duration) (chance : Chance) :
    j.varyWords? delay chance = some delay := by
  obtain ⟨millis, found, value⟩ := delay.clampedMillis?_eq
  simp only [varyWords?, found, Option.bind_eq_bind, Option.bind_some]
  rcases h with nothing | rfl
  · exact if_pos (BitVec.eq_of_toNat_eq (y := 0) (value.trans nothing))
  · exact ite_self _

/-- In words there is always a result, and it is the one that unbounded numbers give. -/
theorem varyWords?_eq (j : Jitter) (delay : Span) (chance : Chance) :
    ∃ result, j.varyWords? delay chance = some result ∧
      result.duration = j.vary delay.duration (chance.upTo (j.room delay.duration)).toNat := by
  by_cases spared : j.Spares delay.duration
  · exact ⟨delay, varyWords?_spared spared chance, (vary_spared spared _).symm⟩
  · obtain ⟨millis, found, value⟩ := delay.clampedMillis?_eq
    have positive : millis ≠ 0 := fun nothing => spared (.inl (by rw [← value, nothing]; rfl))
    rw [vary_within spared (chance.upTo_le _)]
    simp only [varyWords?, found, Option.bind_eq_bind, Option.bind_some, if_neg positive]
    cases j with
    | none => exact absurd (.inr rfl) spared
    | full =>
      have room : Jitter.full.room delay.duration = millis := BitVec.eq_of_toNat_eq ((room_toNat _ _).trans value.symm)
      obtain ⟨result, kept, shown⟩ := Span.ofMillis?_eq (chance.upTo millis)
      refine ⟨result, kept, ?_⟩
      rw [shown, room, bounds, Nat.zero_add]
    | equal =>
      have half : (millis / 2).toNat = basis delay.duration / 2 := by
        rw [BitVec.toNat_udiv, value]
        rfl
      obtain ⟨rest, difference, hr⟩ := Word.sub?_eq (a := millis) (b := millis / 2) (by omega)
      have room : Jitter.equal.room delay.duration = rest := by
        apply BitVec.eq_of_toNat_eq
        rw [room_toNat, hr, half, value, bounds]
      -- half and what is drawn are at most the whole, which is a word
      have whole := millis.isLt
      have drawn := chance.upTo_le rest
      obtain ⟨sum, total, hs⟩ := Word.add?_eq (a := millis / 2) (b := chance.upTo rest) (by omega)
      obtain ⟨result, kept, shown⟩ := Span.ofMillis?_eq sum
      refine ⟨result, ?_, ?_⟩
      · change ((Word.sub? millis (millis / 2)).bind fun rest =>
          (Word.add? (millis / 2) (chance.upTo rest)).bind Span.ofMillis?) = some result
        rw [difference, Option.bind_some, total, Option.bind_some, kept]
      · rw [shown, hs, half, room, bounds]

/-- The delay becomes `d` by some random numbers. -/
def Becomes (j : Jitter) (delay : Span) (d : Duration) : Prop :=
  ∃ chance result, j.varyWords? delay chance = some result ∧ result.duration = d

theorem becomes_iff {j : Jitter} {delay : Span} {d : Duration} :
    j.Becomes delay d ↔ ∃ draw, j.vary delay.duration draw = d := by
  constructor
  · rintro ⟨chance, result, found, rfl⟩
    obtain ⟨result', found', shown⟩ := j.varyWords?_eq delay chance
    obtain rfl := Option.some.inj (found.symm.trans found')
    exact ⟨_, shown.symm⟩
  · rintro ⟨draw, rfl⟩
    obtain ⟨result, found, shown⟩ := j.varyWords?_eq delay (.ofDraw draw)
    rw [Chance.ofDraw_toNat, vary_mod] at shown
    exact ⟨_, result, found, shown⟩

theorem forall_becomes {j : Jitter} {delay : Span} {P : Duration → Prop} :
    (∀ d, j.Becomes delay d → P d) ↔ ∀ draw, P (j.vary delay.duration draw) := by
  simp [becomes_iff]

/-- What becomes of a delay with `ms` milliseconds to vary. -/
structure Covers (j : Jitter) (delay : Span) (ms : Nat) : Prop where
  total : ∀ chance, ∃ result, j.varyWords? delay chance = some result
  spared : ms = 0 ∨ j = .none → ∀ chance, j.varyWords? delay chance = some delay
  full : ms ≠ 0 → j = .full → ∀ d, j.Becomes delay d ↔ ∃ k, k ≤ ms ∧ d = .ofMillis k
  equal : ms ≠ 0 → j = .equal → ∀ d, j.Becomes delay d ↔ ∃ k, ms / 2 ≤ k ∧ k ≤ ms ∧ d = .ofMillis k
  shorter : ∀ d, j.Becomes delay d → d ≤ delay.duration
  drawn : ∀ d, j.Becomes delay d ↔ ∃ draw, j.vary delay.duration draw = d
  listed : ∀ d, j.Becomes delay d ↔ d ∈ j.outcomes delay.duration
  least : j.Becomes delay (j.extremes delay.duration).1 ∧ ∀ d, j.Becomes delay d → (j.extremes delay.duration).1 ≤ d
  greatest : j.Becomes delay (j.extremes delay.duration).2 ∧ ∀ d, j.Becomes delay d → d ≤ (j.extremes delay.duration).2

/-- However long the delay, no word overflows when it is varied. Without jitter, and below one millisecond, it stays as
it is; else it can become every whole number of milliseconds in the range of its policy, and nothing else. It never
becomes longer. -/
theorem jitter_covers_range (j : Jitter) (delay : Span) : j.Covers delay (min delay.duration.millis (2 ^ 64 - 1)) := by
  change j.Covers delay (basis delay.duration)
  obtain ⟨least, greatest, between⟩ := j.extremes_attained delay.duration
  refine ⟨fun chance => ?_, varyWords?_spared, ?_, ?_, ?_, fun d => becomes_iff, ?_, ?_, ?_⟩
  · obtain ⟨result, found, -⟩ := j.varyWords?_eq delay chance
    exact ⟨result, found⟩
  · rintro positive rfl d
    have varied : ¬ Jitter.full.Spares delay.duration := fun h => h.elim positive nofun
    rw [becomes_iff, vary_range varied]
    simp [bounds]
  · rintro positive rfl d
    have varied : ¬ Jitter.equal.Spares delay.duration := fun h => h.elim positive nofun
    rw [becomes_iff, vary_range varied]
    rfl
  · exact forall_becomes.mpr (vary_le j delay.duration)
  · exact fun d => becomes_iff.trans mem_outcomes.symm
  · exact ⟨becomes_iff.mpr least, forall_becomes.mpr fun draw => (between draw).1⟩
  · exact ⟨becomes_iff.mpr greatest, forall_becomes.mpr fun draw => (between draw).2⟩

example : Jitter.equal.outcomes ⟨5999999⟩ = [.ofMillis 2, .ofMillis 3, .ofMillis 4, .ofMillis 5] := by decide

end Jitter

end EventRelay
