import EventRelay.Binary64
import Mathlib.Algebra.Order.Field.Power
import Mathlib.Algebra.Order.Floor.Semifield
import Mathlib.Data.Rat.Cast.Order
import Mathlib.Data.Rat.Floor
import Mathlib.Tactic.FieldSimp
import Mathlib.Tactic.GCongr
import Mathlib.Tactic.Linarith
import Mathlib.Tactic.NormNum
import Mathlib.Tactic.Positivity
import Mathlib.Tactic.Ring

namespace EventRelay

section HalfEven

variable {num den num' den' n : Nat}

theorem roundHalfEven_bounds (num den : Nat) :
    num / den ≤ roundHalfEven num den ∧ roundHalfEven num den ≤ num / den + 1 := by
  unfold roundHalfEven
  dsimp only
  split
  · omega
  · split <;> omega

theorem roundHalfEven_le (positive : 0 < den) (h : num ≤ n * den) : roundHalfEven num den ≤ n := by
  have parts := Nat.div_add_mod num den
  have whole : num / den ≤ n := Nat.div_le_of_le_mul (by rwa [Nat.mul_comm])
  rcases Nat.lt_or_eq_of_le whole with less | same
  · exact (roundHalfEven_bounds num den).2.trans less
  · -- nothing is left over
    have exact : num % den = 0 := by
      rw [same, Nat.mul_comm] at parts
      omega
    unfold roundHalfEven
    dsimp only
    rw [exact, if_pos (by omega)]
    exact whole

theorem le_roundHalfEven (positive : 0 < den) (h : n * den ≤ num) : n ≤ roundHalfEven num den := by
  exact ((Nat.le_div_iff_mul_le positive).mpr h).trans (roundHalfEven_bounds num den).1

/-- The rounded quotient is off by one half at most. -/
theorem roundHalfEven_near (num : Nat) (positive : 0 < den) :
    2 * (roundHalfEven num den * den) ≤ 2 * num + den ∧ 2 * num ≤ 2 * (roundHalfEven num den * den) + den := by
  have parts := Nat.div_add_mod num den
  have left := Nat.mod_lt num positive
  have up : (num / den + 1) * den = den * (num / den) + den := by ring
  have down : num / den * den = den * (num / den) := Nat.mul_comm _ _
  unfold roundHalfEven
  dsimp only
  split
  · omega
  · split
    · omega
    · -- a tie: both neighbours are equally far
      rcases Nat.mod_two_eq_zero_or_one (num / den) with even | odd
      · rw [even, Nat.add_zero]
        omega
      · rw [odd]
        omega

/-- Of two quotients with one whole part, the greater one has more left over, in proportion. -/
theorem rest_mono (h : num * den' ≤ num' * den) (same : num / den = num' / den') :
    num % den * den' ≤ num' % den' * den := by
  have split : num * den' = den * den' * (num / den) + num % den * den' := by
    nth_rewrite 1 [← Nat.div_add_mod num den]
    ring
  have split' : num' * den = den * den' * (num' / den') + num' % den' * den := by
    nth_rewrite 1 [← Nat.div_add_mod num' den']
    ring
  rw [split, split', same] at h
  exact Nat.le_of_add_le_add_left h

theorem roundHalfEven_mono (positive : 0 < den) (positive' : 0 < den') (h : num * den' ≤ num' * den) :
    roundHalfEven num den ≤ roundHalfEven num' den' := by
  have whole : num / den ≤ num' / den' := by
    rw [Nat.le_div_iff_mul_le positive']
    have below : num / den * den * den' ≤ num' * den :=
      (Nat.mul_le_mul_right den' (Nat.div_mul_le_self num den)).trans h
    rw [Nat.mul_right_comm] at below
    exact Nat.le_of_mul_le_mul_right below positive
  rcases Nat.lt_or_eq_of_le whole with less | same
  · exact ((roundHalfEven_bounds num den).2.trans less).trans (roundHalfEven_bounds num' den').1
  · have rest := rest_mono h same
    have smaller : 2 * (num' % den') < den' → 2 * (num % den) < den := by
      intro small
      by_contra big
      have := Nat.mul_le_mul_right den' (Nat.le_of_not_lt big)
      have := (Nat.mul_lt_mul_right positive).mpr small
      nlinarith
    have larger : den < 2 * (num % den) → den' < 2 * (num' % den') := by
      intro big
      by_contra small
      have := (Nat.mul_lt_mul_right positive').mpr big
      have := Nat.mul_le_mul_right den (Nat.le_of_not_lt small)
      nlinarith
    unfold roundHalfEven
    dsimp only
    rw [same]
    split_ifs <;> omega

theorem roundHalfEven_error (num : Nat) (positive : 0 < den) :
    |(roundHalfEven num den : ℚ) - num / den| ≤ 1 / 2 := by
  have hd : (0 : ℚ) < den := by exact_mod_cast positive
  obtain ⟨upper, lower⟩ := roundHalfEven_near num positive
  have upper : 2 * ((roundHalfEven num den : ℚ) * den) ≤ 2 * num + den := by exact_mod_cast upper
  have lower : 2 * (num : ℚ) ≤ 2 * (roundHalfEven num den * den) + den := by exact_mod_cast lower
  rw [abs_le]
  constructor
  · rw [neg_le_sub_iff_le_add, div_le_iff₀ hd]
    linarith
  · rw [sub_le_iff_le_add, ← sub_le_iff_le_add', le_div_iff₀ hd]
    linarith

/-- A quotient less than one half away from a whole number is rounded to it. -/
theorem roundHalfEven_eq (positive : 0 < den) (h : |(num : ℚ) / den - n| < 1 / 2) : roundHalfEven num den = n := by
  have near := abs_le.mp (roundHalfEven_error num positive)
  have close := abs_lt.mp h
  have upper : (roundHalfEven num den : ℚ) < n + 1 := by linarith [near.2, close.2]
  have lower : (n : ℚ) < roundHalfEven num den + 1 := by linarith [near.1, close.1]
  have upper : roundHalfEven num den < n + 1 := by exact_mod_cast upper
  have lower : n < roundHalfEven num den + 1 := by exact_mod_cast lower
  omega

end HalfEven

namespace Binary64

theorem two_zpow (q : Int) : (2 : ℚ) ^ q = 2 ^ q.toNat / 2 ^ (-q).toNat := by
  obtain ⟨n, rfl | rfl⟩ := q.eq_nat_or_neg <;> simp

theorem scale_eq (m : Nat) (q : Int) : scale m q = m * 2 ^ q := by
  rw [scale, Rat.mkRat_eq_div, two_zpow]
  push_cast [Nat.pow_eq]
  exact mul_div_assoc (m : ℚ) (2 ^ q.toNat) (2 ^ (-q).toNat)

theorem scale_nonneg (m : Nat) (q : Int) : 0 ≤ scale m q := by
  rw [scale_eq]
  positivity

/-- A quotient in units of `2 ^ q`. -/
theorem shifted_eq (num den : Nat) (q : Int) :
    ((num * Nat.pow 2 (-q).toNat : Nat) : ℚ) / (den * Nat.pow 2 q.toNat : Nat) = num / den / 2 ^ q := by
  rw [two_zpow]
  simp only [Nat.pow_eq, Nat.cast_mul, Nat.cast_pow, Nat.cast_ofNat]
  field_simp

theorem shifted_pos {den : Nat} (positive : 0 < den) (q : Int) : 0 < den * Nat.pow 2 q.toNat :=
  Nat.mul_pos positive (Nat.pow_pos Nat.two_pos)

/-- A magnitude with a significand of the full precision, or the power of two next to these. The greatest exponent is
left out of account. -/
def Representable (x : ℚ) : Prop := ∃ (m : Nat) (q : Int), m ≤ 2 ^ precision ∧ minExponent ≤ q ∧ x = m * 2 ^ q

/-- The exact magnitude `x` is rounded to `y`. -/
structure RoundsTo (x y : ℚ) : Prop where
  representable : Representable y
  le : ∀ {z}, Representable z → x ≤ z → y ≤ z
  ge : ∀ {z}, Representable z → z ≤ x → z ≤ y
  near : ∀ {k : Int}, minExponent + precision ≤ k → x < 2 ^ k → |y - x| ≤ 2 ^ (k - precision - 1)

theorem RoundsTo.eq {x y : ℚ} (h : RoundsTo x y) (exact : Representable x) : y = x :=
  le_antisymm (h.le exact le_rfl) (h.ge exact le_rfl)

theorem representable_nat {n : Nat} (h : n ≤ 2 ^ precision) : Representable n := ⟨n, 0, h, by decide, by simp⟩

section Shifted

variable {num den : Nat} (positive : 0 < den)

include positive

theorem shifted_le_iff {n : Nat} {q : Int} :
    num * Nat.pow 2 (-q).toNat ≤ n * (den * Nat.pow 2 q.toNat) ↔ (num : ℚ) / den ≤ n * 2 ^ q := by
  have unit : (0 : ℚ) < (den * Nat.pow 2 q.toNat : Nat) := by exact_mod_cast shifted_pos positive q
  rw [← div_le_iff₀ (zpow_pos two_pos q), ← shifted_eq, div_le_iff₀ unit]
  exact_mod_cast Iff.rfl

theorem le_shifted_iff {n : Nat} {q : Int} :
    n * (den * Nat.pow 2 q.toNat) ≤ num * Nat.pow 2 (-q).toNat ↔ (n : ℚ) * 2 ^ q ≤ num / den := by
  have unit : (0 : ℚ) < (den * Nat.pow 2 q.toNat : Nat) := by exact_mod_cast shifted_pos positive q
  rw [← le_div_iff₀ (zpow_pos two_pos q), ← shifted_eq, le_div_iff₀ unit]
  exact_mod_cast Iff.rfl

end Shifted

/-- The whole part of a quotient in units of `2 ^ q` fits the precision if the quotient does. -/
theorem whole_short_iff {num den : Nat} {q : Int} :
    num * Nat.pow 2 (-q).toNat / (den * Nat.pow 2 q.toNat) < Nat.pow 2 precision ↔
      (num : ℚ) / den < 2 ^ (q + precision) := by
  have unit : (0 : ℚ) < 2 ^ q := zpow_pos two_pos q
  rw [← Nat.floor_div_eq_div (K := ℚ), Nat.floor_lt (by positivity), shifted_eq, div_lt_iff₀ unit,
    zpow_add₀ two_ne_zero, mul_comm]
  norm_num [precision]

/-- The binary logarithms of both parts tell the binade of a quotient, up to one. -/
theorem quotient_bounds {num den : Nat} (nonzero : 0 < num) (positive : 0 < den) :
    (2 : ℚ) ^ ((num.log2 : Int) - den.log2 - 1) ≤ num / den ∧
    (num : ℚ) / den < 2 ^ ((num.log2 : Int) - den.log2 + 1) := by
  have hd : (0 : ℚ) < den := by exact_mod_cast positive
  have num_ge : (2 : ℚ) ^ (num.log2 : Int) ≤ num := by exact_mod_cast Nat.log2_self_le nonzero.ne'
  have num_lt : (num : ℚ) < 2 ^ ((num.log2 : Int) + 1) := by exact_mod_cast Nat.lt_log2_self (n := num)
  have den_ge : (2 : ℚ) ^ (den.log2 : Int) ≤ den := by exact_mod_cast Nat.log2_self_le positive.ne'
  have den_lt : (den : ℚ) < 2 ^ ((den.log2 : Int) + 1) := by exact_mod_cast Nat.lt_log2_self (n := den)
  constructor
  · rw [le_div_iff₀ hd]
    calc (2 : ℚ) ^ ((num.log2 : Int) - den.log2 - 1) * den
        ≤ 2 ^ ((num.log2 : Int) - den.log2 - 1) * 2 ^ ((den.log2 : Int) + 1) := by gcongr
      _ = 2 ^ (num.log2 : Int) := by
        rw [← zpow_add₀ two_ne_zero]
        congr 1
        ring
      _ ≤ num := num_ge
  · rw [div_lt_iff₀ hd]
    calc (num : ℚ) < 2 ^ ((num.log2 : Int) + 1) := num_lt
      _ = 2 ^ ((num.log2 : Int) - den.log2 + 1) * 2 ^ (den.log2 : Int) := by
        rw [← zpow_add₀ two_ne_zero]
        congr 1
        ring
      _ ≤ 2 ^ ((num.log2 : Int) - den.log2 + 1) * den := by gcongr

theorem exponentOf_bounds {num den : Nat} (nonzero : 0 < num) (positive : 0 < den) :
    minExponent ≤ exponentOf num den ∧ (num : ℚ) / den < 2 ^ (exponentOf num den + precision) ∧
    (minExponent < exponentOf num den → (2 : ℚ) ^ (exponentOf num den + precision - 1) ≤ num / den) := by
  obtain ⟨lower, upper⟩ := quotient_bounds nonzero positive
  have short : (precision : Int) = 53 := rfl
  let guess := max ((num.log2 : Int) - den.log2 - precision) minExponent
  have least : minExponent ≤ guess := le_max_right _ _
  have most : (num.log2 : Int) - den.log2 - precision ≤ guess := le_max_left _ _
  unfold exponentOf
  change minExponent ≤ (if _ then guess else guess + 1) ∧ _ < _ ^ ((if _ then guess else guess + 1) + _) ∧
    (_ < (if _ then guess else guess + 1) → _ ^ ((if _ then guess else guess + 1) + _ - 1) ≤ _)
  by_cases small : num * Nat.pow 2 (-guess).toNat / (den * Nat.pow 2 guess.toNat) < Nat.pow 2 precision
  · rw [if_pos small]
    exact ⟨least, whole_short_iff.mp small,
      fun above => (zpow_le_zpow_right₀ one_le_two (by omega)).trans lower⟩
  · rw [if_neg small]
    refine ⟨by omega, upper.trans_le (zpow_le_zpow_right₀ one_le_two (by omega)), fun _ => ?_⟩
    have big := not_lt.mp (mt whole_short_iff.mpr small)
    rwa [show guess + 1 + (precision : Int) - 1 = guess + precision by ring]

/-- A magnitude is a multiple of `2 ^ q` unless it is below the ones whose full significand stands at `q`. -/
theorem Representable.multiple {z : ℚ} (h : Representable z) (q : Int) :
    (∃ n : Nat, z = n * 2 ^ q) ∨ minExponent < q ∧ z ≤ 2 ^ (q + precision - 1) := by
  obtain ⟨m, p, short, least, rfl⟩ := h
  by_cases fine : q ≤ p
  · refine .inl ⟨m * 2 ^ (p - q).toNat, ?_⟩
    have gap : (2 : ℚ) ^ p = 2 ^ (p - q).toNat * 2 ^ q := by
      rw [← zpow_natCast, ← zpow_add₀ two_ne_zero]
      congr 1
      omega
    push_cast
    rw [gap, mul_assoc]
  · refine .inr ⟨by omega, ?_⟩
    have short : (m : ℚ) ≤ 2 ^ (precision : Int) := by exact_mod_cast short
    calc (m : ℚ) * 2 ^ p ≤ 2 ^ (precision : Int) * 2 ^ (q - 1) := by
          gcongr
          · norm_num
          · omega
      _ = 2 ^ (q + precision - 1) := by
          rw [← zpow_add₀ two_ne_zero]
          congr 1
          ring

/-- The quotient, rounded to a whole number of the units that fit it. -/
theorem roundsTo_nearest {num den : Nat} (nonzero : 0 < num) (positive : 0 < den) (q : Int)
    (hq : q = exponentOf num den) :
    RoundsTo (num / den) (roundHalfEven (num * Nat.pow 2 (-q).toNat) (den * Nat.pow 2 q.toNat) * 2 ^ q) := by
  obtain ⟨least, below, full⟩ := exponentOf_bounds nonzero positive
  rw [← hq] at least below full
  have unit : (0 : ℚ) < 2 ^ q := zpow_pos two_pos q
  have positive' := shifted_pos positive q
  -- the least magnitude with a full significand at `q`, in units of `2 ^ q`
  have leading : (2 : ℚ) ^ (q + precision - 1) = (2 ^ (precision - 1) : Nat) * 2 ^ q := by
    push_cast
    rw [← zpow_natCast, ← zpow_add₀ two_ne_zero]
    congr 1
    simp only [precision]
    ring
  refine ⟨⟨_, q, ?_, least, rfl⟩, fun {z} hz above => ?_, fun {z} hz under => ?_, fun {k} low less => ?_⟩
  · refine roundHalfEven_le positive' ((shifted_le_iff positive).mpr (below.le.trans_eq ?_))
    rw [add_comm, zpow_add₀ two_ne_zero]
    norm_cast
  · obtain ⟨n, hn⟩ : ∃ n : Nat, z = n * 2 ^ q := by
      rcases hz.multiple q with whole | ⟨above', small⟩
      · exact whole
      · exact ⟨_, (le_antisymm small ((full above').trans above)).trans leading⟩
    rw [hn] at above ⊢
    gcongr
    exact roundHalfEven_le positive' ((shifted_le_iff positive).mpr above)
  · rcases hz.multiple q with ⟨n, hn⟩ | ⟨above', small⟩
    · rw [hn] at under ⊢
      gcongr
      exact le_roundHalfEven positive' ((le_shifted_iff positive).mpr under)
    · refine (small.trans_eq leading).trans ?_
      gcongr
      refine le_roundHalfEven positive' ((le_shifted_iff positive).mpr ?_)
      exact leading.symm.trans_le (full above')
  · have fits : q ≤ k - precision := by
      rcases least.lt_or_eq with above' | same
      · have := (zpow_lt_zpow_iff_right₀ one_lt_two).mp ((full above').trans_lt less)
        omega
      · omega
    have error := roundHalfEven_error (num * Nat.pow 2 (-q).toNat) positive'
    rw [shifted_eq] at error
    generalize roundHalfEven (num * Nat.pow 2 (-q).toNat) (den * Nat.pow 2 q.toNat) = n at error ⊢
    calc |(n : ℚ) * 2 ^ q - num / den|
        = |(n : ℚ) - num / den / 2 ^ q| * 2 ^ q := by
          rw [← abs_of_pos unit, ← abs_mul, abs_of_pos unit, sub_mul, div_mul_cancel₀ _ unit.ne']
      _ ≤ 1 / 2 * 2 ^ q := by gcongr
      _ = 2 ^ (q - 1) := by
          rw [zpow_sub₀ two_ne_zero]
          ring
      _ ≤ 2 ^ (k - precision - 1) := zpow_le_zpow_right₀ one_le_two (by omega)

theorem roundsTo_zero : RoundsTo 0 0 where
  representable := ⟨0, minExponent, by decide, le_rfl, by simp⟩
  le _ h := h
  ge _ h := h
  near _ _ := by
    rw [sub_zero, abs_zero]
    positivity

/-- Below the greatest exponent the rounded magnitude is finite. -/
theorem roundRatio_roundsTo (negative : Bool) (num : Nat) {den : Nat} (positive : 0 < den)
    (below : (num : ℚ) / den < 2 ^ (maxExponent + precision - 1)) :
    ∃ m q, roundRatio negative num den = .finite negative m q ∧ RoundsTo (num / den) (scale m q) := by
  rcases Nat.eq_zero_or_pos num with rfl | nonzero
  · refine ⟨0, minExponent, if_pos rfl, ?_⟩
    rw [scale_eq, Nat.cast_zero, zero_div, zero_mul]
    exact roundsTo_zero
  · let q := exponentOf num den
    have rounds := roundsTo_nearest nonzero positive q rfl
    obtain ⟨least, -, full⟩ := exponentOf_bounds nonzero positive
    have small : q + 1 ≤ maxExponent := by
      have hm : minExponent = -1074 := rfl
      have hx : maxExponent = 971 := rfl
      rcases least.lt_or_eq with above | same
      · have := (zpow_lt_zpow_iff_right₀ one_lt_two).mp ((full above).trans_lt below)
        omega
      · omega
    unfold roundRatio
    rw [if_neg nonzero.ne']
    by_cases carried : roundHalfEven (num * Nat.pow 2 (-q).toNat) (den * Nat.pow 2 q.toNat) = Nat.pow 2 precision
    · refine ⟨Nat.pow 2 (precision - 1), q + 1, ?_, ?_⟩
      · dsimp only
        rw [if_pos carried]
        exact if_neg (by omega)
      · rw [carried] at rounds
        rw [scale_eq, zpow_add_one₀ two_ne_zero]
        convert rounds using 1
        simp only [precision, Nat.pow_eq]
        push_cast
        ring
    · refine ⟨_, q, ?_, (scale_eq _ _).symm ▸ rounds⟩
      dsimp only
      rw [if_neg carried]
      exact if_neg (by omega)

theorem ofRat_roundsTo {r : ℚ} (nonneg : 0 ≤ r) (below : r < 2 ^ (maxExponent + precision - 1)) :
    ∃ m q, ofRat false r = .finite false m q ∧ RoundsTo r (scale m q) := by
  have value : ((r.num.natAbs : Nat) : ℚ) / r.den = r := by
    have num : ((r.num.natAbs : Nat) : ℚ) = r.num := by
      rw [Nat.cast_natAbs, abs_of_nonneg (Rat.num_nonneg.mpr nonneg)]
    rw [num, Rat.num_div_den]
  have sign : (if r = 0 then false else decide (r < 0)) = false := by simp [nonneg.not_gt]
  have rounds := roundRatio_roundsTo false r.num.natAbs r.den_pos (by rwa [value])
  rw [value] at rounds
  rwa [ofRat, sign]

theorem below_greatest {r : ℚ} (h : r ≤ 2 ^ 65) : r < 2 ^ (maxExponent + precision - 1) := by
  refine lt_of_le_of_lt h ?_
  rw [← zpow_natCast]
  exact zpow_lt_zpow_right₀ one_lt_two (by decide)

/-- Whole numbers of at most the full precision are their own roundings. -/
theorem ofNat_exact {n : Nat} (short : n ≤ 2 ^ precision) : ∃ m q, ofNat n = .finite false m q ∧ scale m q = n := by
  have low : (n : ℚ) ≤ 2 ^ 65 := by exact_mod_cast short.trans (Nat.pow_le_pow_right Nat.two_pos (by decide))
  obtain ⟨m, q, same, rounds⟩ := ofRat_roundsTo (Nat.cast_nonneg n) (below_greatest low)
  exact ⟨m, q, same, rounds.eq (representable_nat short)⟩

end Binary64

end EventRelay
