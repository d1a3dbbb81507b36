import EventRelay.Proofs.Rounding
import EventRelay.Proofs.Varying

namespace EventRelay

open Binary64

theorem Binary64.lt_of_values {a b : Binary64} {x y : ℚ} (ha : a.value? = some x) (hb : b.value? = some y) :
    a.lt b = decide (x < y) := by
  cases a with
  | nan | infinite => cases ha
  | finite =>
    cases b with
    | nan | infinite => cases hb
    | finite =>
      unfold lt
      dsimp only
      rw [ha, hb]

theorem Binary64.value?_finite (m : Nat) (q : Int) : (finite false m q).value? = some (scale m q) := rfl

theorem Binary64.value?_zero : zero.value? = some 0 := by
  rw [zero, value?_finite, scale_eq, Nat.cast_zero, zero_mul]

namespace Duration

/-- The span of as many seconds as the floating-point number nearest to those of `d`. -/
def rounded? (d : Duration) : Option Duration := ofBinary64? d.toBinary64

/-- A span is read off the value of a number, in nanoseconds to the nearest. -/
theorem ofBinary64?_of_value {a : Binary64} {x : ℚ} (ha : a.value? = some x) (nonneg : 0 ≤ x) :
    ∃ num den : Nat, 0 < den ∧ (num : ℚ) / den = x * nanosPerSecond ∧
      ofBinary64? a = if (secondsLimit : ℚ) ≤ x then none else some ⟨roundHalfEven num den⟩ := by
  cases a with
  | nan | infinite => cases ha
  | finite negative m q =>
    have unsigned : (negative && m != 0) = false ∧ x = scale m q := by
      cases negative with
      | false => exact ⟨rfl, (Option.some.inj ha).symm⟩
      | true =>
        obtain rfl : -scale m q = x := Option.some.inj ha
        have zero : (m : ℚ) * 2 ^ q = 0 := by
          have := scale_nonneg m q
          rw [← scale_eq]
          linarith
        have zero : m = 0 := by
          exact_mod_cast (mul_eq_zero.mp zero).resolve_right (zpow_pos two_pos q).ne'
        simp [zero, scale_eq]
    obtain ⟨unsigned, rfl⟩ := unsigned
    have den_pos : (0 : ℚ) < (Nat.pow 2 (-q).toNat : Nat) := by exact_mod_cast Nat.pow_pos Nat.two_pos
    have value : scale m q = (m * Nat.pow 2 q.toNat : Nat) / (Nat.pow 2 (-q).toNat : Nat) := by
      rw [scale, Rat.mkRat_eq_div]
      push_cast
      rfl
    refine ⟨m * nanosPerSecond * Nat.pow 2 q.toNat, Nat.pow 2 (-q).toNat, Nat.pow_pos Nat.two_pos, ?_, ?_⟩
    · rw [value]
      push_cast
      ring
    · have limit : secondsLimit * Nat.pow 2 (-q).toNat ≤ m * Nat.pow 2 q.toNat ↔ (secondsLimit : ℚ) ≤ scale m q := by
        rw [value, le_div_iff₀ den_pos]
        exact_mod_cast Iff.rfl
      unfold ofBinary64?
      simp only [unsigned, limit, Bool.false_eq_true, if_false]

/-- A lesser number of seconds is no longer a span. -/
theorem ofBinary64?_mono {a b : Binary64} {x y : ℚ} (ha : a.value? = some x) (hb : b.value? = some y) (nonneg : 0 ≤ x)
    (h : x ≤ y) {c : Duration} (hc : ofBinary64? b = some c) : ∃ d, ofBinary64? a = some d ∧ d ≤ c := by
  obtain ⟨num, den, positive, value, span⟩ := ofBinary64?_of_value ha nonneg
  obtain ⟨num', den', positive', value', span'⟩ := ofBinary64?_of_value hb (nonneg.trans h)
  rw [hc] at span'
  split at span'
  · cases span'
  · rename_i within
    obtain rfl := Option.some.inj span'
    refine ⟨_, span.trans (if_neg fun above => within (above.trans h)), roundHalfEven_mono positive positive' ?_⟩
    have ordered : (num : ℚ) / den ≤ num' / den' := by
      rw [value, value']
      gcongr
    have crossed := (div_le_div_iff₀ (by exact_mod_cast positive) (by exact_mod_cast positive')).mp ordered
    exact_mod_cast crossed

theorem ofBinary64?_congr {a b : Binary64} {x : ℚ} (ha : a.value? = some x) (hb : b.value? = some x) (nonneg : 0 ≤ x) :
    ofBinary64? a = ofBinary64? b := by
  cases hb' : ofBinary64? b with
  | some c =>
    obtain ⟨d, hd, below⟩ := ofBinary64?_mono ha hb nonneg le_rfl hb'
    obtain ⟨c', hc', above⟩ := ofBinary64?_mono hb ha nonneg le_rfl hd
    obtain rfl : c = c' := Option.some.inj (hb'.symm.trans hc')
    have same : d.nanos = c.nanos := Nat.le_antisymm below above
    rw [hd, show d = c from congrArg mk same]
  | none =>
    cases ha' : ofBinary64? a with
    | none => rfl
    | some d =>
      obtain ⟨c, hc, -⟩ := ofBinary64?_mono hb ha nonneg le_rfl ha'
      rw [hb'] at hc
      cases hc

/-- What the seconds of a span become: the whole ones rounded to `y`, the rest to `z`, and the sum of these to `v`. -/
structure Converted (d : Duration) (y z v : ℚ) : Prop where
  whole : RoundsTo d.seconds y
  rest : RoundsTo ((d.subsecond : ℚ) / nanosPerSecond) z
  sum : RoundsTo (y + z) v

theorem nanosPerSecond_cast : (nanosPerSecond : ℚ) = 1000000000 := by norm_num [nanosPerSecond]

theorem nanosPerSecond_pos : (0 : ℚ) < nanosPerSecond := by norm_num [nanosPerSecond]

theorem secondsLimit_cast : (secondsLimit : ℚ) = 2 ^ 64 := by norm_num [secondsLimit]

theorem subsecond_lt (d : Duration) : d.subsecond < nanosPerSecond := Nat.mod_lt _ (by decide)

theorem Converted.whole_le {d : Duration} {y z v : ℚ} (h : d.Converted y z v) (within : d.seconds < secondsLimit) :
    y ≤ secondsLimit :=
  h.whole.le ⟨1, 64, by decide, by decide, by norm_num [secondsLimit]⟩ (by exact_mod_cast within.le)

theorem rest_le (d : Duration) : (d.subsecond : ℚ) / nanosPerSecond ≤ 1 := by
  rw [div_le_one nanosPerSecond_pos]
  exact_mod_cast d.subsecond_lt.le

theorem Converted.rest_le {d : Duration} {y z v : ℚ} (h : d.Converted y z v) : z ≤ 1 := by
  exact_mod_cast h.rest.le (representable_nat (n := 1) (by decide)) (by exact_mod_cast d.rest_le)

theorem toBinary64_converted {d : Duration} (within : d.seconds < secondsLimit) :
    ∃ m q y z, d.toBinary64 = .finite false m q ∧ d.Converted y z (scale m q) := by
  have seconds : (d.seconds : ℚ) ≤ 2 ^ 65 := by
    have : (d.seconds : ℚ) ≤ secondsLimit := by exact_mod_cast within.le
    exact (this.trans_eq secondsLimit_cast).trans (by norm_num)
  obtain ⟨m, q, whole, hy⟩ := ofRat_roundsTo (Nat.cast_nonneg d.seconds) (below_greatest seconds)
  obtain ⟨m₁, q₁, part, hm₁⟩ := ofNat_exact (d.subsecond_lt.le.trans (show nanosPerSecond ≤ 2 ^ precision by decide))
  obtain ⟨m₂, q₂, unit, hm₂⟩ := ofNat_exact (show nanosPerSecond ≤ 2 ^ precision by decide)
  obtain ⟨m₃, q₃, rest, hz⟩ := ofRat_roundsTo (div_nonneg (Nat.cast_nonneg d.subsecond) nanosPerSecond_pos.le)
    (below_greatest (d.rest_le.trans (by norm_num)))
  have quotient : (ofNat d.subsecond).div (ofNat nanosPerSecond) = .finite false m₃ q₃ := by
    rw [part, unit, ← rest]
    simp only [div, value?_finite, hm₁, hm₂, if_neg nanosPerSecond_pos.ne']
    rfl
  have low : scale m q + scale m₃ q₃ ≤ 2 ^ 65 := by
    have upper : scale m q ≤ 2 ^ 64 := hy.le ⟨1, 64, by decide, by decide, by norm_num⟩ (by
      rw [← secondsLimit_cast]
      exact_mod_cast within.le)
    have upper' : scale m₃ q₃ ≤ 1 := hz.le (by exact_mod_cast representable_nat (n := 1) (by decide)) d.rest_le
    linarith
  obtain ⟨m₄, q₄, sum, hv⟩ := ofRat_roundsTo (add_nonneg (scale_nonneg m q) (scale_nonneg m₃ q₃)) (below_greatest low)
  refine ⟨m₄, q₄, scale m q, scale m₃ q₃, ?_, hy, hz, hv⟩
  rw [toBinary64, quotient, ofNat, whole, ← sum]
  rfl

/-- The whole seconds and the rest make up the span. -/
theorem seconds_add_rest (d : Duration) :
    ((d.seconds : ℚ) + d.subsecond / nanosPerSecond) * nanosPerSecond = d.nanos := by
  have parts : (nanosPerSecond : ℚ) * d.seconds + d.subsecond = d.nanos := by
    exact_mod_cast Nat.div_add_mod d.nanos nanosPerSecond
  rw [add_mul, div_mul_cancel₀ _ nanosPerSecond_pos.ne', mul_comm, parts]

/-- Below `2 ^ 23` seconds the three roundings together are off by less than half a nanosecond. -/
theorem Converted.accurate {d : Duration} {y z v : ℚ} (h : d.Converted y z v) (short : d.seconds < 2 ^ 23) :
    |v * nanosPerSecond - d.nanos| < 1 / 2 := by
  have exact : y = d.seconds :=
    h.whole.eq (representable_nat (short.le.trans (Nat.pow_le_pow_right Nat.two_pos (by decide))))
  have part : (d.subsecond : ℚ) / nanosPerSecond ≤ 1 - 1 / 1000000000 := by
    have : (d.subsecond : ℚ) + 1 ≤ nanosPerSecond := by exact_mod_cast d.subsecond_lt
    rw [div_le_iff₀ nanosPerSecond_pos]
    rw [nanosPerSecond_cast] at this ⊢
    linarith
  have restError : |z - d.subsecond / nanosPerSecond| ≤ 1 / 2 ^ 54 := by
    refine (h.rest.near (k := 0) (by decide) (by norm_num; linarith)).trans_eq ?_
    norm_num [precision, zpow_neg]
  have whole : (d.seconds : ℚ) ≤ 2 ^ 23 - 1 := by
    have : (d.seconds : ℚ) + 1 ≤ 2 ^ 23 := by exact_mod_cast short
    linarith
  have sumError : |v - (y + z)| ≤ 1 / 2 ^ 31 := by
    have below : y + z < 2 ^ (23 : Int) := by
      have := (abs_le.mp restError).2
      rw [exact, show (2 : ℚ) ^ (23 : Int) = 2 ^ 23 from zpow_natCast 2 23]
      linarith
    refine (h.sum.near (by decide) below).trans_eq ?_
    norm_num [precision, zpow_neg]
  have total : |v - (d.seconds + d.subsecond / nanosPerSecond)| ≤ 1 / 2 ^ 31 + 1 / 2 ^ 54 := by
    have split : v - (d.seconds + (d.subsecond : ℚ) / nanosPerSecond) =
        (v - (y + z)) + (z - d.subsecond / nanosPerSecond) := by
      rw [exact]
      ring
    rw [split]
    exact (abs_add_le _ _).trans (add_le_add sumError restError)
  rw [← seconds_add_rest d, ← sub_mul, abs_mul, abs_of_pos nanosPerSecond_pos]
  calc |v - (d.seconds + d.subsecond / nanosPerSecond)| * nanosPerSecond
      ≤ (1 / 2 ^ 31 + 1 / 2 ^ 54) * nanosPerSecond := by gcongr
    _ < 1 / 2 := by norm_num [nanosPerSecond]

/-- A span below `2 ^ 23` seconds outlasts the way through floating point. -/
theorem rounded?_short {d : Duration} (short : d.seconds < 2 ^ 23) : d.rounded? = some d := by
  have within : d.seconds < secondsLimit := short.trans (by decide)
  obtain ⟨m, q, y, z, same, converted⟩ := toBinary64_converted within
  obtain ⟨num, den, positive, value, span⟩ :=
    ofBinary64?_of_value (value?_finite m q) (scale_nonneg m q)
  have accurate := converted.accurate short
  have below : ¬ (secondsLimit : ℚ) ≤ scale m q := by
    intro above
    have nanos : (d.nanos : ℚ) ≤ 2 ^ 23 * nanosPerSecond := by
      exact_mod_cast (Nat.div_lt_iff_lt_mul (by decide)).mp short |>.le
    have := (abs_lt.mp accurate).2
    rw [nanosPerSecond_cast] at this nanos
    rw [secondsLimit_cast] at above
    linarith
  rw [rounded?, same, span, if_neg below]
  congr 2
  exact roundHalfEven_eq positive (by rwa [value])

/-- A span that is `2048` seconds short of the greatest one is still a span as rounded. -/
theorem rounded?_isSome {d : Duration} (short : d.seconds + 2048 ≤ secondsLimit) : ∃ c, d.rounded? = some c := by
  have within : d.seconds < secondsLimit := by omega
  obtain ⟨m, q, y, z, same, converted⟩ := toBinary64_converted within
  obtain ⟨num, den, -, -, span⟩ := ofBinary64?_of_value (value?_finite m q) (scale_nonneg m q)
  have whole : y ≤ 2 ^ 64 - 2048 := by
    refine converted.whole.le ⟨2 ^ 53 - 1, 11, by decide, by decide, by norm_num⟩ ?_
    have : (d.seconds : ℚ) + 2048 ≤ secondsLimit := by exact_mod_cast short
    rw [secondsLimit_cast] at this
    linarith
  have rest := converted.rest_le
  have sumError : |scale m q - (y + z)| ≤ 2 ^ 10 := by
    refine (converted.sum.near (k := 64) (by decide) ?_).trans_eq ?_
    · norm_num at whole ⊢
      linarith
    · norm_num [precision]
  have below : ¬ (secondsLimit : ℚ) ≤ scale m q := by
    have := (abs_le.mp sumError).2
    rw [secondsLimit_cast]
    linarith
  exact ⟨_, by rw [rounded?, same, span, if_neg below]⟩

end Duration

namespace Backoff

/-- Whatever else the settings say, with the cap `max` every delay is a span and none is longer than the cap. -/
def CappedAt (max : Duration) : Prop :=
  ∀ first factor jitter failures draw, ∃ d,
    (Backoff.mk first max factor jitter).delay? failures draw = some d ∧ d ≤ max

/-- A delay is at most the cap, or at most the cap as rounded. -/
theorem delay?_le {b : Backoff} {c : Duration} (hc : b.max.rounded? = some c) (failures draw : Nat) :
    ∃ d, b.delay? failures draw = some d ∧ (d ≤ b.max ∨ d ≤ c) := by
  have base : ∃ d, b.base? failures = some d ∧ (d ≤ b.max ∨ d ≤ c) := by
    unfold base?
    dsimp only
    split
    · exact ⟨_, rfl, .inl (Nat.le_refl b.max.nanos)⟩
    · rename_i kept
      cases hg : b.growth failures with
      | nan | infinite => simp [hg, isFinite] at kept
      | finite negative m q =>
        cases hm : b.max.toBinary64 with
        | nan | infinite =>
          rw [Duration.rounded?, hm] at hc
          cases hc
        | finite negative' m' q' =>
          obtain ⟨x, hx⟩ : ∃ x, (finite negative m q).value? = some x := ⟨_, rfl⟩
          obtain ⟨y, hy⟩ : ∃ y, (finite negative' m' q').value? = some y := ⟨_, rfl⟩
          rw [hg, hm, lt_of_values hx value?_zero, lt_of_values hy hx] at kept
          simp only [isFinite, Bool.not_true, Bool.false_or, Bool.or_eq_true, decide_eq_true_eq, not_or, not_lt] at kept
          rw [Duration.rounded?, hm] at hc
          obtain ⟨d, hd, below⟩ := Duration.ofBinary64?_mono hx hy kept.1 kept.2 hc
          exact ⟨d, hd, .inr below⟩
  obtain ⟨d, hd, below⟩ := base
  have varied := b.jitter.vary_le d draw
  exact ⟨_, by rw [delay?, hd, Option.map_some], below.imp (Nat.le_trans varied) (Nat.le_trans varied)⟩

/-- With the cap as the first delay, the delay without failures is the cap as rounded. -/
theorem delay?_of_max {max : Duration} (within : max.seconds < Duration.secondsLimit) (factor : Binary64) (draw : Nat) :
    (Backoff.mk max max factor .none).delay? 0 draw = max.rounded? := by
  obtain ⟨m, q, y, z, same, converted⟩ := Duration.toBinary64_converted within
  obtain ⟨m₁, q₁, one, hm₁⟩ := ofNat_exact (n := 1) (by decide)
  have power : factor.pow 0 = ofNat 1 := rfl
  have low : scale m q ≤ 2 ^ 65 := by
    refine converted.sum.le ⟨1, 65, by decide, by decide, by norm_num⟩ ?_
    have := converted.whole_le within
    rw [Duration.secondsLimit_cast] at this
    linarith [converted.rest_le]
  obtain ⟨m₂, q₂, product, hm₂⟩ := ofRat_roundsTo (scale_nonneg m q) (below_greatest low)
  have grown : (Backoff.mk max max factor .none).growth 0 = .finite false m₂ q₂ := by
    rw [growth, Nat.zero_min, power, one, same, ← product]
    simp only [mul, isNegative, hm₁]
    norm_num
  -- the product with one is a second rounding of what is rounded already
  have value : (finite false m₂ q₂).value? = some (scale m q) := by
    rw [value?_finite, hm₂.eq converted.sum.representable]
  have kept : (Backoff.mk max max factor .none).base? 0 = max.rounded? := by
    unfold base?
    simp only [grown, same, lt_of_values value value?_zero, lt_of_values (value?_finite m q) value, isFinite, lt_irrefl,
      (scale_nonneg m q).not_gt, decide_false, Bool.not_true, Bool.or_self, Bool.false_eq_true, if_false]
    rw [Duration.rounded?, same]
    exact Duration.ofBinary64?_congr value (value?_finite m q) (scale_nonneg m q)
  simp [delay?, kept, Jitter.vary_spared (.inr rfl)]

/-- With a cap in the range of spans, all delays are spans no longer than the cap exactly if the cap as rounded is such
a span. It is for every cap below `2 ^ 23` seconds. With a cap that is `2048` seconds short of the greatest span all
delays are spans, each within the cap or within the cap as rounded. -/
theorem cappedAt_iff_rounded_le {max : Duration} (within : max.seconds < Duration.secondsLimit) :
    (CappedAt max ↔ ∃ c, max.rounded? = some c ∧ c ≤ max) ∧
    (max.seconds < 2 ^ 23 → CappedAt max) ∧
    (max.seconds + 2048 ≤ Duration.secondsLimit → ∃ c, max.rounded? = some c ∧
      ∀ first factor jitter failures draw, ∃ d,
        (Backoff.mk first max factor jitter).delay? failures draw = some d ∧ (d ≤ max ∨ d ≤ c)) := by
  have capped {c : Duration} (hc : max.rounded? = some c) (below : c ≤ max) : CappedAt max := by
    intro first factor jitter failures draw
    obtain ⟨d, hd, bound⟩ := delay?_le (b := ⟨first, max, factor, jitter⟩) hc failures draw
    exact ⟨d, hd, bound.elim id fun h => Nat.le_trans h below⟩
  refine ⟨⟨fun h => ?_, fun ⟨c, hc, below⟩ => capped hc below⟩, fun short => ?_, fun short => ?_⟩
  · obtain ⟨c, hc, below⟩ := h max (.ofNat 1) .none 0 0
    exact ⟨c, (delay?_of_max within _ _).symm.trans hc, below⟩
  · exact capped (Duration.rounded?_short short) (Nat.le_refl max.nanos)
  · obtain ⟨c, hc⟩ := Duration.rounded?_isSome short
    exact ⟨c, hc, fun first factor jitter failures draw =>
      delay?_le (b := ⟨first, max, factor, jitter⟩) hc failures draw⟩

theorem cappedAt_iff_rounded_le_standard :
    standard.max.seconds < Duration.secondsLimit ∧ standard.max.seconds < 2 ^ 23 ∧ CappedAt standard.max := by
  have within : standard.max.seconds < Duration.secondsLimit := by decide
  have short : standard.max.seconds < 2 ^ 23 := by decide
  exact ⟨within, short, (cappedAt_iff_rounded_le within).2.1 short⟩

/-- The longest span is rounded up to a number of seconds that no span has, and a cap between two floating-point numbers
to the greater one. -/
theorem cap_is_missed :
    (Backoff.mk (.ofParts 18446744073709551615 999999999) (.ofParts 18446744073709551615 999999999) (.ofNat 1)
      .none).delay? 0 0 = none ∧
    (Backoff.mk (.ofParts 9007199254740996 0) (.ofParts 9007199254740995 0) (.ofNat 1) .none).delay? 0 0 =
      some (.ofParts 9007199254740996 0) ∧
    ¬ CappedAt (.ofParts 18446744073709551615 999999999) ∧ ¬ CappedAt (.ofParts 9007199254740995 0) := by
  have missing : (Backoff.mk (.ofParts 18446744073709551615 999999999) (.ofParts 18446744073709551615 999999999)
      (.ofNat 1) .none).delay? 0 0 = none := by decide +kernel
  have longer : (Backoff.mk (.ofParts 9007199254740996 0) (.ofParts 9007199254740995 0) (.ofNat 1) .none).delay? 0 0 =
      some (.ofParts 9007199254740996 0) := by decide +kernel
  refine ⟨missing, longer, fun capped => ?_, fun capped => ?_⟩
  · obtain ⟨d, hd, -⟩ := capped (.ofParts 18446744073709551615 999999999) (.ofNat 1) .none 0 0
    rw [missing] at hd
    cases hd
  · obtain ⟨d, hd, below⟩ := capped (.ofParts 9007199254740996 0) (.ofNat 1) .none 0 0
    obtain rfl := Option.some.inj (longer.symm.trans hd)
    exact absurd below (by decide)

end Backoff

end EventRelay
