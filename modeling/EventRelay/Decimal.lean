import EventRelay.Binary64

namespace EventRelay

/-- The value `digits * 10 ^ exponent`. -/
structure Decimal where
  digits : Nat
  exponent : Int
deriving DecidableEq

namespace Decimal

def value (d : Decimal) : Rat :=
  mkRat (d.digits * Nat.pow 10 d.exponent.toNat) (Nat.pow 10 (-d.exponent).toNat)

/-- The reals that round to `m * 2 ^ q` lie between these two, in quarters of the last place. -/
def roundingEnds (m : Nat) (q : Int) : Nat × Nat :=
  let narrow := m == Nat.pow 2 (Binary64.precision - 1) && Binary64.minExponent < q
  (if narrow then 4 * m - 1 else 4 * m - 2, 4 * m + 2)

/-- Reading `d` gives `m * 2 ^ q`: the ends belong to an even significand. -/
def readsBack (m : Nat) (q : Int) (d : Decimal) : Bool :=
  let (low, high) := roundingEnds m q
  let low := Binary64.scale low (q - 2)
  let high := Binary64.scale high (q - 2)
  if m % 2 == 0 then decide (low ≤ d.value) && decide (d.value ≤ high)
  else decide (low < d.value) && decide (d.value < high)

/-- The least `k` with `x < 10 ^ k`, sought upwards from `k`. -/
def magnitudeFrom (x : Rat) : Nat → Int → Int
  | 0, k => k
  | fuel + 1, k => if x < (Decimal.value ⟨1, k⟩) then k else magnitudeFrom x fuel (k + 1)

/-- Every finite number is above the first of these powers of ten and below the last. -/
def magnitude (x : Rat) : Int := magnitudeFrom x 640 (-325)

/-- Of the two neighbours of `x` on the grid `10 ^ k`, the nearer that reads back; a tie goes up. -/
def onGrid? (m : Nat) (q : Int) (k : Int) : Option Decimal :=
  let x := Binary64.scale m q
  let below := (x / Decimal.value ⟨1, k⟩).floor.toNat
  let low : Decimal := ⟨below, k⟩
  let high : Decimal := ⟨below + 1, k⟩
  match readsBack m q low, readsBack m q high with
  | true, true => some (if 2 * x < low.value + high.value then low else high)
  | true, false => some low
  | false, true => some high
  | false, false => none

/-- Tries one digit more each time; seventeen always suffice. -/
def searchFrom (m : Nat) (q : Int) (top : Int) : Nat → Nat → Decimal
  | 0, _ => ⟨m * Nat.pow 2 q.toNat * Nat.pow 5 (-q).toNat, min q 0⟩
  | fuel + 1, n => (onGrid? m q (top - n)).getD (searchFrom m q top fuel (n + 1))

/-- Moves zeros at the end of the digits into the exponent. -/
def strip : Nat → Decimal → Decimal
  | 0, d => d
  | fuel + 1, d =>
    if d.digits ≠ 0 ∧ d.digits % 10 = 0 then strip fuel ⟨d.digits / 10, d.exponent + 1⟩ else d

/-- The fewest digits that read back to `m * 2 ^ q`, and of those the nearest. -/
def shortest (m : Nat) (q : Int) : Decimal :=
  if m = 0 then ⟨0, 0⟩
  else strip 20 (searchFrom m q (magnitude (Binary64.scale m q)) 17 1)

/-- All digits written out around the point; no point if there is nothing after it. -/
def positional (d : Decimal) : String :=
  let digits := Nat.toDigits 10 d.digits
  if 0 ≤ d.exponent then
    String.ofList (digits ++ List.replicate (if d.digits = 0 then 0 else d.exponent.toNat) '0')
  else
    let places := (-d.exponent).toNat
    let padded := List.replicate (places + 1 - digits.length) '0' ++ digits
    let whole := padded.length - places
    String.ofList (padded.take whole ++ '.' :: padded.drop whole)

end Decimal

/-- The shortest positional text of a number. -/
def Binary64.toText : Binary64 → String
  | .nan => "NaN"
  | .infinite negative => if negative then "-inf" else "inf"
  | .finite negative m q =>
    (if negative then "-" else "") ++ (Decimal.shortest m q).positional

end EventRelay
