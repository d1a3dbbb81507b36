namespace EventRelay

/-- A floating-point number: `finite negative m q` stands for `m * 2 ^ q`, below zero if `negative`. -/
inductive Binary64
  | nan
  | infinite (negative : Bool)
  | finite (negative : Bool) (m : Nat) (q : Int)
deriving DecidableEq

/-- The natural number nearest to `num / den`; a tie goes to the even one. -/
def roundHalfEven (num den : Nat) : Nat :=
  let whole := num / den
  let twice := 2 * (num % den)
  if twice < den then whole else if den < twice then whole + 1 else whole + whole % 2

namespace Binary64

/-- A significand has at most this many bits. -/
def precision : Nat := 53

/-- The least exponent; values with it alone may have a short significand. -/
def minExponent : Int := -1074

def maxExponent : Int := 971

def zero : Binary64 := .finite false 0 minExponent

def scale (n : Nat) (q : Int) : Rat := mkRat (n * Nat.pow 2 q.toNat) (Nat.pow 2 (-q).toNat)

/-- The exact value of a finite number. -/
def value? : Binary64 → Option Rat
  | .finite negative m q => some (if negative then -scale m q else scale m q)
  | _ => none

/-- The exponent at which `num / den` has a significand of the full precision, or the least one. -/
def exponentOf (num den : Nat) : Int :=
  let guess := max ((num.log2 : Int) - den.log2 - precision) minExponent
  let whole := num * Nat.pow 2 (-guess).toNat / (den * Nat.pow 2 guess.toNat)
  if whole < Nat.pow 2 precision then guess else guess + 1

/-- Rounds the magnitude `num / den` to the nearest representable one. -/
def roundRatio (negative : Bool) (num den : Nat) : Binary64 :=
  if num = 0 then .finite negative 0 minExponent
  else
    let q := exponentOf num den
    let m := roundHalfEven (num * Nat.pow 2 (-q).toNat) (den * Nat.pow 2 q.toNat)
    let (m, q) := if m = Nat.pow 2 precision then (Nat.pow 2 (precision - 1), q + 1) else (m, q)
    if maxExponent < q then .infinite negative else .finite negative m q

/-- Rounds `r`; the sign is that of `r`, or `negative` if `r` is zero. -/
def ofRat (negative : Bool) (r : Rat) : Binary64 :=
  roundRatio (if r = 0 then negative else decide (r < 0)) r.num.natAbs r.den

def ofNat (n : Nat) : Binary64 := ofRat false n

def isFinite : Binary64 → Bool
  | .finite .. => true
  | _ => false

def isNegative : Binary64 → Bool
  | .nan => false
  | .infinite negative => negative
  | .finite negative _ _ => negative

def isZero : Binary64 → Bool
  | .finite _ m _ => m == 0
  | _ => false

/-- Signs multiply; zero times an infinity is no number. -/
def mul (a b : Binary64) : Binary64 :=
  let negative := a.isNegative != b.isNegative
  match a, b with
  | .nan, _ => .nan
  | _, .nan => .nan
  | .infinite _, _ => if b.isZero then .nan else .infinite negative
  | _, .infinite _ => if a.isZero then .nan else .infinite negative
  | .finite _ m q, .finite _ n p => ofRat negative (scale m q * scale n p * (if negative then -1 else 1))

/-- The sum of two finite numbers; other operands have none. -/
def add (a b : Binary64) : Binary64 :=
  match a.value?, b.value? with
  | some x, some y => ofRat (a.isNegative && b.isNegative) (x + y)
  | _, _ => .nan

/-- The quotient of two finite numbers, the divisor not zero; other operands have none. -/
def div (a b : Binary64) : Binary64 :=
  match a.value?, b.value? with
  | some x, some y =>
    if y = 0 then .nan else ofRat (a.isNegative != b.isNegative) (x / y)
  | _, _ => .nan

/-- The number nearest to `digits * 10 ^ exponent`. -/
def ofDecimal (negative : Bool) (digits : Nat) (exponent : Int) : Binary64 :=
  roundRatio negative (digits * Nat.pow 10 exponent.toNat) (Nat.pow 10 (-exponent).toNat)

/-- Strictly less, as a comparison of numbers: false if either side is no number. -/
def lt (a b : Binary64) : Bool :=
  match a, b with
  | .nan, _ => false
  | _, .nan => false
  | .infinite x, .infinite y => x && !y
  | .infinite x, .finite .. => x
  | .finite .., .infinite y => !y
  | .finite .., .finite .. =>
    match a.value?, b.value? with
    | some x, some y => decide (x < y)
    | _, _ => false

/-- The loop of `pow`: `acc` collects the squares whose bit is set in what is left of the exponent. -/
def powLoop : Nat → Binary64 → Binary64 → Nat → Binary64
  | 0, acc, _, _ => acc
  | fuel + 1, acc, base, n =>
    let acc := if n % 2 = 1 then acc.mul base else acc
    if n / 2 = 0 then acc else powLoop fuel acc (base.mul base) (n / 2)

/-- Integer powers by repeated squaring, each product rounded. -/
def pow (base : Binary64) (n : Nat) : Binary64 := powLoop (n.log2 + 1) (ofNat 1) base n

end Binary64

end EventRelay
