/-!
# Binary floating point, exactly

A `Binary64` is a number of the usual double precision, given by what it denotes: `m · 2 ^ e` with
a sign, an infinity, or no number at all. Arithmetic is done on fractions of natural numbers and
rounded once (`ofRatio`), to the nearest number and from halfway to the even one, so results do not
depend on any hardware.
-/

namespace InlineMarkup

/-- **A number of double precision.** The value of `finite s m e` is `m · 2 ^ e`, negative if `s`
says so; there `m < 2 ^ 53` and `-1074 ≤ e`, and `m` is at least `2 ^ 52` unless `e` is `-1074`. -/
inductive Binary64 where
  | nan
  | infinite (negative : Bool)
  | finite (negative : Bool) (m : Nat) (e : Int)
  deriving DecidableEq

namespace Binary64

/-- The least exponent. -/
def minExponent : Int := -1074

/-- The least number of 53 binary digits. -/
def leastFull : Nat := 0x10000000000000

/-- The greatest exponent. -/
def maxExponent : Int := 971

/-- Zero with a sign. -/
def zero (negative : Bool) : Binary64 := .finite negative 0 minExponent

/-- A power of two as a fraction. -/
def twoPow (e : Int) : Nat × Nat :=
  if e < 0 then (1, Nat.pow 2 e.natAbs) else (Nat.pow 2 e.natAbs, 1)

/-- The quotient rounded to the nearest natural number, from halfway to the even one. -/
def divNearestEven (num den : Nat) : Nat :=
  let q := num / den
  let twice := 2 * (num % den)
  if den < twice || (twice == den && q % 2 == 1) then q + 1 else q

/-- The exponent for which a positive fraction has 53 binary digits before the point, or the least
one if it is too small for that. -/
def exponentOf (num den : Nat) : Int :=
  let guess : Int := (Nat.log2 num : Int) - (Nat.log2 den : Int) - 52
  let (p, q) := twoPow guess
  -- the guess is one too large exactly if the fraction has fewer digits than that
  let e := if num * q < leastFull * (den * p) then guess - 1 else guess
  max e minExponent

/-- **The number nearest to a fraction,** from halfway the even one. Beyond the greatest finite
number lies infinity. -/
def ofRatio (negative : Bool) (num den : Nat) : Binary64 :=
  if num = 0 ∨ den = 0 then zero negative
  else
    let e := exponentOf num den
    let (p, q) := twoPow e
    let m := divNearestEven (num * q) (den * p)
    let (m, e) := if m = 2 * leastFull then (leastFull, e + 1) else (m, e)
    if e > maxExponent then .infinite negative else .finite negative m e

/-- A natural number, rounded. -/
def ofNat (n : Nat) : Binary64 := ofRatio false n 1

/-- The size of a number as a fraction; zero if it is not finite. -/
def magnitude : Binary64 → Nat × Nat
  | finite _ m e => let (p, q) := twoPow e; (m * p, q)
  | _ => (0, 1)

/-- Is the number below zero, or zero with a negative sign? -/
def isNegative : Binary64 → Bool
  | nan => false
  | infinite s => s
  | finite s .. => s

/-- Is it a finite number? -/
def isFinite : Binary64 → Bool
  | finite .. => true
  | _ => false

/-- Is it zero? -/
def isZero : Binary64 → Bool
  | finite _ m _ => m == 0
  | _ => false

/-- The number with the other sign. -/
def neg : Binary64 → Binary64
  | nan => nan
  | infinite s => infinite !s
  | finite s m e => finite (!s) m e

/-- The product of two finite numbers, rounded. -/
def mul (a b : Binary64) : Binary64 :=
  let (p, q) := a.magnitude
  let (p', q') := b.magnitude
  ofRatio (a.isNegative != b.isNegative) (p * p') (q * q')

/-- The quotient of two finite numbers, rounded. -/
def div (a b : Binary64) : Binary64 :=
  let (p, q) := a.magnitude
  let (p', q') := b.magnitude
  ofRatio (a.isNegative != b.isNegative) (p * q') (q * p')

/-- A power of ten, rounded. -/
def tenPow (k : Nat) : Binary64 := ofNat (Nat.pow 10 k)

/-- **A decimal number** `digits · 10 ^ exponent`, rounded once. -/
def ofDecimal (negative : Bool) (digits : Nat) (exponent : Int) : Binary64 :=
  -- for exponents of either sign this keeps the powers small; nothing representable is refused
  let tiny := exponent < 0 ∧ (Nat.log2 digits : Int) + 3 * exponent < -1100
  if digits = 0 ∨ tiny then zero negative
  else if 0 ≤ exponent then
    if exponent > 400 then .infinite negative
    else ofRatio negative (digits * Nat.pow 10 exponent.natAbs) 1
  else ofRatio negative digits (Nat.pow 10 exponent.natAbs)

/-- **The nearest whole number,** from halfway the one further from zero, as a size. -/
def roundedSize (x : Binary64) : Nat :=
  let (p, q) := x.magnitude
  (2 * p + q) / (2 * q)

end Binary64
end InlineMarkup
