import InlineMarkup.Number.Binary64

/-!
# Shortest decimals

The decimal that stands for a number of double precision is the shortest one that reads back as
it; of several that short the nearest is taken, and a `Tie` decides between two equally near ones.
`Binary64.shortest?` finds its digits, `positional` and `scientific` write them.
-/

namespace InlineMarkup

/-- **A decimal number** `digits · 10 ^ exponent`. -/
structure Decimal where
  digits : Nat
  exponent : Int
  deriving DecidableEq

namespace Decimal

/-- The decimal digits of a positive decimal. -/
def digitChars (d : Decimal) : List Char := Nat.toDigits 10 d.digits

/-- The number of digits before the point; negative if zeros follow it. -/
def pointAt (d : Decimal) : Int := d.digitChars.length + d.exponent

/-- **The positional form,** a whole number without a point. -/
def positional (d : Decimal) : List Char :=
  let cs := d.digitChars
  if 0 ≤ d.exponent then cs ++ List.replicate d.exponent.natAbs '0'
  else
    let point := d.pointAt
    if 0 < point then cs.take point.natAbs ++ '.' :: cs.drop point.natAbs
    else '0' :: '.' :: List.replicate point.natAbs '0' ++ cs

/-- The form with one digit before the point and a power of ten with its sign. -/
def scientific (d : Decimal) : List Char :=
  let mantissa :=
    match d.digitChars with
    | [] => []
    | [c] => [c]
    | c :: cs => c :: '.' :: cs
  let power := d.pointAt - 1
  mantissa ++ 'e' :: (if power < 0 then '-' else '+') :: Nat.toDigits 10 power.natAbs

/-- The same number without zeros at the end of its digits; `fuel` bounds their number. -/
def dropZeros : Nat → Decimal → Decimal
  | 0, d => d
  | fuel + 1, d =>
    if d.digits ≠ 0 ∧ d.digits % 10 = 0 then dropZeros fuel ⟨d.digits / 10, d.exponent + 1⟩ else d

end Decimal

/-- **Which of two equally near decimals is taken:** the one with an even last digit, or the one
further from zero. -/
inductive Tie where
  | toEven
  | away
  deriving DecidableEq

namespace Binary64

/-- **The numbers that round to a finite positive one,** all as multiples of a quarter of its last
binary digit: the least and greatest of them, and whether these two belong to them. The step to
the next smaller number is halved at a power of two. -/
def roundingInterval (m : Nat) (e : Int) : Nat × Nat × Bool :=
  let low := if m = leastFull ∧ minExponent < e then 4 * m - 1 else 4 * m - 2
  (low, 4 * m + 2, m % 2 == 0)

/-- The decimal nearest to a number among those with the given exponent, if it reads back. -/
def nearestAt? (tie : Tie) (m : Nat) (e exponent : Int) : Option Decimal :=
  let (low, high, closed) := roundingInterval m e
  let (p, q) := twoPow (e - 2)
  let (num, den) : Nat × Nat :=
    if exponent < 0 then (p * Nat.pow 10 exponent.natAbs, q)
    else (p, q * Nat.pow 10 exponent.natAbs)
  let value := 4 * m * num
  let below := value / den
  let reads := fun (d : Nat) =>
    if closed then low * num ≤ d * den ∧ d * den ≤ high * num
    else low * num < d * den ∧ d * den < high * num
  let fromBelow := value - below * den
  let fromAbove := (below + 1) * den - value
  let halfway := fromBelow = fromAbove ∧ tie = .toEven ∧ below % 2 = 0
  let belowFirst := fromBelow < fromAbove ∨ halfway
  let order := if belowFirst then [below, below + 1] else [below + 1, below]
  (order.find? fun d => d ≠ 0 ∧ reads d).map fun d => ⟨d, exponent⟩

/-- **The shortest decimal** that reads back as a finite number other than zero, without its sign.
Coarser decimals are tried first, from the size of the number down. -/
def shortest? (tie : Tie) : Binary64 → Option Decimal
  | finite _ m e =>
    if m = 0 then none
    else
      let whole := (magnitude (finite false m e)).1 / (magnitude (finite false m e)).2
      let top : Int := (Nat.toDigits 10 whole).length
      (List.range 360).findSome? fun (i : Nat) =>
        (nearestAt? tie m e (top - i)).map (Decimal.dropZeros 20)
  | _ => none

/-- The sign of a number in writing. -/
def sign (x : Binary64) : List Char := if x.isNegative then ['-'] else []

/-- **The plain form:** always positional, whole numbers without a point. -/
def plain (tie : Tie) (x : Binary64) : String :=
  match x with
  | nan => "NaN"
  | infinite s => if s then "-inf" else "inf"
  | x =>
    match x.shortest? tie with
    | none => String.ofList (x.sign ++ ['0'])
    | some d => String.ofList (x.sign ++ d.positional)

/-- The plain form of a number, with `.0` where a finite number would show no point. -/
def pointed (tie : Tie) (x : Binary64) : String :=
  let text := x.plain tie
  if x.isFinite ∧ ¬ text.toList.contains '.' then text ++ ".0" else text

/-- **The compact form:** positional with a point where the point falls within sixteen digits or
few zeros follow it, scientific elsewhere. Of two equally near decimals it shows the even one. -/
def compact (x : Binary64) : String :=
  match x.shortest? .toEven with
  | none => x.pointed .toEven
  | some d =>
    if -5 < d.pointAt ∧ d.pointAt ≤ 16 then x.pointed .toEven
    else String.ofList (x.sign ++ d.scientific)

end Binary64
end InlineMarkup
