import InlineMarkup.Number.Shortest
import InlineMarkup.Number.Word

/-!
# Numbers in JSON

A numeral is what is written; a number is what it is read as. Whole numbers of 64 bits are kept as
they are, everything else becomes a `Binary64`: the leading digits that fit into 64 bits make up a
whole number, which is then multiplied or divided by a power of ten. A result beyond the greatest
finite number is refused.
-/

namespace InlineMarkup.Json

/-- **A number.** -/
inductive Number where
  | whole (n : Int)
  | float (x : Binary64)
  deriving DecidableEq

/-- **A numeral:** its sign, and its digits before the point, behind the point and in the
exponent. -/
structure Numeral where
  negative : Bool
  whole : List Nat
  fraction : Option (List Nat)
  exponent : Option (Bool × List Nat)

/-- Takes leading digits as long as the result has 64 bits, and returns it with the digits left. -/
def takeDigits (n : Nat) : List Nat → Nat × List Nat
  | [] => (n, [])
  | d :: ds => if n * 10 + d ≤ Word.maxNat then takeDigits (n * 10 + d) ds else (n, d :: ds)

/-- A number scaled by a power of ten of any size; absent if the result is not finite. Each of the
at most `fuel` divisions for small results is rounded. -/
def scale : (fuel : Nat) → Binary64 → Int → Option Binary64
  | 0, x, _ => some x
  | fuel + 1, x, exponent =>
    if x.isZero then some x
    else if 308 < exponent then none
    else if 0 ≤ exponent then
      let y := x.mul (.tenPow exponent.natAbs)
      if y.isFinite then some y else none
    else if -308 ≤ exponent then some (x.div (.tenPow exponent.natAbs))
    else scale fuel (x.div (.tenPow 308)) (exponent + 308)

namespace Numeral

/-- One more than the greatest exponent of 32 bits. -/
def exponentSpan : Nat := 0x80000000

/-- The value of the exponent, or the sign of one that does not even fit into 32 bits. -/
def exponentValue (n : Numeral) : Except Bool Int :=
  match n.exponent with
  | none => .ok 0
  | some (negative, digits) =>
    let size : Nat := digits.foldl (fun (n d : Nat) => min (n * 10 + d) exponentSpan) 0
    if size = exponentSpan then .error negative
    else .ok (if negative then -(size : Int) else size)

/-- **The number that a numeral stands for;** absent if it is out of range. -/
def value? (n : Numeral) : Option Number :=
  let (whole, dropped) := takeDigits 0 n.whole
  if n.fraction.isNone ∧ n.exponent.isNone ∧ dropped.isEmpty
      ∧ (n.negative → 0 < whole ∧ whole ≤ Word.signedSpan) then
    some (.whole (if n.negative then -(whole : Int) else whole))
  else
    let fraction := n.fraction.getD []
    let (digits, ignored) := takeDigits whole fraction
    let shift : Int := (dropped.length + ignored.length : Nat) - (fraction.length : Nat)
    let size :=
      match n.exponentValue with
      | .ok e => scale 4 (.ofNat digits) (shift + e)
      | .error negative => if digits = 0 ∨ negative then some (.zero false) else none
    size.map fun x => .float (if n.negative then x.neg else x)

end Numeral
end InlineMarkup.Json
