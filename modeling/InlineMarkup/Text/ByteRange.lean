/-!
# Ranges of characters as ranges of bytes

In UTF-8 a range of characters is a union of products: the first byte runs over a range, the second
one over another, and so on. `byteRanges` gives these products in ascending order.
-/

namespace InlineMarkup.Text

/-- A range of bytes, ends included. -/
abbrev ByteRange := Nat × Nat

/-- A byte in front of the bytes of products. -/
def leadBy (byte : Nat) (products : List (List ByteRange)) : List (List ByteRange) :=
  products.map fun p => (byte, byte) :: p

/-- The least and the greatest byte that goes on with a character. -/
def continuation : ByteRange := (0x80, 0xBF)

/-- **The products for the numbers from `a` to `b`** that are written with a first byte, counted
from `base`, and `more` bytes of six bits each. What begins or ends inside a stretch of numbers
with the same first byte is split off from the stretches that are complete. -/
def products (base : Nat) : (more : Nat) → (a b : Nat) → List (List ByteRange)
  | 0, a, b => [[(base + a, base + b)]]
  | more + 1, a, b =>
    let unit := Nat.pow 64 (more + 1)
    let first := a / unit
    let last := b / unit
    let within := fun (byte a b : Nat) => leadBy (base + byte) (products continuation.1 more a b)
    if first = last then within first (a % unit) (b % unit)
    else
      let startsWhole := a % unit = 0
      let endsWhole := b % unit = unit - 1
      let low := if startsWhole then first else first + 1
      let high := if endsWhole then last + 1 else last
      (if startsWhole then [] else within first (a % unit) (unit - 1))
        ++ (if low < high then
              [(base + low, base + high - 1) :: List.replicate (more + 1) continuation]
            else [])
        ++ (if endsWhole then [] else within last 0 (b % unit))

/-- The ranges of code points that are written with equally many bytes: their ends, what the first
byte is counted from, and how many bytes follow. -/
def byteForms : List (Nat × Nat × Nat × Nat) :=
  [(0, 0x7F, 0, 0), (0x80, 0x7FF, 0xC0, 1), (0x800, 0xFFFF, 0xE0, 2), (0x10000, 0x10FFFF, 0xF0, 3)]

/-- **The products of ranges of bytes** for the characters of a range. -/
def byteRanges (first last : Nat) : List (List ByteRange) :=
  byteForms.flatMap fun (low, high, base, more) =>
    let a := max first low
    let b := min last high
    if a ≤ b then products base more a b else []

end InlineMarkup.Text
