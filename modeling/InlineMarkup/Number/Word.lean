/-!
# Words of 64 bits

The bounds of whole numbers that fit into 64 bits, with and without a sign.
-/

namespace InlineMarkup.Word

/-- The greatest number without a sign. -/
def maxNat : Nat := 0xFFFFFFFFFFFFFFFF

/-- The size of the least number with a sign. -/
def signedSpan : Nat := 0x8000000000000000

/-- Does a number with a sign fit? -/
def fitsInt (n : Int) : Bool := -(signedSpan : Int) ≤ n && n < signedSpan

end InlineMarkup.Word
