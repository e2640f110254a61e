/-!
# Runs of letters

Letters and their counterparts in another case mostly lie at a fixed distance from each other. A
`CaseRun` maps a stretch of letters that way; a table of runs maps them all.
-/

namespace InlineMarkup.Unicode

/-- **A stretch of letters that are mapped alike:** every `stride`-th code point from `first` to
`last` is mapped to the code point `offset` away. -/
structure CaseRun where
  first : Nat
  last : Nat
  stride : Nat
  offset : Int

namespace CaseRun

/-- Is the code point one of the stretch? -/
def contains (r : CaseRun) (n : Nat) : Bool :=
  r.first ≤ n && n ≤ r.last && (n - r.first) % r.stride == 0

/-- The code points of the stretch. -/
def codes (r : CaseRun) : List Nat :=
  (List.range ((r.last - r.first) / r.stride + 1)).map fun i => r.first + r.stride * i

/-- The image of a code point of the stretch. -/
def image (r : CaseRun) (n : Nat) : Nat := (Int.ofNat n + r.offset).toNat

/-- The image of a code point under a table of runs; what is in no run is its own image. -/
def map (runs : Array CaseRun) (n : Nat) : Nat :=
  match runs.find? fun r => r.contains n with
  | some r => r.image n
  | none => n

end CaseRun
end InlineMarkup.Unicode
