import InlineMarkup.Unicode.CharSet
import InlineMarkup.Unicode.Runs.Scripts
import InlineMarkup.Unicode.Runs.Symbols
import InlineMarkup.Unicode.Runs.Historic
import InlineMarkup.Unicode.Runs.Signs

/-!
# Editions of the standard

The text functions of the library follow one edition of the standard and patterns the one before
it. The tables hold the later edition; `newcomers` and a few other changes lead back to the earlier
one.
-/

namespace InlineMarkup.Unicode

/-- **An edition,** by its main version. -/
inductive Edition where
  | sixteen
  | seventeen
  deriving DecidableEq

/-- The characters that the later edition added. -/
def newcomers : List (Nat × Nat) :=
  [(0x088F, 0x088F), (0x0C5C, 0x0C5C), (0x0CDC, 0x0CDC), (0x1ACF, 0x1ADD), (0x1AE0, 0x1AEB),
   (0x20C1, 0x20C1), (0x2B96, 0x2B96), (0xA7CE, 0xA7CF), (0xA7D2, 0xA7D2), (0xA7D4, 0xA7D4),
   (0xA7F1, 0xA7F1), (0xFBC3, 0xFBD2), (0xFD90, 0xFD91), (0xFDC8, 0xFDCE), (0x10940, 0x10959),
   (0x10EC5, 0x10EC7), (0x10ED0, 0x10ED8), (0x10EFA, 0x10EFB), (0x11B60, 0x11B67),
   (0x11DB0, 0x11DDB), (0x11DE0, 0x11DE9), (0x16EA0, 0x16EB8), (0x16EBB, 0x16ED3),
   (0x16FF2, 0x16FF6), (0x187F8, 0x187FF), (0x18D09, 0x18D1E), (0x18D80, 0x18DF2),
   (0x1CCFA, 0x1CCFC), (0x1CEBA, 0x1CED0), (0x1CEE0, 0x1CEF0), (0x1E6C0, 0x1E6DE),
   (0x1E6E0, 0x1E6F5), (0x1E6FE, 0x1E6FF), (0x1F6D8, 0x1F6D8), (0x1F777, 0x1F77A),
   (0x1F8D0, 0x1F8D8), (0x1FA54, 0x1FA57), (0x1FA8A, 0x1FA8A), (0x1FA8E, 0x1FA8E),
   (0x1FAC8, 0x1FAC8), (0x1FACD, 0x1FACD), (0x1FAEA, 0x1FAEA), (0x1FAEF, 0x1FAEF),
   (0x1FBFA, 0x1FBFA), (0x2B73A, 0x2B73F), (0x2CEA2, 0x2CEAD), (0x323B0, 0x33479)]

/-- All runs in ascending order. -/
def allRuns : List Run :=
  Run.scripts.toList ++ Run.symbols.toList ++ Run.historic.toList ++ Run.signs.toList

/-- The runs among which the one of a code point is found. -/
def runsAround (n : Nat) : Array Run :=
  if n ≤ 0x1FFF then Run.scripts
  else if n ≤ 0xFFFF then Run.symbols
  else if n ≤ 0x1AFFF then Run.historic
  else Run.signs

/-- The category of a code point by bisection of ascending runs from index `lo` up to `hi`. -/
def categoryWithin (runs : Array Run) (n lo hi : Nat) : Category :=
  if hi ≤ lo then .cn
  else
    let mid := (lo + hi) / 2
    match runs[mid]? with
    | none => .cn
    | some r =>
      match r.category? n with
      | some c => c
      | none =>
        if n < r.first then categoryWithin runs n lo mid else categoryWithin runs n (mid + 1) hi
  termination_by hi - lo

/-- **The general category** of a character, in the later edition. -/
def category (c : Char) : Category :=
  let runs := runsAround c.toNat
  categoryWithin runs c.toNat 0 runs.size

/-- The characters that runs give one of the categories to. -/
def inCategories (cs : List Category) : CharSet :=
  .ofRanges (allRuns.flatMap fun r => r.withCategories cs)

/-- The voiced pharyngeal fricative, a lowercase letter in the earlier edition. -/
def pharyngeal : CharSet := .single '\u0295'

/-- **The characters with one of the categories** in an edition. Unassigned code points are not
among them. -/
def withCategories (e : Edition) (cs : List Category) : CharSet :=
  match e with
  | .seventeen => inCategories cs
  | .sixteen =>
    let s := (inCategories cs).diff (.ofRanges newcomers)
    if cs.contains .ll then s.union pharyngeal else s.diff pharyngeal

/-- **The code points that an edition assigns.** -/
def assigned (e : Edition) : CharSet :=
  withCategories e (Category.all.filter fun c => c ≠ .cn)

end InlineMarkup.Unicode
