/-!
# General categories

Unicode assigns every character one of thirty general categories. A `Run` gives the categories of
a stretch of neighbouring characters; tables of runs hold the data, and a character that no run
holds is unassigned.
-/

namespace InlineMarkup.Unicode

/-- **The general categories,** under their two-letter names. -/
inductive Category where
  | lu | ll | lt | lm | lo
  | mn | mc | me
  | nd | nl | no
  | pc | pd | ps | pe | pi | pf | po
  | sm | sc | sk | so
  | zs | zl | zp
  | cc | cf | cs | co | cn
  deriving DecidableEq

namespace Category

/-- All general categories. -/
def all : List Category :=
  [lu, ll, lt, lm, lo, mn, mc, me, nd, nl, no, pc, pd, ps, pe, pi, pf, po, sm, sc, sk, so,
   zs, zl, zp, cc, cf, cs, co, cn]

/-- The two-letter name of a category and its long name, both in lower case without separators. -/
def names : Category → String × String
  | lu => ("lu", "uppercaseletter")
  | ll => ("ll", "lowercaseletter")
  | lt => ("lt", "titlecaseletter")
  | lm => ("lm", "modifierletter")
  | lo => ("lo", "otherletter")
  | mn => ("mn", "nonspacingmark")
  | mc => ("mc", "spacingmark")
  | me => ("me", "enclosingmark")
  | nd => ("nd", "decimalnumber")
  | nl => ("nl", "letternumber")
  | no => ("no", "othernumber")
  | pc => ("pc", "connectorpunctuation")
  | pd => ("pd", "dashpunctuation")
  | ps => ("ps", "openpunctuation")
  | pe => ("pe", "closepunctuation")
  | pi => ("pi", "initialpunctuation")
  | pf => ("pf", "finalpunctuation")
  | po => ("po", "otherpunctuation")
  | sm => ("sm", "mathsymbol")
  | sc => ("sc", "currencysymbol")
  | sk => ("sk", "modifiersymbol")
  | so => ("so", "othersymbol")
  | zs => ("zs", "spaceseparator")
  | zl => ("zl", "lineseparator")
  | zp => ("zp", "paragraphseparator")
  | cc => ("cc", "control")
  | cf => ("cf", "format")
  | cs => ("cs", "surrogate")
  | co => ("co", "privateuse")
  | cn => ("cn", "unassigned")

/-- Groups of categories with the names they go by. -/
def groups : List (List String × List Category) :=
  [(["l", "letter"], [lu, ll, lt, lm, lo]),
   (["lc", "casedletter"], [lu, ll, lt]),
   (["m", "mark", "combiningmark"], [mn, mc, me]),
   (["n", "number"], [nd, nl, no]),
   (["p", "punctuation", "punct"], [pc, pd, ps, pe, pi, pf, po]),
   (["s", "symbol"], [sm, sc, sk, so]),
   (["z", "separator"], [zs, zl, zp]),
   (["c", "other"], [cc, cf, cs, co, cn]),
   (["nd", "digit"], [nd]),
   (["cc", "cntrl"], [cc])]

/-- The categories that a name stands for. -/
def named? (name : String) : Option (List Category) :=
  match all.find? fun c => c.names.1 = name ∨ c.names.2 = name with
  | some c => some [c]
  | none => (groups.find? fun g => g.1.contains name).map (·.2)

end Category

/-- **A stretch of neighbouring characters.** Either all have one category, or uppercase and
lowercase letters take turns, an uppercase letter first. -/
inductive Run where
  | same (first last : Nat) (category : Category)
  | cased (first last : Nat)

namespace Run

/-- The first character of a run. -/
def first : Run → Nat
  | same first _ _ => first
  | cased first _ => first

/-- The category that a run gives to a code point, if it holds it. -/
def category? (r : Run) (n : Nat) : Option Category :=
  match r with
  | same first last c => if first ≤ n ∧ n ≤ last then some c else none
  | cased first last =>
    if first ≤ n ∧ n ≤ last then some (if (n - first) % 2 = 0 then .lu else .ll) else none

/-- The parts of a run that have one of the given categories. -/
def withCategories (cs : List Category) : Run → List (Nat × Nat)
  | same first last c => if cs.contains c then [(first, last)] else []
  | cased first last =>
    match cs.contains .lu, cs.contains .ll with
    | true, true => [(first, last)]
    | false, false => []
    | upper, _ =>
      (List.range ((last + 1 - first) / 2)).map fun i =>
        let n := first + 2 * i + if upper then 0 else 1
        (n, n)

end Run
end InlineMarkup.Unicode
