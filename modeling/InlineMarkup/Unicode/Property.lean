import InlineMarkup.Unicode.Marks

/-!
# Properties of characters

What the text functions ask of a single character: whether it shows something, whether it joins the
character before it to one visible unit, whether it is a letter, a number or white space. All follow
from the category, in the later edition of the standard, and a few short lists.
-/

namespace InlineMarkup.Unicode

/-- Is the character in one of the ranges? -/
def isListed (ranges : List (Nat × Nat)) (c : Char) : Bool := inRanges ranges c.toNat

/-- White space. -/
def isSpace (c : Char) : Bool := isListed spaces c

/-- **Letters in the wide sense.** -/
def isAlphabetic (c : Char) : Bool :=
  let cat := category c
  cat == .nl || Category.letters.contains cat || isListed letterLikeSymbols c
    || (Category.marks.contains cat && isListed markRanges c)

/-- **Numbers of any kind.** -/
def isNumeric (c : Char) : Bool := [.nd, .nl, .no].contains (category c)

/-- Characters that join the one before them to one visible unit. The two sound marks of half width
do not, which show by themselves. -/
def isExtender (c : Char) : Bool :=
  ([.mn, .me].contains (category c) || isListed otherExtenders c)
    && !isListed [(0xFF9E, 0xFF9F)] c

/-- **Characters that show something,** the plain space among them. The others are controls,
separators, code points without an agreed character, and characters made to show nothing. -/
def isVisible (c : Char) : Bool :=
  c == ' ' || !([.cc, .cf, .cs, .co, .cn, .zl, .zp, .zs].contains (category c)
    || isListed ignorables c)

end InlineMarkup.Unicode
