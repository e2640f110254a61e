import InlineMarkup.Unicode.CharSet

/-!
# Classes of ASCII characters

Sets that go by a name of their own within ASCII, and letters in another case there.
-/

namespace InlineMarkup.Unicode.CharSet

/-- The ASCII letters. -/
def asciiLetter : CharSet := (range 'A' 'Z').union (range 'a' 'z')

/-- The ASCII digits. -/
def asciiDigit : CharSet := range '0' '9'

/-- The ASCII word characters. -/
def asciiWord : CharSet := unions [asciiLetter, asciiDigit, single '_']

/-- White space within ASCII. -/
def asciiSpace : CharSet := (range '\t' '\x0d').union (single ' ')

/-- **The classes of ASCII characters** that go by a name. -/
def asciiClass? : String → Option CharSet
  | "alnum" => some (asciiLetter.union asciiDigit)
  | "alpha" => some asciiLetter
  | "ascii" => some ascii
  | "blank" => some ((single '\t').union (single ' '))
  | "cntrl" => some ((range '\x00' '\x1f').union (single '\x7f'))
  | "digit" => some asciiDigit
  | "graph" => some (range '!' '~')
  | "lower" => some (range 'a' 'z')
  | "print" => some (range ' ' '~')
  | "punct" => some (unions [range '!' '/', range ':' '@', range '[' '\x60', range '\x7b' '~'])
  | "space" => some asciiSpace
  | "upper" => some (range 'A' 'Z')
  | "word" => some asciiWord
  | "xdigit" => some (unions [asciiDigit, range 'A' 'F', range 'a' 'f'])
  | _ => none

/-- The distance from an ASCII letter of upper case to that of lower case. -/
def caseDistance : Int := 32

/-- **The set with the same letters in the other case,** within ASCII. -/
def asciiFolded (s : CharSet) : CharSet :=
  unions [s, (s.inter (range 'A' 'Z')).shifted caseDistance,
    (s.inter (range 'a' 'z')).shifted (-caseDistance)]

end InlineMarkup.Unicode.CharSet
