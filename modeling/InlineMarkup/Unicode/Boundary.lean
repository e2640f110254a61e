import InlineMarkup.Unicode.Emoji
import InlineMarkup.Unicode.Marks
import InlineMarkup.Unicode.Script
import InlineMarkup.Unicode.Signs

/-!
# Classes of text boundaries

Rules for the boundaries of visible units, words and sentences put every character into a class.
The classes follow from categories, scripts and properties, but for a few characters that they
name. They are those of the earlier edition, and each rule knows its classes by their normal names;
characters that have no class of a rule are in none of its sets.
-/

namespace InlineMarkup.Unicode

/-- Consonants that stand above the one they come before. -/
def precedingConsonants : List (Nat × Nat) :=
  [(0x0D4E, 0x0D4E), (0x111C2, 0x111C3), (0x113D1, 0x113D1), (0x1193F, 0x1193F),
   (0x11941, 0x11941), (0x11A3A, 0x11A3A), (0x11A84, 0x11A89), (0x11D46, 0x11D46),
   (0x11F02, 0x11F02)]

/-- Spacing marks that stand as units of their own. -/
def separateMarks : List (Nat × Nat) :=
  [(0x102B, 0x102C), (0x1038, 0x1038), (0x1062, 0x1064), (0x1067, 0x106D), (0x1083, 0x1083),
   (0x1087, 0x108C), (0x108F, 0x108F), (0x109A, 0x109C), (0x1A61, 0x1A61), (0x1A63, 0x1A64),
   (0xAA7B, 0xAA7B), (0xAA7D, 0xAA7D), (0x11720, 0x11721)]

/-- Vowels that follow their consonant although they are letters. -/
def attachedVowels : List (Nat × Nat) := [(0x0E33, 0x0E33), (0x0EB3, 0x0EB3)]

/-- Leading consonants of syllable blocks. -/
def leadingJamo : List (Nat × Nat) := [(0x1100, 0x115F), (0xA960, 0xA97C)]

/-- Vowels of syllable blocks. -/
def vowelJamo : List (Nat × Nat) :=
  [(0x1160, 0x11A7), (0xD7B0, 0xD7C6), (0x16D63, 0x16D63), (0x16D67, 0x16D6A)]

/-- Trailing consonants of syllable blocks. -/
def trailingJamo : List (Nat × Nat) := [(0x11A8, 0x11FF), (0xD7CB, 0xD7FB)]

/-- Whole syllable blocks. -/
def syllables : Nat × Nat := (0xAC00, 0xD7A3)

/-- The number of syllable blocks that differ only in their trailing consonant. -/
def syllablesPerVowel : Nat := 28

/-- Signs that belong to the words of the Japanese syllabary. -/
def syllabarySigns : List (Nat × Nat) :=
  [(0x3031, 0x3035), (0x309B, 0x309C), (0x30A0, 0x30A0), (0x30FC, 0x30FC), (0xFF70, 0xFF70)]

/-- Scripts that leave no space between words. -/
def unspacedScripts : List String :=
  ["Hira", "Kana", "Thai", "Laoo", "Khmr", "Mymr", "Tale", "Talu", "Lana", "Tavt", "Ahom"]

/-- Signs that belong to words without being letters. -/
def wordSigns : List (Nat × Nat) :=
  [(0x02C2, 0x02C5), (0x02D2, 0x02D7), (0x02DE, 0x02DF), (0x02E5, 0x02EB), (0x02ED, 0x02ED),
   (0x02EF, 0x02FF), (0x055A, 0x055C), (0x055E, 0x055E), (0x058A, 0x058A), (0x05F3, 0x05F3),
   (0x070F, 0x070F), (0xA708, 0xA716), (0xA720, 0xA721), (0xA789, 0xA78A), (0xAB5B, 0xAB5B)]

/-- Signs that may stand between the letters of a word. -/
def betweenLetters : List (Nat × Nat) :=
  [(0x003A, 0x003A), (0x00B7, 0x00B7), (0x0387, 0x0387), (0x055F, 0x055F), (0x05F4, 0x05F4),
   (0x2027, 0x2027), (0xFE13, 0xFE13), (0xFE55, 0xFE55), (0xFF1A, 0xFF1A)]

/-- Signs that may stand between the digits of a number. -/
def betweenDigits : List (Nat × Nat) :=
  [(0x002C, 0x002C), (0x003B, 0x003B), (0x037E, 0x037E), (0x0589, 0x0589), (0x060C, 0x060D),
   (0x066C, 0x066C), (0x07F8, 0x07F8), (0x2044, 0x2044), (0xFE10, 0xFE10), (0xFE14, 0xFE14),
   (0xFE50, 0xFE50), (0xFE54, 0xFE54), (0xFF0C, 0xFF0C), (0xFF1B, 0xFF1B)]

/-- Signs that may stand in both places. -/
def betweenBoth : List (Nat × Nat) :=
  [(0x002E, 0x002E), (0x2018, 0x2019), (0x2024, 0x2024), (0xFE52, 0xFE52), (0xFF07, 0xFF07),
   (0xFF0E, 0xFF0E)]

/-- Spaces between words; those that do not break a line and the tabulator are not among them. -/
def wordSpaces : List (Nat × Nat) :=
  [(0x0020, 0x0020), (0x1680, 0x1680), (0x2000, 0x2006), (0x2008, 0x200A), (0x205F, 0x205F),
   (0x3000, 0x3000)]

/-- Signs that belong to numbers without being decimal digits. -/
def numberSigns : List (Nat × Nat) :=
  [(0x0600, 0x0605), (0x066B, 0x066B), (0x06DD, 0x06DD), (0x0890, 0x0891), (0x08E2, 0x08E2),
   (0x19DA, 0x19DA), (0x110BD, 0x110BD), (0x110CD, 0x110CD)]

/-- Georgian letters in upper case, which do not tell where a sentence begins. -/
def largeGeorgian : List (Nat × Nat) := [(0x1C90, 0x1CBA), (0x1CBD, 0x1CBF)]

/-- Georgian letters in lower case, which do not tell where a sentence goes on. -/
def smallGeorgian : List (Nat × Nat) := [(0x10D0, 0x10FA), (0x10FD, 0x10FF)]

/-- Full stops, which may also end an abbreviation. -/
def fullStops : List (Nat × Nat) :=
  [(0x002E, 0x002E), (0x2024, 0x2024), (0xFE52, 0xFE52), (0xFF0E, 0xFF0E)]

/-- Signs within a sentence. -/
def withinSentence : List (Nat × Nat) :=
  [(0x002C, 0x002D), (0x003A, 0x003B), (0x037E, 0x037E), (0x055D, 0x055D), (0x060C, 0x060D),
   (0x07F8, 0x07F8), (0x1802, 0x1802), (0x1808, 0x1808), (0x2013, 0x2014), (0x3001, 0x3001),
   (0xFE10, 0xFE11), (0xFE13, 0xFE14), (0xFE31, 0xFE32), (0xFE50, 0xFE51), (0xFE54, 0xFE55),
   (0xFE58, 0xFE58), (0xFE63, 0xFE63), (0xFF0C, 0xFF0D), (0xFF1A, 0xFF1B), (0xFF64, 0xFF64)]

/-- Ornaments and editorial marks that close a quotation. -/
def closingOrnaments : List (Nat × Nat) :=
  [(0x275B, 0x2760), (0x2E00, 0x2E01), (0x2E06, 0x2E08), (0x2E0B, 0x2E0B), (0x1F676, 0x1F678)]

/-- Line ends other than those of ASCII. -/
def separators : List (Nat × Nat) := [(0x0085, 0x0085), (0x2028, 0x2029)]

namespace CharSet

/-- The zero-width joiner. -/
def joiner : CharSet := single '\u200d'

/-- The zero-width non-joiner and joiner. -/
def joins : CharSet := ofRanges joinControls

/-- Carriage return and line feed. -/
def lineEnds : CharSet := ofRanges [(0x0A, 0x0A), (0x0D, 0x0D)]

/-- The characters of some scripts. -/
def inScripts (codes : List String) : CharSet :=
  unions ((Script.all.filter fun s => codes.contains s.code).map Script.set)

/-! ### Visible units -/

/-- What extends a visible unit, colours of skin included. -/
def unitExtenders : CharSet :=
  ((extenders .sixteen).union (ofRanges emojiModifiers)).diff joiner

/-- Controls, and unassigned code points that show nothing. -/
def unitControls : CharSet :=
  let visible := unions [joins, lineEnds, ofRanges prependedMarks, unitExtenders]
  ((withCategories .sixteen [.zl, .zp, .cc, .cf]).diff visible).union
    ((ofRanges ignorables).diff (assigned .sixteen))

/-- Spacing marks that are part of the unit before them. -/
def spacingMarks : CharSet :=
  let marks := (withCategories .sixteen [.mc]).diff (unitExtenders.union (ofRanges separateMarks))
  marks.union (ofRanges attachedVowels)

/-- The syllable blocks without a trailing consonant. -/
def openSyllables : CharSet :=
  let count := (syllables.2 - syllables.1) / syllablesPerVowel + 1
  ofCodes ((List.range count).map fun i => syllables.1 + syllablesPerVowel * i)

/-- **The characters with a class for the boundaries of visible units.** -/
def unitBreak? : String → Option CharSet
  | "cn" | "control" => some unitControls
  | "cr" => some (single '\r')
  | "ex" | "extend" => some unitExtenders
  | "l" => some (ofRanges leadingJamo)
  | "lf" => some (single '\n')
  | "lv" => some openSyllables
  | "lvt" => some ((ofRanges [syllables]).diff openSyllables)
  | "pp" | "prepend" => some (ofRanges (prependedMarks ++ precedingConsonants))
  | "ri" | "regionalindicator" => some (ofRanges regionLetters)
  | "sm" | "spacingmark" => some spacingMarks
  | "t" => some (ofRanges trailingJamo)
  | "v" => some (ofRanges vowelJamo)
  | "zwj" => some joiner
  | _ => none

/-! ### Words -/

/-- What extends a letter of a word. -/
def wordExtenders : CharSet := (unitExtenders.union (withCategories .sixteen [.mc])).diff joiner

/-- Format characters inside words. -/
def wordFormat : CharSet :=
  let others := unions [single '\u200b', joins, ofRanges prependedMarks, wordExtenders]
  (withCategories .sixteen [.cf]).diff others

/-- The Japanese syllabary that is written in words. -/
def syllabary : CharSet := (inScripts ["Kana"]).union (ofRanges syllabarySigns)

/-- Hebrew letters. -/
def hebrewLetters : CharSet := (inScripts ["Hebr"]).inter (withCategories .sixteen [.lo])

/-- Letters of words. -/
def wordLetters : CharSet :=
  let others := unions [ideographic, syllabary, inScripts unspacedScripts, wordExtenders,
    hebrewLetters]
  ((alphabetic .sixteen).diff others).union (ofRanges wordSigns)

/-- **The characters with a class for the boundaries of words.** -/
def wordBreak? : String → Option CharSet
  | "cr" => some (single '\r')
  | "dq" | "doublequote" => some (single '"')
  | "ex" | "extendnumlet" => some ((withCategories .sixteen [.pc]).union (single '\u202f'))
  | "extend" => some wordExtenders
  | "fo" | "format" => some wordFormat
  | "hl" | "hebrewletter" => some hebrewLetters
  | "ka" | "katakana" => some syllabary
  | "le" | "aletter" => some wordLetters
  | "lf" => some (single '\n')
  | "mb" | "midnumlet" => some (ofRanges betweenBoth)
  | "ml" | "midletter" => some (ofRanges betweenLetters)
  | "mn" | "midnum" => some (ofRanges betweenDigits)
  | "nl" | "newline" => some (ofRanges ((0x0B, 0x0C) :: separators))
  | "nu" | "numeric" => some ((digit .sixteen).union (ofRanges numberSigns))
  | "ri" | "regionalindicator" => some (ofRanges regionLetters)
  | "sq" | "singlequote" => some (single '\'')
  | "wsegspace" => some (ofRanges wordSpaces)
  | "zwj" => some joiner
  | _ => none

/-! ### Sentences -/

/-- What extends a character of a sentence. -/
def sentenceExtenders : CharSet :=
  unions [extenders .sixteen, withCategories .sixteen [.mc], joiner]

/-- Letters of lower case in sentences. -/
def sentenceLower : CharSet :=
  (lowercase .sixteen).diff ((extenders .sixteen).union (ofRanges smallGeorgian))

/-- Letters of upper case in sentences. -/
def sentenceUpper : CharSet :=
  ((uppercase .sixteen).union (withCategories .sixteen [.lt])).diff (ofRanges largeGeorgian)

/-- Letters without case in sentences. -/
def sentenceLetters : CharSet :=
  ((alphabetic .sixteen).diff (unions [sentenceLower, sentenceUpper, sentenceExtenders])).union
    (single '\u05f3')

/-- Brackets and quotation marks. -/
def closers : CharSet :=
  let marks := (ofRanges quotationMarks).diff (ofRanges [(0xFF02, 0xFF02), (0xFF07, 0xFF07)])
  unions [withCategories .sixteen [.ps, .pe, .pi, .pf], marks, ofRanges closingOrnaments]

/-- **The characters with a class for the boundaries of sentences.** -/
def sentenceBreak? : String → Option CharSet
  | "at" | "aterm" => some (ofRanges fullStops)
  | "cl" | "close" => some closers
  | "cr" => some (single '\r')
  | "ex" | "extend" => some sentenceExtenders
  | "fo" | "format" =>
    some ((withCategories .sixteen [.cf]).diff
      (unions [joins, sentenceExtenders, ofRanges numberSigns]))
  | "le" | "oletter" => some sentenceLetters
  | "lf" => some (single '\n')
  | "lo" | "lower" => some sentenceLower
  | "nu" | "numeric" =>
    some ((digit .sixteen).union (ofRanges ((0x066B, 0x066C) :: numberSigns)))
  | "sc" | "scontinue" => some (ofRanges withinSentence)
  | "se" | "sep" => some (ofRanges separators)
  | "sp" => some (space.diff (lineEnds.union (ofRanges separators)))
  | "st" | "sterm" => some (sentenceEnd.diff (ofRanges fullStops))
  | "up" | "upper" => some sentenceUpper
  | _ => none

end CharSet
end InlineMarkup.Unicode
