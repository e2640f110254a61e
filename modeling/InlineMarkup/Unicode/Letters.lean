import InlineMarkup.Unicode.Edition

/-!
# Letters

What counts as a letter, and as one of upper or lower case: the letters proper, and signs and marks
that are listed here. The lists hold the later edition; the sets take an edition.
-/

namespace InlineMarkup.Unicode

/-- Raised and lowered letters, letter numbers and circled letters of lower case. -/
def otherLowercase : List (Nat × Nat) :=
  [(0x00AA, 0x00AA), (0x00BA, 0x00BA), (0x02B0, 0x02B8), (0x02C0, 0x02C1), (0x02E0, 0x02E4),
   (0x0345, 0x0345), (0x037A, 0x037A), (0x10FC, 0x10FC), (0x1D2C, 0x1D6A), (0x1D78, 0x1D78),
   (0x1D9B, 0x1DBF), (0x2071, 0x2071), (0x207F, 0x207F), (0x2090, 0x209C), (0x2170, 0x217F),
   (0x24D0, 0x24E9), (0x2C7C, 0x2C7D), (0xA69C, 0xA69D), (0xA770, 0xA770), (0xA7F1, 0xA7F4),
   (0xA7F8, 0xA7F9), (0xAB5C, 0xAB5F), (0xAB69, 0xAB69), (0x10780, 0x10780), (0x10783, 0x10785),
   (0x10787, 0x107B0), (0x107B2, 0x107BA), (0x1E030, 0x1E06D)]

/-- Letter numbers and circled or squared letters of upper case. -/
def otherUppercase : List (Nat × Nat) :=
  [(0x2160, 0x216F), (0x24B6, 0x24CF), (0x1F130, 0x1F149), (0x1F150, 0x1F169), (0x1F170, 0x1F189)]

/-- Ranges that hold the marks that write a sound of their own, and no other marks. -/
def markRanges : List (Nat × Nat) :=
  [(0x0345, 0x0345), (0x0363, 0x036F), (0x05B0, 0x0657), (0x0659, 0x06DC), (0x06E1, 0x06E8),
   (0x06ED, 0x073F), (0x07A6, 0x07B0), (0x0816, 0x0817), (0x081B, 0x082C), (0x0897, 0x0897),
   (0x08D4, 0x08DF), (0x08E3, 0x08E9), (0x08F0, 0x093B), (0x093E, 0x094C), (0x094E, 0x094F),
   (0x0955, 0x0983), (0x09BE, 0x09CC), (0x09D7, 0x09E3), (0x0A01, 0x0A03), (0x0A3E, 0x0A4C),
   (0x0A51, 0x0A83), (0x0ABE, 0x0ACC), (0x0AE2, 0x0AFC), (0x0B01, 0x0B03), (0x0B3E, 0x0B4C),
   (0x0B56, 0x0BCC), (0x0BD7, 0x0C04), (0x0C3E, 0x0C4C), (0x0C55, 0x0C83), (0x0CBE, 0x0CCC),
   (0x0CD5, 0x0D03), (0x0D3E, 0x0D4C), (0x0D57, 0x0D83), (0x0DCF, 0x0E3A), (0x0E4D, 0x0E4D),
   (0x0EB1, 0x0EB9), (0x0EBB, 0x0EBC), (0x0ECD, 0x0ECD), (0x0F71, 0x0F83), (0x0F8D, 0x0FBC),
   (0x102B, 0x1036), (0x1038, 0x1038), (0x103B, 0x109D), (0x1712, 0x1713), (0x1732, 0x1733),
   (0x1752, 0x1773), (0x17B6, 0x17C8), (0x1885, 0x1938), (0x1A17, 0x1A5E), (0x1A61, 0x1A74),
   (0x1ABF, 0x1AC0), (0x1ACC, 0x1ACE), (0x1B00, 0x1B04), (0x1B35, 0x1B43), (0x1B80, 0x1BA9),
   (0x1BAC, 0x1BAD), (0x1BE7, 0x1BF1), (0x1C24, 0x1C36), (0x1DD3, 0x1DF4), (0x2DE0, 0x2DFF),
   (0xA674, 0xA67B), (0xA69E, 0xA69F), (0xA802, 0xA802), (0xA80B, 0xA827), (0xA880, 0xA8C3),
   (0xA8C5, 0xA8C5), (0xA8FF, 0xA92A), (0xA947, 0xA952), (0xA980, 0xA983), (0xA9B4, 0xA9BF),
   (0xA9E5, 0xAABE), (0xAAEB, 0xAAF5), (0xABE3, 0xABEA), (0xFB1E, 0xFB1E), (0x10376, 0x10A0F),
   (0x10D24, 0x10D69), (0x10EAB, 0x10EFC), (0x11000, 0x11045), (0x11073, 0x11074),
   (0x11080, 0x110B8), (0x110C2, 0x11132), (0x11145, 0x11146), (0x11180, 0x111BF),
   (0x111CE, 0x11234), (0x11237, 0x112E8), (0x11300, 0x11303), (0x1133E, 0x1134C),
   (0x11357, 0x11363), (0x113B8, 0x113CD), (0x11435, 0x11441), (0x11443, 0x11445),
   (0x114B0, 0x114C1), (0x115AF, 0x115BE), (0x115DC, 0x1163E), (0x11640, 0x116B5),
   (0x1171D, 0x1172A), (0x1182C, 0x11838), (0x11930, 0x1193C), (0x11940, 0x11942),
   (0x119D1, 0x119DF), (0x119E4, 0x11A0A), (0x11A35, 0x11A3E), (0x11A51, 0x11A97),
   (0x11B60, 0x11C3E), (0x11C92, 0x11D41), (0x11D43, 0x11D43), (0x11D47, 0x11D96),
   (0x11EF3, 0x11F40), (0x1611E, 0x1612E), (0x16F4F, 0x16F92), (0x16FF0, 0x16FF1),
   (0x1BC9E, 0x1BC9E), (0x1E000, 0x1E08F), (0x1E6E3, 0x1E6F5), (0x1E947, 0x1E947)]

/-- Symbols that count as letters: circled and squared Latin letters. -/
def letterLikeSymbols : List (Nat × Nat) :=
  [(0x24B6, 0x24E9), (0x1F130, 0x1F149), (0x1F150, 0x1F169), (0x1F170, 0x1F189)]

/-- Punctuation that may stand inside a word. -/
def wordPunctuation : List (Nat × Nat) :=
  [(0x0027, 0x0027), (0x002E, 0x002E), (0x003A, 0x003A), (0x00B7, 0x00B7), (0x0387, 0x0387),
   (0x055F, 0x055F), (0x05F4, 0x05F4), (0x2018, 0x2019), (0x2024, 0x2024), (0x2027, 0x2027),
   (0xFE13, 0xFE13), (0xFE52, 0xFE52), (0xFE55, 0xFE55), (0xFF07, 0xFF07), (0xFF0E, 0xFF0E),
   (0xFF1A, 0xFF1A)]

/-- Characters that may begin a name though they are no letters. -/
def otherNameStarts : List (Nat × Nat) :=
  [(0x1885, 0x1886), (0x2118, 0x2118), (0x212E, 0x212E), (0x309B, 0x309C)]

/-- Characters that may go on with a name though they are neither letters, marks nor digits. -/
def otherNameParts : List (Nat × Nat) :=
  [(0x00B7, 0x00B7), (0x0387, 0x0387), (0x1369, 0x1371), (0x19DA, 0x19DA), (0x200C, 0x200D),
   (0x30FB, 0x30FB), (0xFF65, 0xFF65)]

/-- Letters whose compatibility forms cannot begin a name. -/
def unstableStarts : List (Nat × Nat) :=
  [(0x037A, 0x037A), (0x0E33, 0x0E33), (0x0EB3, 0x0EB3), (0x309B, 0x309C), (0xFC5E, 0xFC63),
   (0xFDFA, 0xFDFB), (0xFE70, 0xFE70), (0xFE72, 0xFE72), (0xFE74, 0xFE74), (0xFE76, 0xFE76),
   (0xFE78, 0xFE78), (0xFE7A, 0xFE7A), (0xFE7C, 0xFE7C), (0xFE7E, 0xFE7E), (0xFF9E, 0xFF9F)]

/-- Letters whose compatibility forms cannot even go on with a name. -/
def unstableParts : List (Nat × Nat) :=
  [(0x037A, 0x037A), (0x309B, 0x309C), (0xFC5E, 0xFC63), (0xFDFA, 0xFDFB), (0xFE70, 0xFE70),
   (0xFE72, 0xFE72), (0xFE74, 0xFE74), (0xFE76, 0xFE76), (0xFE78, 0xFE78), (0xFE7A, 0xFE7A),
   (0xFE7C, 0xFE7C), (0xFE7E, 0xFE7E)]

/-- The zero-width joiner and non-joiner. -/
def joinControls : List (Nat × Nat) := [(0x200C, 0x200D)]

/-- Characters of white space. -/
def spaces : List (Nat × Nat) :=
  [(0x0009, 0x000D), (0x0020, 0x0020), (0x0085, 0x0085), (0x00A0, 0x00A0), (0x1680, 0x1680),
   (0x2000, 0x200A), (0x2028, 0x2029), (0x202F, 0x202F), (0x205F, 0x205F), (0x3000, 0x3000)]

/-- The categories of letters. -/
def Category.letters : List Category := [.lu, .ll, .lt, .lm, .lo]

/-- The categories of marks. -/
def Category.marks : List Category := [.mn, .mc, .me]

namespace CharSet

/-- The characters of a list that an edition has. -/
def listed (e : Edition) (ranges : List (Nat × Nat)) : CharSet :=
  match e with
  | .seventeen => ofRanges ranges
  | .sixteen => (ofRanges ranges).diff (ofRanges newcomers)

/-- The characters of some categories in ranges that also hold characters of others. -/
def within (e : Edition) (cs : List Category) (ranges : List (Nat × Nat)) : CharSet :=
  (ofRanges ranges).inter (withCategories e cs)

/-- **Lower case.** -/
def lowercase (e : Edition) : CharSet := (withCategories e [.ll]).union (listed e otherLowercase)

/-- **Upper case.** -/
def uppercase (e : Edition) : CharSet := (withCategories e [.lu]).union (listed e otherUppercase)

/-- Characters with a case. -/
def cased (e : Edition) : CharSet :=
  unions [lowercase e, uppercase e, withCategories e [.lt]]

/-- Characters that are passed over in the search for a neighbour with a case. -/
def caseIgnorable (e : Edition) : CharSet :=
  (withCategories e [.mn, .me, .cf, .lm, .sk]).union (ofRanges wordPunctuation)

/-- Marks and symbols that count as letters. -/
def otherAlphabetic (e : Edition) : CharSet :=
  (within e Category.marks markRanges).union (ofRanges letterLikeSymbols)

/-- **Letters in the wide sense:** letters, letter numbers, and marks and symbols like letters. -/
def alphabetic (e : Edition) : CharSet :=
  (withCategories e (.nl :: Category.letters)).union (otherAlphabetic e)

/-- What may begin a name. -/
def nameStart (e : Edition) : CharSet :=
  (withCategories e (.nl :: Category.letters)).union (ofRanges otherNameStarts)
    |>.diff (ofRanges [(0x2E2F, 0x2E2F)])

/-- What may go on with a name. -/
def namePart (e : Edition) : CharSet :=
  unions [nameStart e, withCategories e [.mn, .mc, .nd, .pc], ofRanges otherNameParts]

/-- White space. -/
def space : CharSet := ofRanges spaces

/-- Decimal digits of any script. -/
def digit (e : Edition) : CharSet := withCategories e [.nd]

/-- **Word characters:** letters in the wide sense, marks, digits, connectors and join controls. -/
def word (e : Edition) : CharSet :=
  unions [alphabetic e, withCategories e (.nd :: .pc :: Category.marks), ofRanges joinControls]

end CharSet
end InlineMarkup.Unicode
