import InlineMarkup.Unicode.Letters

/-!
# Signs

Properties of punctuation, mathematical signs, and parts of pictures of characters.
-/

namespace InlineMarkup.Unicode

/-- Signs that serve as dashes though they are not punctuation of that kind. -/
def otherDashes : List (Nat × Nat) :=
  [(0x2053, 0x2053), (0x207B, 0x207B), (0x208B, 0x208B), (0x2212, 0x2212)]

/-- Hyphens. -/
def hyphens : List (Nat × Nat) :=
  [(0x002D, 0x002D), (0x00AD, 0x00AD), (0x058A, 0x058A), (0x1806, 0x1806), (0x2010, 0x2011),
   (0x2E17, 0x2E17), (0x30FB, 0x30FB), (0xFE63, 0xFE63), (0xFF0D, 0xFF0D), (0xFF65, 0xFF65)]

/-- Quotation marks. -/
def quotationMarks : List (Nat × Nat) :=
  [(0x0022, 0x0022), (0x0027, 0x0027), (0x00AB, 0x00AB), (0x00BB, 0x00BB), (0x2018, 0x201F),
   (0x2039, 0x203A), (0x2E42, 0x2E42), (0x300C, 0x300F), (0x301D, 0x301F), (0xFE41, 0xFE44),
   (0xFF02, 0xFF02), (0xFF07, 0xFF07), (0xFF62, 0xFF63)]

/-- Ranges that hold the punctuation at the end of sentences, and no other. -/
def sentenceEnds : List (Nat × Nat) :=
  [(0x0021, 0x0021), (0x002E, 0x002E), (0x003F, 0x003F), (0x0589, 0x0589), (0x061D, 0x061F),
   (0x06D4, 0x0702), (0x07F9, 0x07F9), (0x0837, 0x0837), (0x0839, 0x0839), (0x083D, 0x083E),
   (0x0964, 0x0965), (0x104A, 0x104B), (0x1362, 0x1362), (0x1367, 0x166E), (0x1735, 0x17D5),
   (0x1803, 0x1803), (0x1809, 0x1809), (0x1944, 0x1945), (0x1AA8, 0x1AAB), (0x1B4E, 0x1B5B),
   (0x1B5E, 0x1B5F), (0x1B7D, 0x1B7F), (0x1C3B, 0x1C3C), (0x1C7E, 0x1C7F), (0x2024, 0x2024),
   (0x203C, 0x203D), (0x2047, 0x2049), (0x2CF9, 0x2CFB), (0x2E2E, 0x2E2E), (0x2E3C, 0x2E3C),
   (0x2E53, 0x2E54), (0x3002, 0x3002), (0xA4FF, 0xA4FF), (0xA60E, 0xA60F), (0xA6F3, 0xA6F3),
   (0xA6F7, 0xA6F7), (0xA876, 0xA8CF), (0xA92F, 0xA92F), (0xA9C8, 0xA9C9), (0xAA5D, 0xAA5F),
   (0xAAF0, 0xABEB), (0xFE12, 0xFE12), (0xFE15, 0xFE16), (0xFE52, 0xFE52), (0xFE56, 0xFE57),
   (0xFF01, 0xFF01), (0xFF0E, 0xFF0E), (0xFF1F, 0xFF1F), (0xFF61, 0xFF61), (0x10A56, 0x10A57),
   (0x10F55, 0x11048), (0x110BE, 0x110C1), (0x11141, 0x11143), (0x111C5, 0x111C6),
   (0x111CD, 0x111CD), (0x111DE, 0x11239), (0x1123B, 0x1123C), (0x112A9, 0x113D5),
   (0x1144B, 0x1144C), (0x115C2, 0x115C3), (0x115C9, 0x11642), (0x1173C, 0x1173E),
   (0x11944, 0x11944), (0x11946, 0x11946), (0x11A42, 0x11A43), (0x11A9B, 0x11A9C),
   (0x11C41, 0x11C42), (0x11EF7, 0x11F44), (0x16A6E, 0x16B38), (0x16B44, 0x16B44),
   (0x16D6E, 0x16D6F), (0x16E98, 0x16E98), (0x1BC9F, 0x1BC9F), (0x1DA88, 0x1DA88)]

/-- Ranges that hold the punctuation at the end of units of text, and no other. -/
def unitEnds : List (Nat × Nat) :=
  [(0x0021, 0x0021), (0x002C, 0x002E), (0x003A, 0x003F), (0x037E, 0x0387), (0x0589, 0x0589),
   (0x05C3, 0x05C3), (0x060C, 0x060C), (0x061B, 0x061F), (0x06D4, 0x070A), (0x070C, 0x070C),
   (0x07F8, 0x0835), (0x0837, 0x0965), (0x0E5A, 0x0E5B), (0x0F08, 0x0F08), (0x0F0D, 0x0F12),
   (0x104A, 0x104B), (0x1361, 0x17D6), (0x17DA, 0x17DA), (0x1802, 0x1805), (0x1808, 0x1809),
   (0x1944, 0x1945), (0x1AA8, 0x1AAB), (0x1B4E, 0x1B5B), (0x1B5D, 0x1B5F), (0x1B7D, 0x1B7F),
   (0x1C3B, 0x1C7F), (0x2024, 0x2024), (0x203C, 0x203D), (0x2047, 0x2049), (0x2CF9, 0x2CFB),
   (0x2E2E, 0x2E2E), (0x2E3C, 0x2E3C), (0x2E41, 0x2E41), (0x2E4C, 0x2E4C), (0x2E4E, 0x2E4F),
   (0x2E53, 0x3002), (0xA4FE, 0xA60F), (0xA6F3, 0xA6F7), (0xA876, 0xA8CF), (0xA92F, 0xA92F),
   (0xA9C7, 0xA9C9), (0xAA5D, 0xAA5F), (0xAADF, 0xABEB), (0xFE12, 0xFE12), (0xFE15, 0xFE16),
   (0xFE50, 0xFE57), (0xFF01, 0xFF01), (0xFF0C, 0xFF0E), (0xFF1A, 0xFF1F), (0xFF61, 0xFF64),
   (0x1039F, 0x103D0), (0x10857, 0x1091F), (0x10A56, 0x10A57), (0x10AF0, 0x10AF5),
   (0x10B3A, 0x1104D), (0x110BE, 0x110C1), (0x11141, 0x11143), (0x111C5, 0x111C6),
   (0x111CD, 0x111CD), (0x111DE, 0x1123C), (0x112A9, 0x113D5), (0x1144B, 0x1144D),
   (0x1145A, 0x1145B), (0x115C2, 0x115C5), (0x115C9, 0x11642), (0x1173C, 0x1173E),
   (0x11944, 0x11944), (0x11946, 0x11946), (0x11A42, 0x11A43), (0x11A9B, 0x11A9C),
   (0x11AA1, 0x11AA2), (0x11C41, 0x11C43), (0x11C71, 0x11F44), (0x12470, 0x12474),
   (0x16A6E, 0x16B39), (0x16B44, 0x16B44), (0x16D6E, 0x16E98), (0x1BC9F, 0x1DA8A)]

/-- Ranges that hold the characters with a use in mathematics that are not signs of it first of
all, besides such signs. -/
def otherMath : List (Nat × Nat) :=
  [(0x005E, 0x005E), (0x03D0, 0x03D2), (0x03D5, 0x03D5), (0x03F0, 0x03F1), (0x03F4, 0x03F5),
   (0x2016, 0x2016), (0x2032, 0x2034), (0x2040, 0x2040), (0x2061, 0x2064), (0x207D, 0x207E),
   (0x208D, 0x208E), (0x20D0, 0x20DC), (0x20E1, 0x20E1), (0x20E5, 0x20E6), (0x20EB, 0x20EF),
   (0x2102, 0x2102), (0x2107, 0x2107), (0x210A, 0x2113), (0x2115, 0x2115), (0x2119, 0x211D),
   (0x2124, 0x2124), (0x2128, 0x2129), (0x212C, 0x212D), (0x212F, 0x2131), (0x2133, 0x2138),
   (0x213C, 0x2149), (0x2195, 0x21A7), (0x21A9, 0x21AD), (0x21B0, 0x21B1), (0x21B6, 0x21B7),
   (0x21BC, 0x21DB), (0x21DD, 0x21DD), (0x21E4, 0x21E5), (0x2308, 0x230B), (0x23B4, 0x23B5),
   (0x23B7, 0x23B7), (0x23D0, 0x23D0), (0x23E2, 0x23E2), (0x25A0, 0x25A1), (0x25AE, 0x25B6),
   (0x25BC, 0x25C0), (0x25C6, 0x25C7), (0x25CA, 0x25CB), (0x25CF, 0x25D3), (0x25E2, 0x25E2),
   (0x25E4, 0x25E4), (0x25E7, 0x25EC), (0x2605, 0x2606), (0x2640, 0x2640), (0x2642, 0x2642),
   (0x2660, 0x2663), (0x266D, 0x266E), (0x27C5, 0x27EF), (0x2983, 0x29FD), (0xFE61, 0xFE68),
   (0xFF3C, 0xFF3C), (0xFF3E, 0xFF3E), (0x1D400, 0x1D7FF), (0x1EE00, 0x1EEBB)]

/-- Signs that begin the names of mathematical objects. -/
def mathStarts : List (Nat × Nat) :=
  [(0x2202, 0x2202), (0x2207, 0x2207), (0x221E, 0x221E), (0x1D6C1, 0x1D6C1), (0x1D6DB, 0x1D6DB),
   (0x1D6FB, 0x1D6FB), (0x1D715, 0x1D715), (0x1D735, 0x1D735), (0x1D74F, 0x1D74F),
   (0x1D76F, 0x1D76F), (0x1D789, 0x1D789), (0x1D7A9, 0x1D7A9), (0x1D7C3, 0x1D7C3)]

/-- Raised and lowered digits and signs, which go on with such names. -/
def mathParts : List (Nat × Nat) :=
  [(0x00B2, 0x00B3), (0x00B9, 0x00B9), (0x2070, 0x2070), (0x2074, 0x207E), (0x2080, 0x208E)]

/-- Characters that formal notations may use as signs, assigned or not. -/
def patternSigns : List (Nat × Nat) :=
  [(0x0021, 0x002F), (0x003A, 0x0040), (0x005B, 0x005E), (0x0060, 0x0060), (0x007B, 0x007E),
   (0x00A1, 0x00A7), (0x00A9, 0x00A9), (0x00AB, 0x00AC), (0x00AE, 0x00AE), (0x00B0, 0x00B1),
   (0x00B6, 0x00B6), (0x00BB, 0x00BB), (0x00BF, 0x00BF), (0x00D7, 0x00D7), (0x00F7, 0x00F7),
   (0x2010, 0x2027), (0x2030, 0x203E), (0x2041, 0x2053), (0x2055, 0x205E), (0x2190, 0x245F),
   (0x2500, 0x2775), (0x2794, 0x2BFF), (0x2E00, 0x2E7F), (0x3001, 0x3003), (0x3008, 0x3020),
   (0x3030, 0x3030), (0xFD3E, 0xFD3F), (0xFE45, 0xFE46)]

/-- Blanks of formal notations. -/
def patternSpaces : List (Nat × Nat) :=
  [(0x0009, 0x000D), (0x0020, 0x0020), (0x0085, 0x0085), (0x200E, 0x200F), (0x2028, 0x2029)]

/-- Controls of the direction of writing. -/
def directionControls : List (Nat × Nat) :=
  [(0x061C, 0x061C), (0x200E, 0x200F), (0x202A, 0x202E), (0x2066, 0x2069)]

/-- Characters that should not be used any more. -/
def deprecated : List (Nat × Nat) :=
  [(0x0149, 0x0149), (0x0673, 0x0673), (0x0F77, 0x0F77), (0x0F79, 0x0F79), (0x17A3, 0x17A4),
   (0x206A, 0x206F), (0x2329, 0x232A), (0xE0001, 0xE0001)]

/-- Digits to base sixteen. -/
def hexDigits : List (Nat × Nat) :=
  [(0x0030, 0x0039), (0x0041, 0x0046), (0x0061, 0x0066), (0xFF10, 0xFF19), (0xFF21, 0xFF26),
   (0xFF41, 0xFF46)]

/-- Ranges that hold the ideographs and no other letters. -/
def ideographs : List (Nat × Nat) :=
  [(0x3006, 0x303A), (0x3400, 0x9FFF), (0xF900, 0xFAD9), (0x17000, 0x18D08), (0x1B170, 0x1B2FB),
   (0x20000, 0x323AF)]

/-- Ranges that hold the ideographs of the unified repertoire and no other letters. -/
def unifiedIdeographs : List (Nat × Nat) :=
  [(0x3400, 0x9FFF), (0xFA0E, 0xFA0F), (0xFA11, 0xFA11), (0xFA13, 0xFA14), (0xFA1F, 0xFA1F),
   (0xFA21, 0xFA21), (0xFA23, 0xFA24), (0xFA27, 0xFA29), (0x20000, 0x2EE5D), (0x30000, 0x323AF)]

/-- Parts of ideographs. -/
def radicals : List (Nat × Nat) :=
  [(0x2E80, 0x2E99), (0x2E9B, 0x2EF3), (0x2F00, 0x2FD5)]

/-- Signs that describe an ideograph by one part. -/
def unaryDescriptions : List (Nat × Nat) := [(0x2FFE, 0x2FFF)]

/-- Signs that describe an ideograph by two parts. -/
def binaryDescriptions : List (Nat × Nat) :=
  [(0x2FF0, 0x2FF1), (0x2FF4, 0x2FFD), (0x31EF, 0x31EF)]

/-- Signs that describe an ideograph by three parts. -/
def ternaryDescriptions : List (Nat × Nat) :=
  [(0x2FF2, 0x2FF3)]

namespace CharSet

/-- Dashes. -/
def dash : CharSet := (withCategories .sixteen [.pd]).union (ofRanges otherDashes)

/-- Punctuation at the end of sentences. -/
def sentenceEnd : CharSet := within .sixteen [.po] sentenceEnds

/-- Punctuation at the end of units of text. -/
def unitEnd : CharSet := within .sixteen [.po] unitEnds

/-- What has a use in mathematics without being a sign of it first of all. -/
def otherMath : CharSet :=
  ((ofRanges Unicode.otherMath).inter (assigned .sixteen)).diff (withCategories .sixteen [.sm])

/-- **What has a use in mathematics.** -/
def math : CharSet := otherMath.union (withCategories .sixteen [.sm])

/-- Ideographs. -/
def ideographic : CharSet :=
  (within .sixteen [.lo, .nl] ideographs).union (ofRanges [(0x16FE4, 0x16FE4)])

/-- Ideographs of the unified repertoire. -/
def unifiedIdeograph : CharSet := within .sixteen [.lo] unifiedIdeographs

end CharSet
end InlineMarkup.Unicode
