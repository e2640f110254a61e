import InlineMarkup.Unicode.Letters

/-!
# Marks

Properties of the marks that are written with other characters, and of signs that act like them.
-/

namespace InlineMarkup.Unicode

/-- Spacing marks and format characters that extend the character before them. -/
def otherExtenders : List (Nat × Nat) :=
  [(0x09BE, 0x09BE), (0x09D7, 0x09D7), (0x0B3E, 0x0B3E), (0x0B57, 0x0B57), (0x0BBE, 0x0BBE),
   (0x0BD7, 0x0BD7), (0x0CC0, 0x0CC0), (0x0CC2, 0x0CC2), (0x0CC7, 0x0CC8), (0x0CCA, 0x0CCB),
   (0x0CD5, 0x0CD6), (0x0D3E, 0x0D3E), (0x0D57, 0x0D57), (0x0DCF, 0x0DCF), (0x0DDF, 0x0DDF),
   (0x1715, 0x1715), (0x1734, 0x1734), (0x1B35, 0x1B35), (0x1B3B, 0x1B3B), (0x1B3D, 0x1B3D),
   (0x1B43, 0x1B44), (0x1BAA, 0x1BAA), (0x1BF2, 0x1BF3), (0x200C, 0x200C), (0x302E, 0x302F),
   (0xA953, 0xA953), (0xA9C0, 0xA9C0), (0xFF9E, 0xFF9F), (0x111C0, 0x111C0), (0x11235, 0x11235),
   (0x1133E, 0x1133E), (0x1134D, 0x1134D), (0x11357, 0x11357), (0x113B8, 0x113B8),
   (0x113C2, 0x113C2), (0x113C5, 0x113C5), (0x113C7, 0x113C9), (0x113CF, 0x113CF),
   (0x114B0, 0x114B0), (0x114BD, 0x114BD), (0x115AF, 0x115AF), (0x116B6, 0x116B6),
   (0x11930, 0x11930), (0x1193D, 0x1193D), (0x11F41, 0x11F41), (0x16FF0, 0x16FF1),
   (0x1D165, 0x1D166), (0x1D16D, 0x1D172), (0xE0020, 0xE007F)]

/-- Ranges that hold the marks that change the sound of a letter, and no other marks. -/
def diacriticMarks : List (Nat × Nat) :=
  [(0x0300, 0x034E), (0x0350, 0x0357), (0x035D, 0x0362), (0x0483, 0x0487), (0x0591, 0x05C7),
   (0x064B, 0x0652), (0x0657, 0x0658), (0x06DF, 0x06E0), (0x06EA, 0x06EC), (0x0730, 0x07F3),
   (0x0818, 0x0819), (0x0898, 0x08D2), (0x08E3, 0x08FE), (0x093C, 0x093C), (0x094D, 0x094D),
   (0x0951, 0x0954), (0x09BC, 0x09BC), (0x09CD, 0x09CD), (0x0A3C, 0x0A3C), (0x0A4D, 0x0A4D),
   (0x0ABC, 0x0ABC), (0x0ACD, 0x0ACD), (0x0AFD, 0x0AFF), (0x0B3C, 0x0B3C), (0x0B4D, 0x0B55),
   (0x0BCD, 0x0BCD), (0x0C3C, 0x0C3C), (0x0C4D, 0x0C4D), (0x0CBC, 0x0CBC), (0x0CCD, 0x0CCD),
   (0x0D3B, 0x0D3C), (0x0D4D, 0x0D4D), (0x0DCA, 0x0DCA), (0x0E3A, 0x0E4C), (0x0E4E, 0x0E4E),
   (0x0EBA, 0x0EBA), (0x0EC8, 0x0ECC), (0x0F18, 0x0F3F), (0x0F82, 0x0F87), (0x0FC6, 0x0FC6),
   (0x1037, 0x1037), (0x1039, 0x103A), (0x1063, 0x1064), (0x1069, 0x106D), (0x1087, 0x109B),
   (0x135D, 0x135F), (0x1714, 0x1715), (0x1734, 0x1734), (0x17C9, 0x17DD), (0x1939, 0x193B),
   (0x1A60, 0x1A60), (0x1A75, 0x1ABE), (0x1AC1, 0x1ACB), (0x1B34, 0x1B34), (0x1B44, 0x1B73),
   (0x1BAA, 0x1BAB), (0x1BE6, 0x1BE6), (0x1BF2, 0x1BF3), (0x1C36, 0x1CF9), (0x1DC4, 0x1DCF),
   (0x1DF5, 0x1DFF), (0x2CEF, 0x2CF1), (0x302A, 0xA66F), (0xA67C, 0xA67D), (0xA6F0, 0xA6F1),
   (0xA806, 0xA806), (0xA82C, 0xA82C), (0xA8C4, 0xA8C4), (0xA8E0, 0xA8F1), (0xA92B, 0xA92D),
   (0xA953, 0xA953), (0xA9B3, 0xA9B3), (0xA9C0, 0xA9E5), (0xAA7B, 0xAA7D), (0xAABF, 0xAAC1),
   (0xAAF6, 0xAAF6), (0xABEC, 0xFB1E), (0xFE20, 0xFE2F), (0x102E0, 0x102E0), (0x10A38, 0x10D6D),
   (0x10EFD, 0x10F85), (0x11046, 0x11070), (0x110B9, 0x110BA), (0x11133, 0x11134),
   (0x11173, 0x11173), (0x111C0, 0x111C0), (0x111CA, 0x111CC), (0x11235, 0x11236),
   (0x112E9, 0x112EA), (0x1133B, 0x1133C), (0x1134D, 0x1134D), (0x11366, 0x11374),
   (0x113CE, 0x113E2), (0x11442, 0x11442), (0x11446, 0x11446), (0x114C2, 0x114C3),
   (0x115BF, 0x115C0), (0x1163F, 0x1163F), (0x116B6, 0x116B7), (0x1172B, 0x1172B),
   (0x11839, 0x1183A), (0x1193D, 0x1193E), (0x11943, 0x11943), (0x119E0, 0x119E0),
   (0x11A34, 0x11A34), (0x11A47, 0x11A47), (0x11A99, 0x11A99), (0x11C3F, 0x11C3F),
   (0x11D42, 0x11D42), (0x11D44, 0x11D45), (0x11D97, 0x11D97), (0x11F41, 0x11F5A),
   (0x13447, 0x13455), (0x1612F, 0x16B36), (0x16F8F, 0x16F92), (0x16FF0, 0x16FF1),
   (0x1CF00, 0x1CF46), (0x1D167, 0x1D1AD), (0x1E130, 0x1E2EF), (0x1E5EE, 0x1E946),
   (0x1E948, 0x1E94A)]

/-- Signs other than marks that change the sound of a letter. -/
def diacriticSigns : List (Nat × Nat) :=
  [(0x005E, 0x005E), (0x0060, 0x0060), (0x00A8, 0x00A8), (0x00AF, 0x00AF), (0x00B4, 0x00B4),
   (0x00B7, 0x00B8), (0x02B0, 0x02FF), (0x0374, 0x0375), (0x037A, 0x037A), (0x0384, 0x0385),
   (0x0559, 0x0559), (0x06E5, 0x06E6), (0x07F4, 0x07F5), (0x08C9, 0x08C9), (0x0971, 0x0971),
   (0x1C78, 0x1C7D), (0x1CD3, 0x1CD3), (0x1D2C, 0x1D6A), (0x1D9B, 0x1DBE), (0x1FBD, 0x1FBD),
   (0x1FBF, 0x1FC1), (0x1FCD, 0x1FCF), (0x1FDD, 0x1FDF), (0x1FED, 0x1FEF), (0x1FFD, 0x1FFE),
   (0x2E2F, 0x2E2F), (0x309B, 0x309C), (0x30FC, 0x30FC), (0xA67F, 0xA67F), (0xA69C, 0xA69D),
   (0xA700, 0xA721), (0xA788, 0xA78A), (0xA7F8, 0xA7F9), (0xA92E, 0xA92E), (0xAAC0, 0xAAC0),
   (0xAAC2, 0xAAC2), (0xAB5B, 0xAB5F), (0xAB69, 0xAB6B), (0xFF3E, 0xFF3E), (0xFF40, 0xFF40),
   (0xFF70, 0xFF70), (0xFF9E, 0xFF9F), (0xFFE3, 0xFFE3), (0x10780, 0x10785), (0x10787, 0x107B0),
   (0x107B2, 0x107BA), (0x10D22, 0x10D23), (0x10D4E, 0x10D4E), (0x113D3, 0x113D3),
   (0x16D6B, 0x16D6C), (0x16F93, 0x16F9F), (0x1AFF0, 0x1AFF3), (0x1AFF5, 0x1AFFB),
   (0x1AFFD, 0x1AFFE), (0x1E030, 0x1E06D)]

/-- Signs that make the character before them longer, or repeat it. -/
def lengthSigns : List (Nat × Nat) :=
  [(0x00B7, 0x00B7), (0x02D0, 0x02D1), (0x0640, 0x0640), (0x07FA, 0x07FA), (0x0A71, 0x0A71),
   (0x0AFB, 0x0AFB), (0x0B55, 0x0B55), (0x0E46, 0x0E46), (0x0EC6, 0x0EC6), (0x180A, 0x180A),
   (0x1843, 0x1843), (0x1AA7, 0x1AA7), (0x1C36, 0x1C36), (0x1C7B, 0x1C7B), (0x3005, 0x3005),
   (0x3031, 0x3035), (0x309D, 0x309E), (0x30FC, 0x30FE), (0xA015, 0xA015), (0xA60C, 0xA60C),
   (0xA9CF, 0xA9CF), (0xA9E6, 0xA9E6), (0xAA70, 0xAA70), (0xAADD, 0xAADD), (0xAAF3, 0xAAF4),
   (0xFF70, 0xFF70), (0x10781, 0x10782), (0x10D4E, 0x10D4E), (0x10D6A, 0x10D6A), (0x10D6F, 0x10D6F),
   (0x11237, 0x11237), (0x1135D, 0x1135D), (0x113D2, 0x113D3), (0x115C6, 0x115C8),
   (0x11A98, 0x11A98), (0x16B42, 0x16B43), (0x16FE0, 0x16FE1), (0x16FE3, 0x16FE3),
   (0x1E13C, 0x1E13D), (0x1E5EF, 0x1E5EF), (0x1E944, 0x1E946)]

/-- Marks that join two letters and take away the vowel between them. -/
def linkMarks : List (Nat × Nat) :=
  [(0x094D, 0x094D), (0x09CD, 0x09CD), (0x0A4D, 0x0A4D), (0x0ACD, 0x0ACD), (0x0B4D, 0x0B4D),
   (0x0BCD, 0x0BCD), (0x0C4D, 0x0C4D), (0x0CCD, 0x0CCD), (0x0D3B, 0x0D3C), (0x0D4D, 0x0D4D),
   (0x0DCA, 0x0DCA), (0x0E3A, 0x0E3A), (0x0EBA, 0x0EBA), (0x0F84, 0x0F84), (0x1039, 0x103A),
   (0x1714, 0x1715), (0x1734, 0x1734), (0x17D2, 0x17D2), (0x1A60, 0x1A60), (0x1B44, 0x1B44),
   (0x1BAA, 0x1BAB), (0x1BF2, 0x1BF3), (0x2D7F, 0x2D7F), (0xA806, 0xA806), (0xA82C, 0xA82C),
   (0xA8C4, 0xA8C4), (0xA953, 0xA953), (0xA9C0, 0xA9C0), (0xAAF6, 0xAAF6), (0xABED, 0xABED),
   (0x10A3F, 0x10A3F), (0x11046, 0x11046), (0x11070, 0x11070), (0x1107F, 0x1107F),
   (0x110B9, 0x110B9), (0x11133, 0x11134), (0x111C0, 0x111C0), (0x11235, 0x11235),
   (0x112EA, 0x112EA), (0x1134D, 0x1134D), (0x113CE, 0x113D0), (0x11442, 0x11442),
   (0x114C2, 0x114C2), (0x115BF, 0x115BF), (0x1163F, 0x1163F), (0x116B6, 0x116B6),
   (0x1172B, 0x1172B), (0x11839, 0x11839), (0x1193D, 0x1193E), (0x119E0, 0x119E0),
   (0x11A34, 0x11A34), (0x11A47, 0x11A47), (0x11A99, 0x11A99), (0x11C3F, 0x11C3F),
   (0x11D44, 0x11D45), (0x11D97, 0x11D97), (0x11F41, 0x11F42), (0x1612F, 0x1612F)]

/-- Format characters that stand before the digits that they belong to. -/
def prependedMarks : List (Nat × Nat) :=
  [(0x0600, 0x0605), (0x06DD, 0x06DD), (0x070F, 0x070F), (0x0890, 0x0891), (0x08E2, 0x08E2),
   (0x110BD, 0x110BD), (0x110CD, 0x110CD)]

/-- Marks that belong to a consonant more closely than vowel marks do. -/
def modifierMarks : List (Nat × Nat) :=
  [(0x0654, 0x0655), (0x0658, 0x0658), (0x06DC, 0x06DC), (0x06E3, 0x06E3), (0x06E7, 0x06E8),
   (0x08CA, 0x08CB), (0x08CD, 0x08CF), (0x08D3, 0x08D3), (0x08F3, 0x08F3)]

/-- Letters whose dot gives way to a mark above. -/
def softDotted : List (Nat × Nat) :=
  [(0x0069, 0x006A), (0x012F, 0x012F), (0x0249, 0x0249), (0x0268, 0x0268), (0x029D, 0x029D),
   (0x02B2, 0x02B2), (0x03F3, 0x03F3), (0x0456, 0x0456), (0x0458, 0x0458), (0x1D62, 0x1D62),
   (0x1D96, 0x1D96), (0x1DA4, 0x1DA4), (0x1DA8, 0x1DA8), (0x1E2D, 0x1E2D), (0x1ECB, 0x1ECB),
   (0x2071, 0x2071), (0x2148, 0x2149), (0x2C7C, 0x2C7C), (0x1D422, 0x1D423), (0x1D456, 0x1D457),
   (0x1D48A, 0x1D48B), (0x1D4BE, 0x1D4BF), (0x1D4F2, 0x1D4F3), (0x1D526, 0x1D527),
   (0x1D55A, 0x1D55B), (0x1D58E, 0x1D58F), (0x1D5C2, 0x1D5C3), (0x1D5F6, 0x1D5F7),
   (0x1D62A, 0x1D62B), (0x1D65E, 0x1D65F), (0x1D692, 0x1D693), (0x1DF1A, 0x1DF1A),
   (0x1E04C, 0x1E04D), (0x1E068, 0x1E068)]

/-- Vowels that are written before the consonant that they follow. -/
def reorderedVowels : List (Nat × Nat) :=
  [(0x0E40, 0x0E44), (0x0EC0, 0x0EC4), (0x19B5, 0x19B7), (0x19BA, 0x19BA), (0xAAB5, 0xAAB6),
   (0xAAB9, 0xAAB9), (0xAABB, 0xAABC)]

/-- Characters that choose a variant of the one before them. -/
def variationSelectors : List (Nat × Nat) :=
  [(0x180B, 0x180D), (0x180F, 0x180F), (0xFE00, 0xFE0F), (0xE0100, 0xE01EF)]

/-- Code points that show nothing where they are not known, although they are neither controls nor
variants. -/
def otherIgnorables : List (Nat × Nat) :=
  [(0x034F, 0x034F), (0x115F, 0x1160), (0x17B4, 0x17B5), (0x2065, 0x2065), (0x3164, 0x3164),
   (0xFFA0, 0xFFA0), (0xFFF0, 0xFFF8), (0xE0000, 0xE0000), (0xE0002, 0xE001F),
   (0xE0080, 0xE00FF), (0xE01F0, 0xE0FFF)]

/-- Code points that show nothing where they are not known. -/
def ignorables : List (Nat × Nat) :=
  [(0x00AD, 0x00AD), (0x034F, 0x034F), (0x061C, 0x061C), (0x115F, 0x1160), (0x17B4, 0x17B5),
   (0x180B, 0x180F), (0x200B, 0x200F), (0x202A, 0x202E), (0x2060, 0x206F), (0x3164, 0x3164),
   (0xFE00, 0xFE0F), (0xFEFF, 0xFEFF), (0xFFA0, 0xFFA0), (0xFFF0, 0xFFF8), (0x1BCA0, 0x1BCA3),
   (0x1D173, 0x1D17A), (0xE0000, 0xE0FFF)]

namespace CharSet

/-- **What extends the character before it** to one visible unit. -/
def extenders (e : Edition) : CharSet :=
  (withCategories e [.mn, .me]).union (ofRanges otherExtenders)

/-- Marks and signs that change the sound of a letter. -/
def diacritic : CharSet :=
  (within .sixteen Category.marks diacriticMarks).union (ofRanges diacriticSigns)

/-- **What begins a visible unit.** -/
def graphemeBase : CharSet :=
  (assigned .sixteen).diff
    ((withCategories .sixteen [.cc, .cf, .cs, .co, .zl, .zp]).union (extenders .sixteen))

end CharSet
end InlineMarkup.Unicode
