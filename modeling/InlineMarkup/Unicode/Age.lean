import InlineMarkup.Unicode.Edition

/-!
# Ages

The age of a character is the version of the standard that assigned it. The table of a version
holds what it added, and perhaps code points assigned later: the characters of a version are found
from the newest one backwards, by taking away what was added since.
-/

namespace InlineMarkup.Unicode.Age

/-- What version 16.0 added. -/
def new160 : List (Nat × Nat) :=
  [(0x0897, 0x0897), (0x1B4E, 0x1B4F), (0x1B7F, 0x1B7F), (0x1C89, 0x1C8A), (0x2427, 0x2429),
   (0x31E4, 0x31E5), (0xA7CB, 0xA7CD), (0xA7DA, 0xA7DC), (0x105C0, 0x105F3), (0x10D40, 0x10D8F),
   (0x10EC2, 0x10EFC), (0x11380, 0x113E2), (0x116D0, 0x116E3), (0x11BC0, 0x11BF9),
   (0x11F5A, 0x11F5A), (0x13460, 0x143FA), (0x16100, 0x16139), (0x16D40, 0x16D79),
   (0x18CFF, 0x18CFF), (0x1CC00, 0x1CEB3), (0x1E5D0, 0x1E5FF), (0x1F8B2, 0x1F8C1),
   (0x1FA89, 0x1FA8F), (0x1FABE, 0x1FABE), (0x1FAC6, 0x1FAC6), (0x1FADC, 0x1FADF),
   (0x1FAE9, 0x1FAE9), (0x1FBCB, 0x1FBEF)]

/-- What version 15.1 added. -/
def new151 : List (Nat × Nat) :=
  [(0x2FFC, 0x2FFF), (0x31EF, 0x31EF), (0x2EBF0, 0x2EE5D)]

/-- What version 15.0 added. -/
def new150 : List (Nat × Nat) :=
  [(0x0CF3, 0x0CF3), (0x0ECE, 0x0ECE), (0x10EFD, 0x10EFF), (0x1123F, 0x11241), (0x11B00, 0x11B09),
   (0x11F00, 0x11F59), (0x1342F, 0x1342F), (0x13439, 0x13455), (0x1B132, 0x1B132),
   (0x1B155, 0x1B155), (0x1D2C0, 0x1D2D3), (0x1DF25, 0x1DF2A), (0x1E030, 0x1E08F),
   (0x1E4D0, 0x1E4F9), (0x1F6DC, 0x1F6DC), (0x1F774, 0x1F77F), (0x1F7D9, 0x1F7D9),
   (0x1FA75, 0x1FA77), (0x1FA87, 0x1FA88), (0x1FAAD, 0x1FAAF), (0x1FABB, 0x1FABF),
   (0x1FACE, 0x1FACF), (0x1FADA, 0x1FADB), (0x1FAE8, 0x1FAE8), (0x1FAF7, 0x1FAF8),
   (0x2B739, 0x2B739), (0x31350, 0x323AF)]

/-- What version 14.0 added. -/
def new140 : List (Nat × Nat) :=
  [(0x061D, 0x061D), (0x0870, 0x089F), (0x08B5, 0x08B5), (0x08C8, 0x08D2), (0x0C3C, 0x0C3C),
   (0x0C5D, 0x0C5D), (0x0CDD, 0x0CDD), (0x170D, 0x170D), (0x1715, 0x171F), (0x180F, 0x180F),
   (0x1AC1, 0x1ACE), (0x1B4C, 0x1B4C), (0x1B7D, 0x1B7E), (0x1DFA, 0x1DFA), (0x20C0, 0x20C0),
   (0x2C2F, 0x2C2F), (0x2C5F, 0x2C5F), (0x2E53, 0x2E5D), (0x9FFD, 0x9FFF), (0xA7C0, 0xA7C1),
   (0xA7D0, 0xA7F4), (0xFBC2, 0xFBC2), (0xFD40, 0xFD4F), (0xFDCF, 0xFDCF), (0xFDFE, 0xFDFF),
   (0x10570, 0x105BC), (0x10780, 0x107BA), (0x10F70, 0x10F89), (0x11070, 0x11075),
   (0x110C2, 0x110C2), (0x116B9, 0x116B9), (0x11740, 0x11746), (0x11AB0, 0x11ABF),
   (0x12F90, 0x12FF2), (0x16A70, 0x16AC9), (0x1AFF0, 0x1AFFE), (0x1B11F, 0x1B122),
   (0x1CF00, 0x1CFC3), (0x1D1E9, 0x1D1EA), (0x1DF00, 0x1DF1E), (0x1E290, 0x1E2AE),
   (0x1E7E0, 0x1E7FE), (0x1F6DD, 0x1F6DF), (0x1F7F0, 0x1F7F0), (0x1F979, 0x1F979),
   (0x1F9CC, 0x1F9CC), (0x1FA7B, 0x1FA7C), (0x1FAA9, 0x1FAAC), (0x1FAB7, 0x1FABA),
   (0x1FAC3, 0x1FAC5), (0x1FAD7, 0x1FAF6), (0x2A6DE, 0x2A6DF), (0x2B735, 0x2B738)]

/-- What version 13.0 added. -/
def new130 : List (Nat × Nat) :=
  [(0x08BE, 0x08C7), (0x0B55, 0x0B55), (0x0D04, 0x0D04), (0x0D81, 0x0D81), (0x1ABF, 0x1AC0),
   (0x2B97, 0x2B97), (0x2E50, 0x2E52), (0x31BB, 0x31BF), (0x4DB6, 0x4DBF), (0x9FF0, 0x9FFC),
   (0xA7C7, 0xA7F6), (0xA82C, 0xA82C), (0xAB68, 0xAB6B), (0x1019C, 0x1019C), (0x10E80, 0x10EB1),
   (0x10FB0, 0x10FCB), (0x11147, 0x11147), (0x111CE, 0x111CF), (0x1145A, 0x1145A),
   (0x11460, 0x11461), (0x11900, 0x11959), (0x11FB0, 0x11FB0), (0x16FE4, 0x16FF1),
   (0x18AF3, 0x18D08), (0x1F10D, 0x1F10F), (0x1F16D, 0x1F16F), (0x1F1AD, 0x1F1AD),
   (0x1F6D6, 0x1F6D7), (0x1F6FB, 0x1F6FC), (0x1F8B0, 0x1F8B1), (0x1F90C, 0x1F90C),
   (0x1F972, 0x1F972), (0x1F977, 0x1F978), (0x1F9A3, 0x1F9A4), (0x1F9AB, 0x1F9AD),
   (0x1F9CB, 0x1F9CB), (0x1FA74, 0x1FA74), (0x1FA83, 0x1FA86), (0x1FA96, 0x1FBF9),
   (0x2A6D7, 0x2A6DD), (0x30000, 0x3134A)]

/-- What version 12.1 added. -/
def new121 : List (Nat × Nat) :=
  [(0x32FF, 0x32FF)]

/-- What version 12.0 added. -/
def new120 : List (Nat × Nat) :=
  [(0x0C77, 0x0C77), (0x0E86, 0x0E86), (0x0E89, 0x0E89), (0x0E8C, 0x0E8C), (0x0E8E, 0x0E93),
   (0x0E98, 0x0E98), (0x0EA0, 0x0EA0), (0x0EA8, 0x0EA9), (0x0EAC, 0x0EAC), (0x0EBA, 0x0EBA),
   (0x1CFA, 0x1CFA), (0x2BC9, 0x2BC9), (0x2BFF, 0x2BFF), (0x2E4F, 0x2E4F), (0xA7BA, 0xA7C6),
   (0xAB66, 0xAB67), (0x10FE0, 0x10FF6), (0x1145F, 0x1145F), (0x116B8, 0x116B8), (0x119A0, 0x119E4),
   (0x11A84, 0x11A85), (0x11FC0, 0x11FFF), (0x13430, 0x13438), (0x16F45, 0x16F4F),
   (0x16F7F, 0x16F87), (0x16FE2, 0x16FE3), (0x187F2, 0x187F7), (0x1B150, 0x1B167),
   (0x1E100, 0x1E2FF), (0x1E94B, 0x1E94B), (0x1ED01, 0x1ED3D), (0x1F16C, 0x1F16C),
   (0x1F6D5, 0x1F6D5), (0x1F6FA, 0x1F6FA), (0x1F7E0, 0x1F7EB), (0x1F90D, 0x1F90F),
   (0x1F93F, 0x1F93F), (0x1F971, 0x1F971), (0x1F97B, 0x1F97B), (0x1F9A5, 0x1F9AF),
   (0x1F9BA, 0x1F9BF), (0x1F9C3, 0x1F9CF), (0x1FA00, 0x1FA53), (0x1FA70, 0x1FA95)]

/-- What version 11.0 added. -/
def new110 : List (Nat × Nat) :=
  [(0x0560, 0x0560), (0x0588, 0x0588), (0x05EF, 0x05EF), (0x07FD, 0x07FF), (0x08D3, 0x08D3),
   (0x09FE, 0x09FE), (0x0A76, 0x0A76), (0x0C04, 0x0C04), (0x0C84, 0x0C84), (0x1878, 0x1878),
   (0x1C90, 0x1CBF), (0x2BBA, 0x2BBC), (0x2BD3, 0x2BEB), (0x2BF0, 0x2BFE), (0x2E4A, 0x2E4E),
   (0x312F, 0x312F), (0x9FEB, 0x9FEF), (0xA7AF, 0xA7AF), (0xA7B8, 0xA7B9), (0xA8FE, 0xA8FF),
   (0x10A34, 0x10A35), (0x10A48, 0x10A48), (0x10D00, 0x10D39), (0x10F00, 0x10F59),
   (0x110CD, 0x110CD), (0x11144, 0x11146), (0x1133B, 0x1133B), (0x1145E, 0x1145E),
   (0x1171A, 0x1171A), (0x11800, 0x1183B), (0x11A9D, 0x11A9D), (0x11D60, 0x11EF8),
   (0x16E40, 0x16E9A), (0x187ED, 0x187F1), (0x1D2E0, 0x1D2F3), (0x1D372, 0x1D378),
   (0x1EC71, 0x1ECB4), (0x1F12F, 0x1F12F), (0x1F6F9, 0x1F6F9), (0x1F7D5, 0x1F7D8),
   (0x1F94D, 0x1F94F), (0x1F96C, 0x1F97F), (0x1F998, 0x1F9B9), (0x1F9C1, 0x1F9C2),
   (0x1F9E7, 0x1FA6D)]

/-- What version 10.0 added. -/
def new100 : List (Nat × Nat) :=
  [(0x0860, 0x086A), (0x09FC, 0x09FD), (0x0AFA, 0x0AFF), (0x0D00, 0x0D00), (0x0D3B, 0x0D3C),
   (0x1CF7, 0x1CF7), (0x1DF6, 0x1DF9), (0x20BF, 0x20BF), (0x23FF, 0x23FF), (0x2BD2, 0x2BD2),
   (0x2E45, 0x2E49), (0x312E, 0x312E), (0x9FD6, 0x9FEA), (0x1032D, 0x1032F), (0x11A00, 0x11AA2),
   (0x11D00, 0x11D59), (0x16FE1, 0x16FE1), (0x1B002, 0x1B2FB), (0x1F260, 0x1F265),
   (0x1F6D3, 0x1F6D4), (0x1F6F7, 0x1F6F8), (0x1F900, 0x1F90B), (0x1F91F, 0x1F91F),
   (0x1F928, 0x1F92F), (0x1F931, 0x1F932), (0x1F94C, 0x1F94C), (0x1F95F, 0x1F96B),
   (0x1F992, 0x1F997), (0x1F9D0, 0x1F9E6), (0x2CEB0, 0x2EBE0)]

/-- What version 9.0 added. -/
def new90 : List (Nat × Nat) :=
  [(0x08B6, 0x08E2), (0x0C80, 0x0C80), (0x0D4F, 0x0D56), (0x0D58, 0x0D5E), (0x0D76, 0x0D78),
   (0x1C80, 0x1C88), (0x1DFB, 0x1DFB), (0x23FB, 0x23FE), (0x2E43, 0x2E44), (0xA7AE, 0xA7AE),
   (0xA8C5, 0xA8C5), (0x1018D, 0x1018E), (0x104B0, 0x104FB), (0x1123E, 0x1123E), (0x11400, 0x1145D),
   (0x11660, 0x1166C), (0x11C00, 0x11CB6), (0x16FE0, 0x18AF2), (0x1E000, 0x1E02A),
   (0x1E900, 0x1E95F), (0x1F19B, 0x1F1AC), (0x1F23B, 0x1F23B), (0x1F57A, 0x1F57A),
   (0x1F5A4, 0x1F5A4), (0x1F6D1, 0x1F6D2), (0x1F6F4, 0x1F6F6), (0x1F919, 0x1F95E),
   (0x1F985, 0x1F991)]

/-- What version 8.0 added. -/
def new80 : List (Nat × Nat) :=
  [(0x08B3, 0x08E3), (0x0AF9, 0x0AF9), (0x0C5A, 0x0C5A), (0x0D5F, 0x0D5F), (0x13F5, 0x13FD),
   (0x20BE, 0x20BE), (0x218A, 0x218B), (0x2BEC, 0x2BEF), (0x9FCD, 0x9FD5), (0xA69E, 0xA69E),
   (0xA78F, 0xA78F), (0xA7B2, 0xA7B7), (0xA8FC, 0xA8FD), (0xAB60, 0xAB63), (0xAB70, 0xABBF),
   (0xFE2E, 0xFE2F), (0x108E0, 0x108FF), (0x109BC, 0x109BD), (0x109C0, 0x109FF), (0x10C80, 0x10CFF),
   (0x111C9, 0x111CC), (0x111DB, 0x111DF), (0x11280, 0x112A9), (0x11300, 0x11300),
   (0x11350, 0x11350), (0x115CA, 0x115DD), (0x11700, 0x1173F), (0x12399, 0x12399),
   (0x12480, 0x12543), (0x14400, 0x14646), (0x1D1DE, 0x1D1E8), (0x1D800, 0x1DAAF),
   (0x1F32D, 0x1F32F), (0x1F37E, 0x1F37F), (0x1F3CF, 0x1F3D3), (0x1F3F8, 0x1F3FF),
   (0x1F4FF, 0x1F4FF), (0x1F54B, 0x1F54F), (0x1F643, 0x1F644), (0x1F6D0, 0x1F6D0),
   (0x1F910, 0x1F9C0), (0x2B820, 0x2CEA1)]

/-- What version 7.0 added. -/
def new70 : List (Nat × Nat) :=
  [(0x037F, 0x037F), (0x0528, 0x052F), (0x058D, 0x058E), (0x0605, 0x0605), (0x08A1, 0x08A1),
   (0x08AD, 0x08B2), (0x08FF, 0x08FF), (0x0978, 0x0978), (0x0980, 0x0980), (0x0C00, 0x0C00),
   (0x0C34, 0x0C34), (0x0C81, 0x0C81), (0x0D01, 0x0D01), (0x0DE6, 0x0DEF), (0x16F1, 0x16F8),
   (0x191D, 0x191E), (0x1AB0, 0x1ABE), (0x1CF8, 0x1CF9), (0x1DE7, 0x1DF5), (0x20BB, 0x20BD),
   (0x23F4, 0x23FA), (0x2700, 0x2700), (0x2B4D, 0x2B4F), (0x2B5A, 0x2BD1), (0x2E3C, 0x2E42),
   (0xA698, 0xA69D), (0xA794, 0xA79F), (0xA7AB, 0xA7F7), (0xA9E0, 0xA9FE), (0xAA7C, 0xAA7F),
   (0xAB30, 0xAB65), (0xFE27, 0xFE2D), (0x1018B, 0x1018C), (0x101A0, 0x101A0), (0x102E0, 0x102FB),
   (0x1031F, 0x1031F), (0x10350, 0x1037A), (0x10500, 0x10767), (0x10860, 0x108AF),
   (0x10A80, 0x10AF6), (0x10B80, 0x10BAF), (0x1107F, 0x1107F), (0x11150, 0x11176),
   (0x111CD, 0x111CD), (0x111DA, 0x11659), (0x118A0, 0x11AF8), (0x1236F, 0x12398),
   (0x12463, 0x1246E), (0x12474, 0x12474), (0x16A40, 0x16B8F), (0x1BC00, 0x1BCA3),
   (0x1E800, 0x1E8D6), (0x1F0BF, 0x1F0BF), (0x1F0E0, 0x1F0F5), (0x1F10B, 0x1F10C),
   (0x1F321, 0x1F32C), (0x1F336, 0x1F336), (0x1F37D, 0x1F37D), (0x1F394, 0x1F39F),
   (0x1F3C5, 0x1F3C5), (0x1F3CB, 0x1F3DF), (0x1F3F1, 0x1F3F7), (0x1F43F, 0x1F43F),
   (0x1F441, 0x1F441), (0x1F4F8, 0x1F4F8), (0x1F4FD, 0x1F4FE), (0x1F53E, 0x1F53F),
   (0x1F544, 0x1F54A), (0x1F568, 0x1F5FA), (0x1F641, 0x1F642), (0x1F650, 0x1F67F),
   (0x1F6C6, 0x1F6F3), (0x1F780, 0x1F8AD)]

/-- What version 6.3 added. -/
def new63 : List (Nat × Nat) :=
  [(0x061C, 0x061C), (0x2066, 0x2069)]

/-- What version 6.2 added. -/
def new62 : List (Nat × Nat) :=
  [(0x20BA, 0x20BA)]

/-- What version 6.1 added. -/
def new61 : List (Nat × Nat) :=
  [(0x058F, 0x058F), (0x0604, 0x0604), (0x08A0, 0x08FE), (0x0AF0, 0x0AF0), (0x0EDE, 0x0EDF),
   (0x10C7, 0x10CD), (0x10FD, 0x10FF), (0x1BAB, 0x1BAD), (0x1BBA, 0x1BBF), (0x1CC0, 0x1CC7),
   (0x1CF3, 0x1CF6), (0x27CB, 0x27CB), (0x27CD, 0x27CD), (0x2CF2, 0x2CF3), (0x2D27, 0x2D2D),
   (0x2D66, 0x2D67), (0x2E32, 0x2E3B), (0x9FCC, 0x9FCC), (0xA674, 0xA67B), (0xA69F, 0xA69F),
   (0xA792, 0xA793), (0xA7AA, 0xA7F9), (0xAAE0, 0xAAF6), (0xFA2E, 0xFA2F), (0x10980, 0x109BF),
   (0x110D0, 0x116C9), (0x16F00, 0x16F9F), (0x1EE00, 0x1EEF1), (0x1F16A, 0x1F16B),
   (0x1F540, 0x1F543), (0x1F600, 0x1F600), (0x1F611, 0x1F611), (0x1F615, 0x1F615),
   (0x1F617, 0x1F617), (0x1F619, 0x1F619), (0x1F61B, 0x1F61B), (0x1F61F, 0x1F61F),
   (0x1F626, 0x1F627), (0x1F62C, 0x1F62C), (0x1F62E, 0x1F62F), (0x1F634, 0x1F634)]

/-- What version 6.0 added. -/
def new60 : List (Nat × Nat) :=
  [(0x0526, 0x0527), (0x0620, 0x0620), (0x065F, 0x065F), (0x0840, 0x085E), (0x093A, 0x093B),
   (0x094F, 0x094F), (0x0956, 0x0957), (0x0973, 0x0977), (0x0B72, 0x0B77), (0x0D29, 0x0D29),
   (0x0D3A, 0x0D3A), (0x0D4E, 0x0D4E), (0x0F8C, 0x0F8F), (0x0FD9, 0x0FDA), (0x135D, 0x135E),
   (0x1BC0, 0x1BFF), (0x1DFC, 0x1DFC), (0x2095, 0x209C), (0x20B9, 0x20B9), (0x23E9, 0x23F3),
   (0x26CE, 0x26CE), (0x26E2, 0x26E2), (0x26E4, 0x26E7), (0x2705, 0x2705), (0x270A, 0x270B),
   (0x2728, 0x2728), (0x274C, 0x274C), (0x274E, 0x274E), (0x2753, 0x2755), (0x275F, 0x2760),
   (0x2795, 0x2797), (0x27B0, 0x27B0), (0x27BF, 0x27BF), (0x27CE, 0x27CF), (0x2D70, 0x2D7F),
   (0x31B8, 0x31BA), (0xA660, 0xA661), (0xA78D, 0xA7FA), (0xAB01, 0xAB2E), (0xFBB2, 0xFBC1),
   (0x11000, 0x1106F), (0x16800, 0x1B001), (0x1F0A0, 0x1F0DF), (0x1F130, 0x1F130),
   (0x1F132, 0x1F13C), (0x1F13E, 0x1F13E), (0x1F140, 0x1F141), (0x1F143, 0x1F145),
   (0x1F147, 0x1F149), (0x1F14F, 0x1F156), (0x1F158, 0x1F15E), (0x1F160, 0x1F178),
   (0x1F17A, 0x1F17A), (0x1F17D, 0x1F17E), (0x1F180, 0x1F189), (0x1F18E, 0x1F18F),
   (0x1F191, 0x1F1FF), (0x1F201, 0x1F202), (0x1F232, 0x1F23A), (0x1F250, 0x1F773),
   (0x2B740, 0x2B81D)]

/-- What version 5.2 added. -/
def new52 : List (Nat × Nat) :=
  [(0x0524, 0x0525), (0x0800, 0x0900), (0x094E, 0x094E), (0x0955, 0x0955), (0x0979, 0x097A),
   (0x09FB, 0x09FB), (0x0FD5, 0x0FD8), (0x109A, 0x109D), (0x115A, 0x115E), (0x11A3, 0x11A7),
   (0x11FA, 0x11FF), (0x1400, 0x1400), (0x1677, 0x167F), (0x18B0, 0x18F5), (0x19AA, 0x19AB),
   (0x19DA, 0x19DA), (0x1A20, 0x1AAD), (0x1CD0, 0x1CF2), (0x1DFD, 0x1DFD), (0x20B6, 0x20B8),
   (0x2150, 0x2152), (0x2189, 0x2189), (0x23E8, 0x23E8), (0x269E, 0x269F), (0x26BD, 0x26BF),
   (0x26C4, 0x26FF), (0x2757, 0x2757), (0x2B55, 0x2B59), (0x2C70, 0x2C70), (0x2C7E, 0x2C7F),
   (0x2CEB, 0x2CF1), (0x2E31, 0x2E31), (0x3244, 0x324F), (0x9FC4, 0x9FCB), (0xA4D0, 0xA4FF),
   (0xA6A0, 0xA6F7), (0xA830, 0xA839), (0xA8E0, 0xA8FB), (0xA960, 0xA9DF), (0xAA60, 0xABF9),
   (0xD7B0, 0xD7FB), (0xFA6B, 0xFA6D), (0x10840, 0x1085F), (0x1091A, 0x1091B), (0x10A60, 0x110C1),
   (0x13000, 0x1342E), (0x1F100, 0x1F248), (0x2A700, 0x2B734)]

/-- What version 5.1 added. -/
def new51 : List (Nat × Nat) :=
  [(0x0370, 0x0373), (0x0376, 0x0377), (0x03CF, 0x03CF), (0x0487, 0x0487), (0x0514, 0x0523),
   (0x0606, 0x060A), (0x0616, 0x061A), (0x063B, 0x063F), (0x076E, 0x077F), (0x0971, 0x0972),
   (0x0A51, 0x0A51), (0x0A75, 0x0A75), (0x0B44, 0x0B44), (0x0B62, 0x0B63), (0x0BD0, 0x0BD0),
   (0x0C3D, 0x0C3D), (0x0C58, 0x0C59), (0x0C62, 0x0C63), (0x0C78, 0x0C7F), (0x0D3D, 0x0D3D),
   (0x0D44, 0x0D44), (0x0D62, 0x0D63), (0x0D70, 0x0D7F), (0x0F6B, 0x0F6C), (0x0FCE, 0x0FCE),
   (0x0FD2, 0x0FD4), (0x1022, 0x1022), (0x1028, 0x1028), (0x102B, 0x102B), (0x1033, 0x1035),
   (0x103A, 0x103F), (0x105A, 0x109F), (0x18AA, 0x18AA), (0x1B80, 0x1C7F), (0x1DCB, 0x1DE6),
   (0x1E9C, 0x1E9F), (0x1EFA, 0x1EFF), (0x2064, 0x2064), (0x20F0, 0x20F0), (0x214F, 0x214F),
   (0x2185, 0x2188), (0x269D, 0x269D), (0x26B3, 0x26C3), (0x27CC, 0x27CC), (0x27EC, 0x27EF),
   (0x2B1B, 0x2B1F), (0x2B24, 0x2B54), (0x2C6D, 0x2C73), (0x2C78, 0x2C7D), (0x2DE0, 0x2DFF),
   (0x2E18, 0x2E1B), (0x2E1E, 0x2E30), (0x312D, 0x312D), (0x31D0, 0x31E3), (0x9FBC, 0x9FC3),
   (0xA500, 0xA697), (0xA71B, 0xA71F), (0xA722, 0xA7FF), (0xA880, 0xAA5F), (0xFE24, 0xFE26),
   (0x10190, 0x102D0), (0x10920, 0x1093F), (0x1D129, 0x1D129), (0x1F000, 0x1F093)]

/-- What version 5.0 added. -/
def new50 : List (Nat × Nat) :=
  [(0x0242, 0x024F), (0x037B, 0x037D), (0x04CF, 0x04CF), (0x04FA, 0x04FF), (0x0510, 0x0513),
   (0x05BA, 0x05BA), (0x07C0, 0x07FA), (0x097B, 0x097C), (0x097E, 0x097F), (0x0CE2, 0x0CE3),
   (0x0CF1, 0x0CF2), (0x1B00, 0x1B7C), (0x1DC4, 0x1DFF), (0x20EC, 0x20EF), (0x214D, 0x214E),
   (0x2184, 0x2184), (0x23DC, 0x23E7), (0x26B2, 0x26B2), (0x27C7, 0x27CA), (0x2B14, 0x2B23),
   (0x2C60, 0x2C77), (0xA717, 0xA721), (0xA840, 0xA877), (0x10900, 0x1091F), (0x12000, 0x12473),
   (0x1D360, 0x1D371), (0x1D7CA, 0x1D7CB)]

/-- What version 4.1 added. -/
def new41 : List (Nat × Nat) :=
  [(0x0237, 0x0241), (0x0358, 0x035C), (0x03FC, 0x03FF), (0x04F6, 0x04F7), (0x05A2, 0x05A2),
   (0x05C5, 0x05C7), (0x060B, 0x060B), (0x061E, 0x061E), (0x0659, 0x065E), (0x0750, 0x076D),
   (0x097D, 0x097D), (0x09CE, 0x09CE), (0x0BB6, 0x0BB6), (0x0BE6, 0x0BE6), (0x0FD0, 0x0FD1),
   (0x10F9, 0x10FA), (0x10FC, 0x10FC), (0x1207, 0x1207), (0x1247, 0x1247), (0x1287, 0x1287),
   (0x12AF, 0x12AF), (0x12CF, 0x12CF), (0x12EF, 0x12EF), (0x130F, 0x130F), (0x131F, 0x131F),
   (0x1347, 0x1347), (0x135F, 0x1360), (0x1380, 0x1399), (0x1980, 0x19DF), (0x1A00, 0x1A1F),
   (0x1D6C, 0x1DC3), (0x2055, 0x2056), (0x2058, 0x205E), (0x2090, 0x2094), (0x20B2, 0x20B5),
   (0x20EB, 0x20EB), (0x213C, 0x213C), (0x214C, 0x214C), (0x23D1, 0x23DB), (0x2618, 0x2618),
   (0x267E, 0x267F), (0x2692, 0x269C), (0x26A2, 0x26B1), (0x27C0, 0x27C6), (0x2B0E, 0x2E1D),
   (0x31C0, 0x31CF), (0x327E, 0x327E), (0x9FA6, 0x9FBB), (0xA700, 0xA82B), (0xFA70, 0xFAD9),
   (0xFE10, 0xFE19), (0x10140, 0x1018A), (0x103A0, 0x103D5), (0x10A00, 0x10A58), (0x1D200, 0x1D245),
   (0x1D6A4, 0x1D6A5)]

/-- What version 4.0 added. -/
def new40 : List (Nat × Nat) :=
  [(0x0221, 0x0221), (0x0234, 0x0236), (0x02AE, 0x02AF), (0x02EF, 0x02FF), (0x0350, 0x035F),
   (0x03F7, 0x03FB), (0x0600, 0x0603), (0x060D, 0x0615), (0x0656, 0x0658), (0x06EE, 0x06EF),
   (0x06FF, 0x06FF), (0x072D, 0x072F), (0x074D, 0x074F), (0x0904, 0x0904), (0x09BD, 0x09BD),
   (0x0A01, 0x0A01), (0x0A03, 0x0A03), (0x0A8C, 0x0A8C), (0x0AE1, 0x0AE3), (0x0AF1, 0x0AF1),
   (0x0B35, 0x0B35), (0x0B71, 0x0B71), (0x0BF3, 0x0BFA), (0x0CBC, 0x0CBD), (0x17DD, 0x17DD),
   (0x17F0, 0x17F9), (0x1900, 0x1D6B), (0x2053, 0x2054), (0x213B, 0x213B), (0x23CF, 0x23D0),
   (0x24FF, 0x24FF), (0x2614, 0x2615), (0x268A, 0x26A1), (0x2B00, 0x2B0D), (0x321D, 0x321E),
   (0x3250, 0x3250), (0x327C, 0x327D), (0x32CC, 0x32CF), (0x3377, 0x337A), (0x33DE, 0x33DF),
   (0x33FF, 0x33FF), (0x4DC0, 0x4DFF), (0xFDFD, 0xFDFD), (0xFE47, 0xFE48), (0x10000, 0x1013F),
   (0x10380, 0x1039F), (0x10426, 0x10427), (0x1044E, 0x1083F), (0x1D300, 0x1D356),
   (0x1D4C1, 0x1D4C1), (0xE0100, 0xE01EF)]

/-- What version 3.2 added. -/
def new32 : List (Nat × Nat) :=
  [(0x0220, 0x0220), (0x034F, 0x034F), (0x0363, 0x036F), (0x03D8, 0x03D9), (0x03F6, 0x03F6),
   (0x048A, 0x048B), (0x04C5, 0x04C6), (0x04C9, 0x04CA), (0x04CD, 0x04CE), (0x0500, 0x050F),
   (0x066E, 0x066F), (0x07B1, 0x07B1), (0x10F7, 0x10F8), (0x1700, 0x1773), (0x2047, 0x2047),
   (0x204E, 0x2063), (0x2071, 0x2071), (0x20B0, 0x20B1), (0x20E4, 0x20EA), (0x213D, 0x214B),
   (0x21F4, 0x21FF), (0x22F2, 0x22FF), (0x237C, 0x237C), (0x239B, 0x23CE), (0x24EB, 0x24FE),
   (0x2596, 0x259F), (0x25F8, 0x25FF), (0x2616, 0x2617), (0x2672, 0x2689), (0x2768, 0x2775),
   (0x27D0, 0x27FF), (0x2900, 0x2AFF), (0x303B, 0x303D), (0x3095, 0x3096), (0x309F, 0x30A0),
   (0x30FF, 0x30FF), (0x31F0, 0x31FF), (0x3251, 0x325F), (0x32B1, 0x32BF), (0xA4A2, 0xA4A3),
   (0xA4B4, 0xA4B4), (0xA4C1, 0xA4C1), (0xA4C5, 0xA4C5), (0xFA30, 0xFA6A), (0xFDFC, 0xFE0F),
   (0xFE45, 0xFE46), (0xFE73, 0xFE73), (0xFF5F, 0xFF60)]

/-- What version 3.1 added. -/
def new31 : List (Nat × Nat) :=
  [(0x03F4, 0x03F5), (0xFDD0, 0xFDEF), (0x10300, 0x1D7FF), (0x20000, 0x2FA1D), (0xE0001, 0xE007F)]

/-- What version 3.0 added. -/
def new30 : List (Nat × Nat) :=
  [(0x01F6, 0x01F9), (0x0218, 0x0233), (0x02A9, 0x02AD), (0x02DF, 0x02DF), (0x02EA, 0x02EE),
   (0x0346, 0x034E), (0x0362, 0x0362), (0x03D7, 0x03D7), (0x03DB, 0x03DB), (0x03DD, 0x03DD),
   (0x03DF, 0x03DF), (0x03E1, 0x03E1), (0x0400, 0x0400), (0x040D, 0x040D), (0x0450, 0x0450),
   (0x045D, 0x045D), (0x0488, 0x048F), (0x04EC, 0x04ED), (0x058A, 0x058A), (0x0653, 0x0655),
   (0x06B8, 0x06B9), (0x06BF, 0x06BF), (0x06CF, 0x06CF), (0x06FA, 0x07B0), (0x0D82, 0x0DF4),
   (0x0F6A, 0x0F6A), (0x0F96, 0x0F96), (0x0FAE, 0x0FB0), (0x0FB8, 0x0FB8), (0x0FBA, 0x1059),
   (0x1200, 0x18A9), (0x202F, 0x202F), (0x2048, 0x204D), (0x20AD, 0x20AF), (0x20E2, 0x20E3),
   (0x2139, 0x213A), (0x2183, 0x2183), (0x21EB, 0x21F3), (0x2301, 0x2301), (0x237B, 0x239A),
   (0x2425, 0x2426), (0x25F0, 0x25F7), (0x2619, 0x2619), (0x2670, 0x2671), (0x2800, 0x2FFB),
   (0x3038, 0x303E), (0x31A0, 0x31B7), (0x3400, 0x4DB5), (0xA000, 0xA4C6), (0xFB1D, 0xFB1D),
   (0xFFF9, 0xFFFB)]

/-- What version 2.1 added. -/
def new21 : List (Nat × Nat) :=
  [(0x20AC, 0x20AC), (0xFFFC, 0xFFFC)]

/-- What version 2.0 added. -/
def new20 : List (Nat × Nat) :=
  [(0x0591, 0x05AF), (0x05C4, 0x05C4), (0x0F00, 0x0FB9), (0x1E9B, 0x1E9B), (0x20AB, 0x20AB),
   (0xAC00, 0xD7A3), (0x1FFFE, 0x10FFFF)]

/-- **The versions** after the first one, the newest first, with what they added. -/
def versions : List (String × List (Nat × Nat)) :=
  [("16.0", new160), ("15.1", new151), ("15.0", new150), ("14.0", new140), ("13.0", new130),
   ("12.1", new121), ("12.0", new120), ("11.0", new110), ("10.0", new100), ("9.0", new90),
   ("8.0", new80), ("7.0", new70), ("6.3", new63), ("6.2", new62), ("6.1", new61), ("6.0", new60),
   ("5.2", new52), ("5.1", new51), ("5.0", new50), ("4.1", new41), ("4.0", new40), ("3.2", new32),
   ("3.1", new31), ("3.0", new30), ("2.1", new21), ("2.0", new20)]

/-- The first version. -/
def firstVersion : String := "1.1"

/-- The code points that never stand for a character; they have an age nevertheless. -/
def reserved : List (Nat × Nat) :=
  [(0xFDD0, 0xFDEF), (0xFFFE, 0xFFFF), (0x1FFFE, 0x1FFFF), (0x2FFFE, 0x2FFFF), (0x3FFFE, 0x3FFFF),
   (0x4FFFE, 0x4FFFF), (0x5FFFE, 0x5FFFF), (0x6FFFE, 0x6FFFF), (0x7FFFE, 0x7FFFF),
   (0x8FFFE, 0x8FFFF), (0x9FFFE, 0x9FFFF), (0xAFFFE, 0xAFFFF), (0xBFFFE, 0xBFFFF),
   (0xCFFFE, 0xCFFFF), (0xDFFFE, 0xDFFFF), (0xEFFFE, 0xEFFFF), (0xFFFFE, 0xFFFFF),
   (0x10FFFE, 0x10FFFF)]

/-- All code points with an age. -/
def aged : CharSet := (assigned .sixteen).union (.ofRanges reserved)

/-- What is left of a set after the additions of the given versions, up to the one with the given
name. -/
def takeBack (version : String) (s : CharSet) : List (String × List (Nat × Nat)) → CharSet
  | [] => s
  | (name, added) :: older =>
    if name = version then s else takeBack version (s.diff (.ofRanges added)) older

/-- **The characters that a version had;** absent if there is no such version. -/
def upTo? (version : String) : Option CharSet :=
  if version = firstVersion ∨ versions.any (·.1 = version) then
    some (takeBack version aged versions)
  else none

end InlineMarkup.Unicode.Age
