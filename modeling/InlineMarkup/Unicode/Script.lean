import InlineMarkup.Unicode.Edition

/-!
# Scripts

The script of a character is the writing system that it belongs to. Signs of many systems are
common to all, and marks inherit the script of the character before them. The ranges of a script
also cover code points inside it that are not assigned; `Script.set` leaves these out.
-/

namespace InlineMarkup.Unicode

/-- **A script:** its name, its code of four letters, and ranges that hold its characters and no
others. -/
structure Script where
  name : String
  code : String
  ranges : List (Nat × Nat)

namespace Script

/-- Scripts from Adlam to Manichaean. -/
def firstHalf : List Script := [
  ⟨"Adlam", "Adlm", [(0x1E900, 0x1E95F)]⟩,
  ⟨"Ahom", "Ahom", [(0x11700, 0x11746)]⟩,
  ⟨"Anatolian_Hieroglyphs", "Hluw", [(0x14400, 0x14646)]⟩,
  ⟨"Arabic", "Arab",
    [(0x0600, 0x0604), (0x0606, 0x060B), (0x060D, 0x061A), (0x061C, 0x061E), (0x0620, 0x063F),
     (0x0641, 0x064A), (0x0656, 0x066F), (0x0671, 0x06DC), (0x06DE, 0x06FF), (0x0750, 0x077F),
     (0x0870, 0x08E1), (0x08E3, 0x08FF), (0xFB50, 0xFD3D), (0xFD40, 0xFDFF), (0xFE70, 0xFEFC),
     (0x10E60, 0x10E7E), (0x10EC2, 0x10EFF), (0x1EE00, 0x1EEF1)]⟩,
  ⟨"Armenian", "Armn", [(0x0531, 0x058F), (0xFB13, 0xFB17)]⟩,
  ⟨"Avestan", "Avst", [(0x10B00, 0x10B3F)]⟩,
  ⟨"Balinese", "Bali", [(0x1B00, 0x1B7F)]⟩,
  ⟨"Bamum", "Bamu", [(0xA6A0, 0xA6F7), (0x16800, 0x16A38)]⟩,
  ⟨"Bassa_Vah", "Bass", [(0x16AD0, 0x16AF5)]⟩,
  ⟨"Batak", "Batk", [(0x1BC0, 0x1BFF)]⟩,
  ⟨"Bengali", "Beng", [(0x0980, 0x09FE)]⟩,
  ⟨"Bhaiksuki", "Bhks", [(0x11C00, 0x11C6C)]⟩,
  ⟨"Bopomofo", "Bopo", [(0x02EA, 0x02EB), (0x3105, 0x312F), (0x31A0, 0x31BF)]⟩,
  ⟨"Brahmi", "Brah", [(0x11000, 0x1107F)]⟩,
  ⟨"Braille", "Brai", [(0x2800, 0x28FF)]⟩,
  ⟨"Buginese", "Bugi", [(0x1A00, 0x1A1F)]⟩,
  ⟨"Buhid", "Buhd", [(0x1740, 0x1753)]⟩,
  ⟨"Canadian_Aboriginal", "Cans", [(0x1400, 0x167F), (0x18B0, 0x18F5), (0x11AB0, 0x11ABF)]⟩,
  ⟨"Carian", "Cari", [(0x102A0, 0x102D0)]⟩,
  ⟨"Caucasian_Albanian", "Aghb", [(0x10530, 0x1056F)]⟩,
  ⟨"Chakma", "Cakm", [(0x11100, 0x11147)]⟩,
  ⟨"Cham", "Cham", [(0xAA00, 0xAA5F)]⟩,
  ⟨"Cherokee", "Cher", [(0x13A0, 0x13FD), (0xAB70, 0xABBF)]⟩,
  ⟨"Chorasmian", "Chrs", [(0x10FB0, 0x10FCB)]⟩,
  ⟨"Coptic", "Copt", [(0x03E2, 0x03EF), (0x2C80, 0x2CFF)]⟩,
  ⟨"Cuneiform", "Xsux", [(0x12000, 0x12543)]⟩,
  ⟨"Cypriot", "Cprt", [(0x10800, 0x1083F)]⟩,
  ⟨"Cypro_Minoan", "Cpmn", [(0x12F90, 0x12FF2)]⟩,
  ⟨"Cyrillic", "Cyrl",
    [(0x0400, 0x0484), (0x0487, 0x052F), (0x1C80, 0x1C8A), (0x1D2B, 0x1D2B), (0x1D78, 0x1D78),
     (0x2DE0, 0x2DFF), (0xA640, 0xA69F), (0xFE2E, 0xFE2F), (0x1E030, 0x1E08F)]⟩,
  ⟨"Deseret", "Dsrt", [(0x10400, 0x1044F)]⟩,
  ⟨"Devanagari", "Deva",
    [(0x0900, 0x0950), (0x0955, 0x0963), (0x0966, 0x097F), (0xA8E0, 0xA8FF), (0x11B00, 0x11B09)]⟩,
  ⟨"Dives_Akuru", "Diak", [(0x11900, 0x11959)]⟩,
  ⟨"Dogra", "Dogr", [(0x11800, 0x1183B)]⟩,
  ⟨"Duployan", "Dupl", [(0x1BC00, 0x1BC9F)]⟩,
  ⟨"Egyptian_Hieroglyphs", "Egyp", [(0x13000, 0x143FA)]⟩,
  ⟨"Elbasan", "Elba", [(0x10500, 0x10527)]⟩,
  ⟨"Elymaic", "Elym", [(0x10FE0, 0x10FF6)]⟩,
  ⟨"Ethiopic", "Ethi", [(0x1200, 0x1399), (0x2D80, 0x2DDE), (0xAB01, 0xAB2E), (0x1E7E0, 0x1E7FE)]⟩,
  ⟨"Garay", "Gara", [(0x10D40, 0x10D8F)]⟩,
  ⟨"Georgian", "Geor", [(0x10A0, 0x10FA), (0x10FC, 0x10FF), (0x1C90, 0x1CBF), (0x2D00, 0x2D2D)]⟩,
  ⟨"Glagolitic", "Glag", [(0x2C00, 0x2C5F), (0x1E000, 0x1E02A)]⟩,
  ⟨"Gothic", "Goth", [(0x10330, 0x1034A)]⟩,
  ⟨"Grantha", "Gran", [(0x11300, 0x11339), (0x1133C, 0x11374)]⟩,
  ⟨"Greek", "Grek",
    [(0x0370, 0x0373), (0x0375, 0x037D), (0x037F, 0x0384), (0x0386, 0x0386), (0x0388, 0x03E1),
     (0x03F0, 0x03FF), (0x1D26, 0x1D2A), (0x1D5D, 0x1D61), (0x1D66, 0x1D6A), (0x1DBF, 0x1DBF),
     (0x1F00, 0x1FFE), (0x2126, 0x2126), (0xAB65, 0xAB65), (0x10140, 0x1018E), (0x101A0, 0x101A0),
     (0x1D200, 0x1D245)]⟩,
  ⟨"Gujarati", "Gujr", [(0x0A81, 0x0AFF)]⟩,
  ⟨"Gunjala_Gondi", "Gong", [(0x11D60, 0x11DA9)]⟩,
  ⟨"Gurmukhi", "Guru", [(0x0A01, 0x0A76)]⟩,
  ⟨"Gurung_Khema", "Gukh", [(0x16100, 0x16139)]⟩,
  ⟨"Han", "Hani",
    [(0x2E80, 0x2FD5), (0x3005, 0x3005), (0x3007, 0x3007), (0x3021, 0x3029), (0x3038, 0x303B),
     (0x3400, 0x4DBF), (0x4E00, 0x9FFF), (0xF900, 0xFAD9), (0x16FE2, 0x16FE3), (0x16FF0, 0x16FF1),
     (0x20000, 0x323AF)]⟩,
  ⟨"Hangul", "Hang",
    [(0x1100, 0x11FF), (0x302E, 0x302F), (0x3131, 0x318E), (0x3200, 0x321E), (0x3260, 0x327E),
     (0xA960, 0xA97C), (0xAC00, 0xD7FB), (0xFFA0, 0xFFDC)]⟩,
  ⟨"Hanifi_Rohingya", "Rohg", [(0x10D00, 0x10D39)]⟩,
  ⟨"Hanunoo", "Hano", [(0x1720, 0x1734)]⟩,
  ⟨"Hatran", "Hatr", [(0x108E0, 0x108FF)]⟩,
  ⟨"Hebrew", "Hebr", [(0x0591, 0x05F4), (0xFB1D, 0xFB4F)]⟩,
  ⟨"Hiragana", "Hira",
    [(0x3041, 0x3096), (0x309D, 0x309F), (0x1B001, 0x1B11F), (0x1B132, 0x1B152),
     (0x1F200, 0x1F200)]⟩,
  ⟨"Imperial_Aramaic", "Armi", [(0x10840, 0x1085F)]⟩,
  ⟨"Inscriptional_Pahlavi", "Phli", [(0x10B60, 0x10B7F)]⟩,
  ⟨"Inscriptional_Parthian", "Prti", [(0x10B40, 0x10B5F)]⟩,
  ⟨"Javanese", "Java", [(0xA980, 0xA9CD), (0xA9D0, 0xA9DF)]⟩,
  ⟨"Kaithi", "Kthi", [(0x11080, 0x110CD)]⟩,
  ⟨"Kannada", "Knda", [(0x0C80, 0x0CF3)]⟩,
  ⟨"Katakana", "Kana",
    [(0x30A1, 0x30FA), (0x30FD, 0x30FF), (0x31F0, 0x31FF), (0x32D0, 0x32FE), (0x3300, 0x3357),
     (0xFF66, 0xFF6F), (0xFF71, 0xFF9D), (0x1AFF0, 0x1B000), (0x1B120, 0x1B122),
     (0x1B155, 0x1B167)]⟩,
  ⟨"Kawi", "Kawi", [(0x11F00, 0x11F5A)]⟩,
  ⟨"Kayah_Li", "Kali", [(0xA900, 0xA92D), (0xA92F, 0xA92F)]⟩,
  ⟨"Kharoshthi", "Khar", [(0x10A00, 0x10A58)]⟩,
  ⟨"Khitan_Small_Script", "Kits", [(0x16FE4, 0x16FE4), (0x18B00, 0x18CFF)]⟩,
  ⟨"Khmer", "Khmr", [(0x1780, 0x17F9), (0x19E0, 0x19FF)]⟩,
  ⟨"Khojki", "Khoj", [(0x11200, 0x11241)]⟩,
  ⟨"Khudawadi", "Sind", [(0x112B0, 0x112F9)]⟩,
  ⟨"Kirat_Rai", "Krai", [(0x16D40, 0x16D79)]⟩,
  ⟨"Lao", "Laoo", [(0x0E81, 0x0EDF)]⟩,
  ⟨"Latin", "Latn",
    [(0x0041, 0x005A), (0x0061, 0x007A), (0x00AA, 0x00AA), (0x00BA, 0x00BA), (0x00C0, 0x00D6),
     (0x00D8, 0x00F6), (0x00F8, 0x02B8), (0x02E0, 0x02E4), (0x1D00, 0x1D25), (0x1D2C, 0x1D5C),
     (0x1D62, 0x1D65), (0x1D6B, 0x1D77), (0x1D79, 0x1DBE), (0x1E00, 0x1EFF), (0x2071, 0x2071),
     (0x207F, 0x207F), (0x2090, 0x209C), (0x212A, 0x212B), (0x2132, 0x2132), (0x214E, 0x214E),
     (0x2160, 0x2188), (0x2C60, 0x2C7F), (0xA722, 0xA787), (0xA78B, 0xA7FF), (0xAB30, 0xAB5A),
     (0xAB5C, 0xAB64), (0xAB66, 0xAB69), (0xFB00, 0xFB06), (0xFF21, 0xFF3A), (0xFF41, 0xFF5A),
     (0x10780, 0x107BA), (0x1DF00, 0x1DF2A)]⟩,
  ⟨"Lepcha", "Lepc", [(0x1C00, 0x1C4F)]⟩,
  ⟨"Limbu", "Limb", [(0x1900, 0x194F)]⟩,
  ⟨"Linear_A", "Lina", [(0x10600, 0x10767)]⟩,
  ⟨"Linear_B", "Linb", [(0x10000, 0x100FA)]⟩,
  ⟨"Lisu", "Lisu", [(0xA4D0, 0xA4FF), (0x11FB0, 0x11FB0)]⟩,
  ⟨"Lycian", "Lyci", [(0x10280, 0x1029C)]⟩,
  ⟨"Lydian", "Lydi", [(0x10920, 0x1093F)]⟩,
  ⟨"Mahajani", "Mahj", [(0x11150, 0x11176)]⟩,
  ⟨"Makasar", "Maka", [(0x11EE0, 0x11EF8)]⟩,
  ⟨"Malayalam", "Mlym", [(0x0D00, 0x0D7F)]⟩,
  ⟨"Mandaic", "Mand", [(0x0840, 0x085E)]⟩,
  ⟨"Manichaean", "Mani", [(0x10AC0, 0x10AF6)]⟩]

/-- Scripts from Marchen to Zanabazar Square. -/
def secondHalf : List Script := [
  ⟨"Marchen", "Marc", [(0x11C70, 0x11CB6)]⟩,
  ⟨"Masaram_Gondi", "Gonm", [(0x11D00, 0x11D59)]⟩,
  ⟨"Medefaidrin", "Medf", [(0x16E40, 0x16E9A)]⟩,
  ⟨"Meetei_Mayek", "Mtei", [(0xAAE0, 0xAAF6), (0xABC0, 0xABF9)]⟩,
  ⟨"Mende_Kikakui", "Mend", [(0x1E800, 0x1E8D6)]⟩,
  ⟨"Meroitic_Cursive", "Merc", [(0x109A0, 0x109FF)]⟩,
  ⟨"Meroitic_Hieroglyphs", "Mero", [(0x10980, 0x1099F)]⟩,
  ⟨"Miao", "Plrd", [(0x16F00, 0x16F9F)]⟩,
  ⟨"Modi", "Modi", [(0x11600, 0x11659)]⟩,
  ⟨"Mongolian", "Mong", [(0x1800, 0x1801), (0x1804, 0x1804), (0x1806, 0x18AA), (0x11660, 0x1166C)]⟩,
  ⟨"Mro", "Mroo", [(0x16A40, 0x16A6F)]⟩,
  ⟨"Multani", "Mult", [(0x11280, 0x112A9)]⟩,
  ⟨"Myanmar", "Mymr", [(0x1000, 0x109F), (0xA9E0, 0xA9FE), (0xAA60, 0xAA7F), (0x116D0, 0x116E3)]⟩,
  ⟨"Nabataean", "Nbat", [(0x10880, 0x108AF)]⟩,
  ⟨"Nag_Mundari", "Nagm", [(0x1E4D0, 0x1E4F9)]⟩,
  ⟨"Nandinagari", "Nand", [(0x119A0, 0x119E4)]⟩,
  ⟨"New_Tai_Lue", "Talu", [(0x1980, 0x19DF)]⟩,
  ⟨"Newa", "Newa", [(0x11400, 0x11461)]⟩,
  ⟨"Nko", "Nkoo", [(0x07C0, 0x07FF)]⟩,
  ⟨"Nushu", "Nshu", [(0x16FE1, 0x16FE1), (0x1B170, 0x1B2FB)]⟩,
  ⟨"Nyiakeng_Puachue_Hmong", "Hmnp", [(0x1E100, 0x1E14F)]⟩,
  ⟨"Ogham", "Ogam", [(0x1680, 0x169C)]⟩,
  ⟨"Ol_Chiki", "Olck", [(0x1C50, 0x1C7F)]⟩,
  ⟨"Ol_Onal", "Onao", [(0x1E5D0, 0x1E5FF)]⟩,
  ⟨"Old_Hungarian", "Hung", [(0x10C80, 0x10CFF)]⟩,
  ⟨"Old_Italic", "Ital", [(0x10300, 0x1032F)]⟩,
  ⟨"Old_North_Arabian", "Narb", [(0x10A80, 0x10A9F)]⟩,
  ⟨"Old_Permic", "Perm", [(0x10350, 0x1037A)]⟩,
  ⟨"Old_Persian", "Xpeo", [(0x103A0, 0x103D5)]⟩,
  ⟨"Old_Sogdian", "Sogo", [(0x10F00, 0x10F27)]⟩,
  ⟨"Old_South_Arabian", "Sarb", [(0x10A60, 0x10A7F)]⟩,
  ⟨"Old_Turkic", "Orkh", [(0x10C00, 0x10C48)]⟩,
  ⟨"Old_Uyghur", "Ougr", [(0x10F70, 0x10F89)]⟩,
  ⟨"Oriya", "Orya", [(0x0B01, 0x0B77)]⟩,
  ⟨"Osage", "Osge", [(0x104B0, 0x104FB)]⟩,
  ⟨"Osmanya", "Osma", [(0x10480, 0x104A9)]⟩,
  ⟨"Pahawh_Hmong", "Hmng", [(0x16B00, 0x16B8F)]⟩,
  ⟨"Palmyrene", "Palm", [(0x10860, 0x1087F)]⟩,
  ⟨"Pau_Cin_Hau", "Pauc", [(0x11AC0, 0x11AF8)]⟩,
  ⟨"Phags_Pa", "Phag", [(0xA840, 0xA877)]⟩,
  ⟨"Phoenician", "Phnx", [(0x10900, 0x1091F)]⟩,
  ⟨"Psalter_Pahlavi", "Phlp", [(0x10B80, 0x10BAF)]⟩,
  ⟨"Rejang", "Rjng", [(0xA930, 0xA95F)]⟩,
  ⟨"Runic", "Runr", [(0x16A0, 0x16EA), (0x16EE, 0x16F8)]⟩,
  ⟨"Samaritan", "Samr", [(0x0800, 0x083E)]⟩,
  ⟨"Saurashtra", "Saur", [(0xA880, 0xA8D9)]⟩,
  ⟨"Sharada", "Shrd", [(0x11180, 0x111DF)]⟩,
  ⟨"Shavian", "Shaw", [(0x10450, 0x1047F)]⟩,
  ⟨"Siddham", "Sidd", [(0x11580, 0x115DD)]⟩,
  ⟨"SignWriting", "Sgnw", [(0x1D800, 0x1DAAF)]⟩,
  ⟨"Sinhala", "Sinh", [(0x0D81, 0x0DF4), (0x111E1, 0x111F4)]⟩,
  ⟨"Sogdian", "Sogd", [(0x10F30, 0x10F59)]⟩,
  ⟨"Sora_Sompeng", "Sora", [(0x110D0, 0x110F9)]⟩,
  ⟨"Soyombo", "Soyo", [(0x11A50, 0x11AA2)]⟩,
  ⟨"Sundanese", "Sund", [(0x1B80, 0x1BBF), (0x1CC0, 0x1CC7)]⟩,
  ⟨"Sunuwar", "Sunu", [(0x11BC0, 0x11BF9)]⟩,
  ⟨"Syloti_Nagri", "Sylo", [(0xA800, 0xA82C)]⟩,
  ⟨"Syriac", "Syrc", [(0x0700, 0x074F), (0x0860, 0x086A)]⟩,
  ⟨"Tagalog", "Tglg", [(0x1700, 0x171F)]⟩,
  ⟨"Tagbanwa", "Tagb", [(0x1760, 0x1773)]⟩,
  ⟨"Tai_Le", "Tale", [(0x1950, 0x1974)]⟩,
  ⟨"Tai_Tham", "Lana", [(0x1A20, 0x1AAD)]⟩,
  ⟨"Tai_Viet", "Tavt", [(0xAA80, 0xAADF)]⟩,
  ⟨"Takri", "Takr", [(0x11680, 0x116C9)]⟩,
  ⟨"Tamil", "Taml", [(0x0B82, 0x0BFA), (0x11FC0, 0x11FFF)]⟩,
  ⟨"Tangsa", "Tnsa", [(0x16A70, 0x16AC9)]⟩,
  ⟨"Tangut", "Tang", [(0x16FE0, 0x16FE0), (0x17000, 0x18AFF), (0x18D00, 0x18D08)]⟩,
  ⟨"Telugu", "Telu", [(0x0C00, 0x0C7F)]⟩,
  ⟨"Thaana", "Thaa", [(0x0780, 0x07B1)]⟩,
  ⟨"Thai", "Thai", [(0x0E01, 0x0E3A), (0x0E40, 0x0E5B)]⟩,
  ⟨"Tibetan", "Tibt", [(0x0F00, 0x0FD4), (0x0FD9, 0x0FDA)]⟩,
  ⟨"Tifinagh", "Tfng", [(0x2D30, 0x2D7F)]⟩,
  ⟨"Tirhuta", "Tirh", [(0x11480, 0x114D9)]⟩,
  ⟨"Todhri", "Todr", [(0x105C0, 0x105F3)]⟩,
  ⟨"Toto", "Toto", [(0x1E290, 0x1E2AE)]⟩,
  ⟨"Tulu_Tigalari", "Tutg", [(0x11380, 0x113E2)]⟩,
  ⟨"Ugaritic", "Ugar", [(0x10380, 0x1039F)]⟩,
  ⟨"Vai", "Vaii", [(0xA500, 0xA62B)]⟩,
  ⟨"Vithkuqi", "Vith", [(0x10570, 0x105BC)]⟩,
  ⟨"Wancho", "Wcho", [(0x1E2C0, 0x1E2FF)]⟩,
  ⟨"Warang_Citi", "Wara", [(0x118A0, 0x118FF)]⟩,
  ⟨"Yezidi", "Yezi", [(0x10E80, 0x10EB1)]⟩,
  ⟨"Yi", "Yiii", [(0xA000, 0xA4C6)]⟩,
  ⟨"Zanabazar_Square", "Zanb", [(0x11A00, 0x11A47)]⟩]

/-- What belongs to no single script. -/
def shared : List Script := [
  ⟨"Common", "Zyyy",
    [(0x0000, 0x0040), (0x005B, 0x0060), (0x007B, 0x00A9), (0x00AB, 0x00B9), (0x00BB, 0x00BF),
     (0x00D7, 0x00D7), (0x00F7, 0x00F7), (0x02B9, 0x02DF), (0x02E5, 0x02E9), (0x02EC, 0x02FF),
     (0x0374, 0x0374), (0x037E, 0x037E), (0x0385, 0x0385), (0x0387, 0x0387), (0x0605, 0x0605),
     (0x060C, 0x060C), (0x061B, 0x061B), (0x061F, 0x061F), (0x0640, 0x0640), (0x06DD, 0x06DD),
     (0x08E2, 0x08E2), (0x0964, 0x0965), (0x0E3F, 0x0E3F), (0x0FD5, 0x0FD8), (0x10FB, 0x10FB),
     (0x16EB, 0x16ED), (0x1735, 0x1736), (0x1802, 0x1803), (0x1805, 0x1805), (0x1CD3, 0x1CD3),
     (0x1CE1, 0x1CE1), (0x1CE9, 0x1CEC), (0x1CEE, 0x1CF3), (0x1CF5, 0x1CF7), (0x1CFA, 0x1CFA),
     (0x2000, 0x200B), (0x200E, 0x2070), (0x2074, 0x207E), (0x2080, 0x208E), (0x20A0, 0x20C0),
     (0x2100, 0x2125), (0x2127, 0x2129), (0x212C, 0x2131), (0x2133, 0x214D), (0x214F, 0x215F),
     (0x2189, 0x27FF), (0x2900, 0x2BFF), (0x2E00, 0x2E5D), (0x2FF0, 0x3004), (0x3006, 0x3006),
     (0x3008, 0x3020), (0x3030, 0x3037), (0x303C, 0x303F), (0x309B, 0x309C), (0x30A0, 0x30A0),
     (0x30FB, 0x30FC), (0x3190, 0x319F), (0x31C0, 0x31EF), (0x3220, 0x325F), (0x327F, 0x32CF),
     (0x32FF, 0x32FF), (0x3358, 0x33FF), (0x4DC0, 0x4DFF), (0xA700, 0xA721), (0xA788, 0xA78A),
     (0xA830, 0xA839), (0xA92E, 0xA92E), (0xA9CF, 0xA9CF), (0xAB5B, 0xAB5B), (0xAB6A, 0xAB6B),
     (0xFD3E, 0xFD3F), (0xFE10, 0xFE19), (0xFE30, 0xFE6B), (0xFEFF, 0xFF20), (0xFF3B, 0xFF40),
     (0xFF5B, 0xFF65), (0xFF70, 0xFF70), (0xFF9E, 0xFF9F), (0xFFE0, 0xFFFD), (0x10100, 0x1013F),
     (0x10190, 0x1019C), (0x101D0, 0x101FC), (0x102E1, 0x102FB), (0x1BCA0, 0x1CEB3),
     (0x1CF50, 0x1D166), (0x1D16A, 0x1D17A), (0x1D183, 0x1D184), (0x1D18C, 0x1D1A9),
     (0x1D1AE, 0x1D1EA), (0x1D2C0, 0x1D7FF), (0x1EC71, 0x1ED3D), (0x1F000, 0x1F1FF),
     (0x1F201, 0x1FBF9), (0xE0001, 0xE007F)]⟩,
  ⟨"Inherited", "Zinh",
    [(0x0300, 0x036F), (0x0485, 0x0486), (0x064B, 0x0655), (0x0670, 0x0670), (0x0951, 0x0954),
     (0x1AB0, 0x1ACE), (0x1CD0, 0x1CD2), (0x1CD4, 0x1CE0), (0x1CE2, 0x1CE8), (0x1CED, 0x1CED),
     (0x1CF4, 0x1CF4), (0x1CF8, 0x1CF9), (0x1DC0, 0x1DFF), (0x200C, 0x200D), (0x20D0, 0x20F0),
     (0x302A, 0x302D), (0x3099, 0x309A), (0xFE00, 0xFE0F), (0xFE20, 0xFE2D), (0x101FD, 0x101FD),
     (0x102E0, 0x102E0), (0x1133B, 0x1133B), (0x1CF00, 0x1CF46), (0x1D167, 0x1D169),
     (0x1D17B, 0x1D182), (0x1D185, 0x1D18B), (0x1D1AA, 0x1D1AD), (0xE0100, 0xE01EF)]⟩]

/-- **All scripts.** -/
def all : List Script := firstHalf ++ secondHalf ++ shared

/-- Further names of scripts, with the codes of those that they stand for. -/
def otherNames : List (String × String) := [("Qaac", "Copt"), ("Qaai", "Zinh")]

/-- **The characters of a script.** -/
def set (s : Script) : CharSet := (CharSet.ofRanges s.ranges).inter (assigned .sixteen)

end Script
end InlineMarkup.Unicode
