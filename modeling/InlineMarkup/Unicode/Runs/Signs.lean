import InlineMarkup.Unicode.Category

/-!
# Categories: signs

The general categories of musical and mathematical signs, pictographs and everything beyond, from
U+1B000 on, in ascending order. Characters in no run are unassigned.
-/

namespace InlineMarkup.Unicode.Run

/-- Runs from U+1B000 to U+10FFFD. -/
def signs : Array Run := #[
  .same 0x1B000 0x1B122 .lo, .same 0x1B132 0x1B132 .lo, .same 0x1B150 0x1B152 .lo,
  .same 0x1B155 0x1B155 .lo, .same 0x1B164 0x1B167 .lo, .same 0x1B170 0x1B2FB .lo,
  .same 0x1BC00 0x1BC6A .lo, .same 0x1BC70 0x1BC7C .lo, .same 0x1BC80 0x1BC88 .lo,
  .same 0x1BC90 0x1BC99 .lo, .same 0x1BC9C 0x1BC9C .so, .same 0x1BC9D 0x1BC9E .mn,
  .same 0x1BC9F 0x1BC9F .po, .same 0x1BCA0 0x1BCA3 .cf, .same 0x1CC00 0x1CCEF .so,
  .same 0x1CCF0 0x1CCF9 .nd, .same 0x1CCFA 0x1CCFC .so, .same 0x1CD00 0x1CEB3 .so,
  .same 0x1CEBA 0x1CED0 .so, .same 0x1CEE0 0x1CEEF .so, .same 0x1CEF0 0x1CEF0 .sm,
  .same 0x1CF00 0x1CF2D .mn, .same 0x1CF30 0x1CF46 .mn, .same 0x1CF50 0x1CFC3 .so,
  .same 0x1D000 0x1D0F5 .so, .same 0x1D100 0x1D126 .so, .same 0x1D129 0x1D164 .so,
  .same 0x1D165 0x1D166 .mc, .same 0x1D167 0x1D169 .mn, .same 0x1D16A 0x1D16C .so,
  .same 0x1D16D 0x1D172 .mc, .same 0x1D173 0x1D17A .cf, .same 0x1D17B 0x1D182 .mn,
  .same 0x1D183 0x1D184 .so, .same 0x1D185 0x1D18B .mn, .same 0x1D18C 0x1D1A9 .so,
  .same 0x1D1AA 0x1D1AD .mn, .same 0x1D1AE 0x1D1EA .so, .same 0x1D200 0x1D241 .so,
  .same 0x1D242 0x1D244 .mn, .same 0x1D245 0x1D245 .so, .same 0x1D2C0 0x1D2D3 .no,
  .same 0x1D2E0 0x1D2F3 .no, .same 0x1D300 0x1D356 .so, .same 0x1D360 0x1D378 .no,
  .same 0x1D400 0x1D419 .lu, .same 0x1D41A 0x1D433 .ll, .same 0x1D434 0x1D44D .lu,
  .same 0x1D44E 0x1D454 .ll, .same 0x1D456 0x1D467 .ll, .same 0x1D468 0x1D481 .lu,
  .same 0x1D482 0x1D49B .ll, .same 0x1D49C 0x1D49C .lu, .same 0x1D49E 0x1D49F .lu,
  .same 0x1D4A2 0x1D4A2 .lu, .same 0x1D4A5 0x1D4A6 .lu, .same 0x1D4A9 0x1D4AC .lu,
  .same 0x1D4AE 0x1D4B5 .lu, .same 0x1D4B6 0x1D4B9 .ll, .same 0x1D4BB 0x1D4BB .ll,
  .same 0x1D4BD 0x1D4C3 .ll, .same 0x1D4C5 0x1D4CF .ll, .same 0x1D4D0 0x1D4E9 .lu,
  .same 0x1D4EA 0x1D503 .ll, .same 0x1D504 0x1D505 .lu, .same 0x1D507 0x1D50A .lu,
  .same 0x1D50D 0x1D514 .lu, .same 0x1D516 0x1D51C .lu, .same 0x1D51E 0x1D537 .ll,
  .same 0x1D538 0x1D539 .lu, .same 0x1D53B 0x1D53E .lu, .same 0x1D540 0x1D544 .lu,
  .same 0x1D546 0x1D546 .lu, .same 0x1D54A 0x1D550 .lu, .same 0x1D552 0x1D56B .ll,
  .same 0x1D56C 0x1D585 .lu, .same 0x1D586 0x1D59F .ll, .same 0x1D5A0 0x1D5B9 .lu,
  .same 0x1D5BA 0x1D5D3 .ll, .same 0x1D5D4 0x1D5ED .lu, .same 0x1D5EE 0x1D607 .ll,
  .same 0x1D608 0x1D621 .lu, .same 0x1D622 0x1D63B .ll, .same 0x1D63C 0x1D655 .lu,
  .same 0x1D656 0x1D66F .ll, .same 0x1D670 0x1D689 .lu, .same 0x1D68A 0x1D6A5 .ll,
  .same 0x1D6A8 0x1D6C0 .lu, .same 0x1D6C1 0x1D6C1 .sm, .same 0x1D6C2 0x1D6DA .ll,
  .same 0x1D6DB 0x1D6DB .sm, .same 0x1D6DC 0x1D6E1 .ll, .same 0x1D6E2 0x1D6FA .lu,
  .same 0x1D6FB 0x1D6FB .sm, .same 0x1D6FC 0x1D714 .ll, .same 0x1D715 0x1D715 .sm,
  .same 0x1D716 0x1D71B .ll, .same 0x1D71C 0x1D734 .lu, .same 0x1D735 0x1D735 .sm,
  .same 0x1D736 0x1D74E .ll, .same 0x1D74F 0x1D74F .sm, .same 0x1D750 0x1D755 .ll,
  .same 0x1D756 0x1D76E .lu, .same 0x1D76F 0x1D76F .sm, .same 0x1D770 0x1D788 .ll,
  .same 0x1D789 0x1D789 .sm, .same 0x1D78A 0x1D78F .ll, .same 0x1D790 0x1D7A8 .lu,
  .same 0x1D7A9 0x1D7A9 .sm, .same 0x1D7AA 0x1D7C2 .ll, .same 0x1D7C3 0x1D7C3 .sm,
  .same 0x1D7C4 0x1D7C9 .ll, .same 0x1D7CA 0x1D7CA .lu, .same 0x1D7CB 0x1D7CB .ll,
  .same 0x1D7CE 0x1D7FF .nd, .same 0x1D800 0x1D9FF .so, .same 0x1DA00 0x1DA36 .mn,
  .same 0x1DA37 0x1DA3A .so, .same 0x1DA3B 0x1DA6C .mn, .same 0x1DA6D 0x1DA74 .so,
  .same 0x1DA75 0x1DA75 .mn, .same 0x1DA76 0x1DA83 .so, .same 0x1DA84 0x1DA84 .mn,
  .same 0x1DA85 0x1DA86 .so, .same 0x1DA87 0x1DA8B .po, .same 0x1DA9B 0x1DA9F .mn,
  .same 0x1DAA1 0x1DAAF .mn, .same 0x1DF00 0x1DF09 .ll, .same 0x1DF0A 0x1DF0A .lo,
  .same 0x1DF0B 0x1DF1E .ll, .same 0x1DF25 0x1DF2A .ll, .same 0x1E000 0x1E006 .mn,
  .same 0x1E008 0x1E018 .mn, .same 0x1E01B 0x1E021 .mn, .same 0x1E023 0x1E024 .mn,
  .same 0x1E026 0x1E02A .mn, .same 0x1E030 0x1E06D .lm, .same 0x1E08F 0x1E08F .mn,
  .same 0x1E100 0x1E12C .lo, .same 0x1E130 0x1E136 .mn, .same 0x1E137 0x1E13D .lm,
  .same 0x1E140 0x1E149 .nd, .same 0x1E14E 0x1E14E .lo, .same 0x1E14F 0x1E14F .so,
  .same 0x1E290 0x1E2AD .lo, .same 0x1E2AE 0x1E2AE .mn, .same 0x1E2C0 0x1E2EB .lo,
  .same 0x1E2EC 0x1E2EF .mn, .same 0x1E2F0 0x1E2F9 .nd, .same 0x1E2FF 0x1E2FF .sc,
  .same 0x1E4D0 0x1E4EA .lo, .same 0x1E4EB 0x1E4EB .lm, .same 0x1E4EC 0x1E4EF .mn,
  .same 0x1E4F0 0x1E4F9 .nd, .same 0x1E5D0 0x1E5ED .lo, .same 0x1E5EE 0x1E5EF .mn,
  .same 0x1E5F0 0x1E5F0 .lo, .same 0x1E5F1 0x1E5FA .nd, .same 0x1E5FF 0x1E5FF .po,
  .same 0x1E6C0 0x1E6DE .lo, .same 0x1E6E0 0x1E6E2 .lo, .same 0x1E6E3 0x1E6E3 .mn,
  .same 0x1E6E4 0x1E6E5 .lo, .same 0x1E6E6 0x1E6E6 .mn, .same 0x1E6E7 0x1E6ED .lo,
  .same 0x1E6EE 0x1E6EF .mn, .same 0x1E6F0 0x1E6F4 .lo, .same 0x1E6F5 0x1E6F5 .mn,
  .same 0x1E6FE 0x1E6FE .lo, .same 0x1E6FF 0x1E6FF .lm, .same 0x1E7E0 0x1E7E6 .lo,
  .same 0x1E7E8 0x1E7EB .lo, .same 0x1E7ED 0x1E7EE .lo, .same 0x1E7F0 0x1E7FE .lo,
  .same 0x1E800 0x1E8C4 .lo, .same 0x1E8C7 0x1E8CF .no, .same 0x1E8D0 0x1E8D6 .mn,
  .same 0x1E900 0x1E921 .lu, .same 0x1E922 0x1E943 .ll, .same 0x1E944 0x1E94A .mn,
  .same 0x1E94B 0x1E94B .lm, .same 0x1E950 0x1E959 .nd, .same 0x1E95E 0x1E95F .po,
  .same 0x1EC71 0x1ECAB .no, .same 0x1ECAC 0x1ECAC .so, .same 0x1ECAD 0x1ECAF .no,
  .same 0x1ECB0 0x1ECB0 .sc, .same 0x1ECB1 0x1ECB4 .no, .same 0x1ED01 0x1ED2D .no,
  .same 0x1ED2E 0x1ED2E .so, .same 0x1ED2F 0x1ED3D .no, .same 0x1EE00 0x1EE03 .lo,
  .same 0x1EE05 0x1EE1F .lo, .same 0x1EE21 0x1EE22 .lo, .same 0x1EE24 0x1EE24 .lo,
  .same 0x1EE27 0x1EE27 .lo, .same 0x1EE29 0x1EE32 .lo, .same 0x1EE34 0x1EE37 .lo,
  .same 0x1EE39 0x1EE39 .lo, .same 0x1EE3B 0x1EE3B .lo, .same 0x1EE42 0x1EE42 .lo,
  .same 0x1EE47 0x1EE47 .lo, .same 0x1EE49 0x1EE49 .lo, .same 0x1EE4B 0x1EE4B .lo,
  .same 0x1EE4D 0x1EE4F .lo, .same 0x1EE51 0x1EE52 .lo, .same 0x1EE54 0x1EE54 .lo,
  .same 0x1EE57 0x1EE57 .lo, .same 0x1EE59 0x1EE59 .lo, .same 0x1EE5B 0x1EE5B .lo,
  .same 0x1EE5D 0x1EE5D .lo, .same 0x1EE5F 0x1EE5F .lo, .same 0x1EE61 0x1EE62 .lo,
  .same 0x1EE64 0x1EE64 .lo, .same 0x1EE67 0x1EE6A .lo, .same 0x1EE6C 0x1EE72 .lo,
  .same 0x1EE74 0x1EE77 .lo, .same 0x1EE79 0x1EE7C .lo, .same 0x1EE7E 0x1EE7E .lo,
  .same 0x1EE80 0x1EE89 .lo, .same 0x1EE8B 0x1EE9B .lo, .same 0x1EEA1 0x1EEA3 .lo,
  .same 0x1EEA5 0x1EEA9 .lo, .same 0x1EEAB 0x1EEBB .lo, .same 0x1EEF0 0x1EEF1 .sm,
  .same 0x1F000 0x1F02B .so, .same 0x1F030 0x1F093 .so, .same 0x1F0A0 0x1F0AE .so,
  .same 0x1F0B1 0x1F0BF .so, .same 0x1F0C1 0x1F0CF .so, .same 0x1F0D1 0x1F0F5 .so,
  .same 0x1F100 0x1F10C .no, .same 0x1F10D 0x1F1AD .so, .same 0x1F1E6 0x1F202 .so,
  .same 0x1F210 0x1F23B .so, .same 0x1F240 0x1F248 .so, .same 0x1F250 0x1F251 .so,
  .same 0x1F260 0x1F265 .so, .same 0x1F300 0x1F3FA .so, .same 0x1F3FB 0x1F3FF .sk,
  .same 0x1F400 0x1F6D8 .so, .same 0x1F6DC 0x1F6EC .so, .same 0x1F6F0 0x1F6FC .so,
  .same 0x1F700 0x1F7D9 .so, .same 0x1F7E0 0x1F7EB .so, .same 0x1F7F0 0x1F7F0 .so,
  .same 0x1F800 0x1F80B .so, .same 0x1F810 0x1F847 .so, .same 0x1F850 0x1F859 .so,
  .same 0x1F860 0x1F887 .so, .same 0x1F890 0x1F8AD .so, .same 0x1F8B0 0x1F8BB .so,
  .same 0x1F8C0 0x1F8C1 .so, .same 0x1F8D0 0x1F8D8 .sm, .same 0x1F900 0x1FA57 .so,
  .same 0x1FA60 0x1FA6D .so, .same 0x1FA70 0x1FA7C .so, .same 0x1FA80 0x1FA8A .so,
  .same 0x1FA8E 0x1FAC6 .so, .same 0x1FAC8 0x1FAC8 .so, .same 0x1FACD 0x1FADC .so,
  .same 0x1FADF 0x1FAEA .so, .same 0x1FAEF 0x1FAF8 .so, .same 0x1FB00 0x1FB92 .so,
  .same 0x1FB94 0x1FBEF .so, .same 0x1FBF0 0x1FBF9 .nd, .same 0x1FBFA 0x1FBFA .so,
  .same 0x20000 0x2A6DF .lo, .same 0x2A700 0x2B81D .lo, .same 0x2B820 0x2CEAD .lo,
  .same 0x2CEB0 0x2EBE0 .lo, .same 0x2EBF0 0x2EE5D .lo, .same 0x2F800 0x2FA1D .lo,
  .same 0x30000 0x3134A .lo, .same 0x31350 0x33479 .lo, .same 0xE0001 0xE0001 .cf,
  .same 0xE0020 0xE007F .cf, .same 0xE0100 0xE01EF .mn, .same 0xF0000 0xFFFFD .co,
  .same 0x100000 0x10FFFD .co]

end InlineMarkup.Unicode.Run
