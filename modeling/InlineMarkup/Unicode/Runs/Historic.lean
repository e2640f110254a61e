import InlineMarkup.Unicode.Category

/-!
# Categories: historic

The general categories of the characters of the scripts of the first supplementary plane, U+10000
to U+1AFFF, in ascending order. Characters in no run are unassigned.
-/

namespace InlineMarkup.Unicode.Run

/-- Runs from U+10000 to U+113D8. -/
def historicHead : Array Run := #[
  .same 0x10000 0x1000B .lo, .same 0x1000D 0x10026 .lo, .same 0x10028 0x1003A .lo,
  .same 0x1003C 0x1003D .lo, .same 0x1003F 0x1004D .lo, .same 0x10050 0x1005D .lo,
  .same 0x10080 0x100FA .lo, .same 0x10100 0x10102 .po, .same 0x10107 0x10133 .no,
  .same 0x10137 0x1013F .so, .same 0x10140 0x10174 .nl, .same 0x10175 0x10178 .no,
  .same 0x10179 0x10189 .so, .same 0x1018A 0x1018B .no, .same 0x1018C 0x1018E .so,
  .same 0x10190 0x1019C .so, .same 0x101A0 0x101A0 .so, .same 0x101D0 0x101FC .so,
  .same 0x101FD 0x101FD .mn, .same 0x10280 0x1029C .lo, .same 0x102A0 0x102D0 .lo,
  .same 0x102E0 0x102E0 .mn, .same 0x102E1 0x102FB .no, .same 0x10300 0x1031F .lo,
  .same 0x10320 0x10323 .no, .same 0x1032D 0x10340 .lo, .same 0x10341 0x10341 .nl,
  .same 0x10342 0x10349 .lo, .same 0x1034A 0x1034A .nl, .same 0x10350 0x10375 .lo,
  .same 0x10376 0x1037A .mn, .same 0x10380 0x1039D .lo, .same 0x1039F 0x1039F .po,
  .same 0x103A0 0x103C3 .lo, .same 0x103C8 0x103CF .lo, .same 0x103D0 0x103D0 .po,
  .same 0x103D1 0x103D5 .nl, .same 0x10400 0x10427 .lu, .same 0x10428 0x1044F .ll,
  .same 0x10450 0x1049D .lo, .same 0x104A0 0x104A9 .nd, .same 0x104B0 0x104D3 .lu,
  .same 0x104D8 0x104FB .ll, .same 0x10500 0x10527 .lo, .same 0x10530 0x10563 .lo,
  .same 0x1056F 0x1056F .po, .same 0x10570 0x1057A .lu, .same 0x1057C 0x1058A .lu,
  .same 0x1058C 0x10592 .lu, .same 0x10594 0x10595 .lu, .same 0x10597 0x105A1 .ll,
  .same 0x105A3 0x105B1 .ll, .same 0x105B3 0x105B9 .ll, .same 0x105BB 0x105BC .ll,
  .same 0x105C0 0x105F3 .lo, .same 0x10600 0x10736 .lo, .same 0x10740 0x10755 .lo,
  .same 0x10760 0x10767 .lo, .same 0x10780 0x10785 .lm, .same 0x10787 0x107B0 .lm,
  .same 0x107B2 0x107BA .lm, .same 0x10800 0x10805 .lo, .same 0x10808 0x10808 .lo,
  .same 0x1080A 0x10835 .lo, .same 0x10837 0x10838 .lo, .same 0x1083C 0x1083C .lo,
  .same 0x1083F 0x10855 .lo, .same 0x10857 0x10857 .po, .same 0x10858 0x1085F .no,
  .same 0x10860 0x10876 .lo, .same 0x10877 0x10878 .so, .same 0x10879 0x1087F .no,
  .same 0x10880 0x1089E .lo, .same 0x108A7 0x108AF .no, .same 0x108E0 0x108F2 .lo,
  .same 0x108F4 0x108F5 .lo, .same 0x108FB 0x108FF .no, .same 0x10900 0x10915 .lo,
  .same 0x10916 0x1091B .no, .same 0x1091F 0x1091F .po, .same 0x10920 0x10939 .lo,
  .same 0x1093F 0x1093F .po, .same 0x10940 0x10959 .lo, .same 0x10980 0x109B7 .lo,
  .same 0x109BC 0x109BD .no, .same 0x109BE 0x109BF .lo, .same 0x109C0 0x109CF .no,
  .same 0x109D2 0x109FF .no, .same 0x10A00 0x10A00 .lo, .same 0x10A01 0x10A03 .mn,
  .same 0x10A05 0x10A06 .mn, .same 0x10A0C 0x10A0F .mn, .same 0x10A10 0x10A13 .lo,
  .same 0x10A15 0x10A17 .lo, .same 0x10A19 0x10A35 .lo, .same 0x10A38 0x10A3A .mn,
  .same 0x10A3F 0x10A3F .mn, .same 0x10A40 0x10A48 .no, .same 0x10A50 0x10A58 .po,
  .same 0x10A60 0x10A7C .lo, .same 0x10A7D 0x10A7E .no, .same 0x10A7F 0x10A7F .po,
  .same 0x10A80 0x10A9C .lo, .same 0x10A9D 0x10A9F .no, .same 0x10AC0 0x10AC7 .lo,
  .same 0x10AC8 0x10AC8 .so, .same 0x10AC9 0x10AE4 .lo, .same 0x10AE5 0x10AE6 .mn,
  .same 0x10AEB 0x10AEF .no, .same 0x10AF0 0x10AF6 .po, .same 0x10B00 0x10B35 .lo,
  .same 0x10B39 0x10B3F .po, .same 0x10B40 0x10B55 .lo, .same 0x10B58 0x10B5F .no,
  .same 0x10B60 0x10B72 .lo, .same 0x10B78 0x10B7F .no, .same 0x10B80 0x10B91 .lo,
  .same 0x10B99 0x10B9C .po, .same 0x10BA9 0x10BAF .no, .same 0x10C00 0x10C48 .lo,
  .same 0x10C80 0x10CB2 .lu, .same 0x10CC0 0x10CF2 .ll, .same 0x10CFA 0x10CFF .no,
  .same 0x10D00 0x10D23 .lo, .same 0x10D24 0x10D27 .mn, .same 0x10D30 0x10D39 .nd,
  .same 0x10D40 0x10D49 .nd, .same 0x10D4A 0x10D4D .lo, .same 0x10D4E 0x10D4E .lm,
  .same 0x10D4F 0x10D4F .lo, .same 0x10D50 0x10D65 .lu, .same 0x10D69 0x10D6D .mn,
  .same 0x10D6E 0x10D6E .pd, .same 0x10D6F 0x10D6F .lm, .same 0x10D70 0x10D85 .ll,
  .same 0x10D8E 0x10D8F .sm, .same 0x10E60 0x10E7E .no, .same 0x10E80 0x10EA9 .lo,
  .same 0x10EAB 0x10EAC .mn, .same 0x10EAD 0x10EAD .pd, .same 0x10EB0 0x10EB1 .lo,
  .same 0x10EC2 0x10EC4 .lo, .same 0x10EC5 0x10EC5 .lm, .same 0x10EC6 0x10EC7 .lo,
  .same 0x10ED0 0x10ED0 .po, .same 0x10ED1 0x10ED8 .so, .same 0x10EFA 0x10EFF .mn,
  .same 0x10F00 0x10F1C .lo, .same 0x10F1D 0x10F26 .no, .same 0x10F27 0x10F27 .lo,
  .same 0x10F30 0x10F45 .lo, .same 0x10F46 0x10F50 .mn, .same 0x10F51 0x10F54 .no,
  .same 0x10F55 0x10F59 .po, .same 0x10F70 0x10F81 .lo, .same 0x10F82 0x10F85 .mn,
  .same 0x10F86 0x10F89 .po, .same 0x10FB0 0x10FC4 .lo, .same 0x10FC5 0x10FCB .no,
  .same 0x10FE0 0x10FF6 .lo, .same 0x11000 0x11000 .mc, .same 0x11001 0x11001 .mn,
  .same 0x11002 0x11002 .mc, .same 0x11003 0x11037 .lo, .same 0x11038 0x11046 .mn,
  .same 0x11047 0x1104D .po, .same 0x11052 0x11065 .no, .same 0x11066 0x1106F .nd,
  .same 0x11070 0x11070 .mn, .same 0x11071 0x11072 .lo, .same 0x11073 0x11074 .mn,
  .same 0x11075 0x11075 .lo, .same 0x1107F 0x11081 .mn, .same 0x11082 0x11082 .mc,
  .same 0x11083 0x110AF .lo, .same 0x110B0 0x110B2 .mc, .same 0x110B3 0x110B6 .mn,
  .same 0x110B7 0x110B8 .mc, .same 0x110B9 0x110BA .mn, .same 0x110BB 0x110BC .po,
  .same 0x110BD 0x110BD .cf, .same 0x110BE 0x110C1 .po, .same 0x110C2 0x110C2 .mn,
  .same 0x110CD 0x110CD .cf, .same 0x110D0 0x110E8 .lo, .same 0x110F0 0x110F9 .nd,
  .same 0x11100 0x11102 .mn, .same 0x11103 0x11126 .lo, .same 0x11127 0x1112B .mn,
  .same 0x1112C 0x1112C .mc, .same 0x1112D 0x11134 .mn, .same 0x11136 0x1113F .nd,
  .same 0x11140 0x11143 .po, .same 0x11144 0x11144 .lo, .same 0x11145 0x11146 .mc,
  .same 0x11147 0x11147 .lo, .same 0x11150 0x11172 .lo, .same 0x11173 0x11173 .mn,
  .same 0x11174 0x11175 .po, .same 0x11176 0x11176 .lo, .same 0x11180 0x11181 .mn,
  .same 0x11182 0x11182 .mc, .same 0x11183 0x111B2 .lo, .same 0x111B3 0x111B5 .mc,
  .same 0x111B6 0x111BE .mn, .same 0x111BF 0x111C0 .mc, .same 0x111C1 0x111C4 .lo,
  .same 0x111C5 0x111C8 .po, .same 0x111C9 0x111CC .mn, .same 0x111CD 0x111CD .po,
  .same 0x111CE 0x111CE .mc, .same 0x111CF 0x111CF .mn, .same 0x111D0 0x111D9 .nd,
  .same 0x111DA 0x111DA .lo, .same 0x111DB 0x111DB .po, .same 0x111DC 0x111DC .lo,
  .same 0x111DD 0x111DF .po, .same 0x111E1 0x111F4 .no, .same 0x11200 0x11211 .lo,
  .same 0x11213 0x1122B .lo, .same 0x1122C 0x1122E .mc, .same 0x1122F 0x11231 .mn,
  .same 0x11232 0x11233 .mc, .same 0x11234 0x11234 .mn, .same 0x11235 0x11235 .mc,
  .same 0x11236 0x11237 .mn, .same 0x11238 0x1123D .po, .same 0x1123E 0x1123E .mn,
  .same 0x1123F 0x11240 .lo, .same 0x11241 0x11241 .mn, .same 0x11280 0x11286 .lo,
  .same 0x11288 0x11288 .lo, .same 0x1128A 0x1128D .lo, .same 0x1128F 0x1129D .lo,
  .same 0x1129F 0x112A8 .lo, .same 0x112A9 0x112A9 .po, .same 0x112B0 0x112DE .lo,
  .same 0x112DF 0x112DF .mn, .same 0x112E0 0x112E2 .mc, .same 0x112E3 0x112EA .mn,
  .same 0x112F0 0x112F9 .nd, .same 0x11300 0x11301 .mn, .same 0x11302 0x11303 .mc,
  .same 0x11305 0x1130C .lo, .same 0x1130F 0x11310 .lo, .same 0x11313 0x11328 .lo,
  .same 0x1132A 0x11330 .lo, .same 0x11332 0x11333 .lo, .same 0x11335 0x11339 .lo,
  .same 0x1133B 0x1133C .mn, .same 0x1133D 0x1133D .lo, .same 0x1133E 0x1133F .mc,
  .same 0x11340 0x11340 .mn, .same 0x11341 0x11344 .mc, .same 0x11347 0x11348 .mc,
  .same 0x1134B 0x1134D .mc, .same 0x11350 0x11350 .lo, .same 0x11357 0x11357 .mc,
  .same 0x1135D 0x11361 .lo, .same 0x11362 0x11363 .mc, .same 0x11366 0x1136C .mn,
  .same 0x11370 0x11374 .mn, .same 0x11380 0x11389 .lo, .same 0x1138B 0x1138B .lo,
  .same 0x1138E 0x1138E .lo, .same 0x11390 0x113B5 .lo, .same 0x113B7 0x113B7 .lo,
  .same 0x113B8 0x113BA .mc, .same 0x113BB 0x113C0 .mn, .same 0x113C2 0x113C2 .mc,
  .same 0x113C5 0x113C5 .mc, .same 0x113C7 0x113CA .mc, .same 0x113CC 0x113CD .mc,
  .same 0x113CE 0x113CE .mn, .same 0x113CF 0x113CF .mc, .same 0x113D0 0x113D0 .mn,
  .same 0x113D1 0x113D1 .lo, .same 0x113D2 0x113D2 .mn, .same 0x113D3 0x113D3 .lo,
  .same 0x113D4 0x113D5 .po, .same 0x113D7 0x113D8 .po]

/-- Runs from U+113E1 to U+1AFFE. -/
def historicTail : Array Run := #[
  .same 0x113E1 0x113E2 .mn, .same 0x11400 0x11434 .lo, .same 0x11435 0x11437 .mc,
  .same 0x11438 0x1143F .mn, .same 0x11440 0x11441 .mc, .same 0x11442 0x11444 .mn,
  .same 0x11445 0x11445 .mc, .same 0x11446 0x11446 .mn, .same 0x11447 0x1144A .lo,
  .same 0x1144B 0x1144F .po, .same 0x11450 0x11459 .nd, .same 0x1145A 0x1145B .po,
  .same 0x1145D 0x1145D .po, .same 0x1145E 0x1145E .mn, .same 0x1145F 0x11461 .lo,
  .same 0x11480 0x114AF .lo, .same 0x114B0 0x114B2 .mc, .same 0x114B3 0x114B8 .mn,
  .same 0x114B9 0x114B9 .mc, .same 0x114BA 0x114BA .mn, .same 0x114BB 0x114BE .mc,
  .same 0x114BF 0x114C0 .mn, .same 0x114C1 0x114C1 .mc, .same 0x114C2 0x114C3 .mn,
  .same 0x114C4 0x114C5 .lo, .same 0x114C6 0x114C6 .po, .same 0x114C7 0x114C7 .lo,
  .same 0x114D0 0x114D9 .nd, .same 0x11580 0x115AE .lo, .same 0x115AF 0x115B1 .mc,
  .same 0x115B2 0x115B5 .mn, .same 0x115B8 0x115BB .mc, .same 0x115BC 0x115BD .mn,
  .same 0x115BE 0x115BE .mc, .same 0x115BF 0x115C0 .mn, .same 0x115C1 0x115D7 .po,
  .same 0x115D8 0x115DB .lo, .same 0x115DC 0x115DD .mn, .same 0x11600 0x1162F .lo,
  .same 0x11630 0x11632 .mc, .same 0x11633 0x1163A .mn, .same 0x1163B 0x1163C .mc,
  .same 0x1163D 0x1163D .mn, .same 0x1163E 0x1163E .mc, .same 0x1163F 0x11640 .mn,
  .same 0x11641 0x11643 .po, .same 0x11644 0x11644 .lo, .same 0x11650 0x11659 .nd,
  .same 0x11660 0x1166C .po, .same 0x11680 0x116AA .lo, .same 0x116AB 0x116AB .mn,
  .same 0x116AC 0x116AC .mc, .same 0x116AD 0x116AD .mn, .same 0x116AE 0x116AF .mc,
  .same 0x116B0 0x116B5 .mn, .same 0x116B6 0x116B6 .mc, .same 0x116B7 0x116B7 .mn,
  .same 0x116B8 0x116B8 .lo, .same 0x116B9 0x116B9 .po, .same 0x116C0 0x116C9 .nd,
  .same 0x116D0 0x116E3 .nd, .same 0x11700 0x1171A .lo, .same 0x1171D 0x1171D .mn,
  .same 0x1171E 0x1171E .mc, .same 0x1171F 0x1171F .mn, .same 0x11720 0x11721 .mc,
  .same 0x11722 0x11725 .mn, .same 0x11726 0x11726 .mc, .same 0x11727 0x1172B .mn,
  .same 0x11730 0x11739 .nd, .same 0x1173A 0x1173B .no, .same 0x1173C 0x1173E .po,
  .same 0x1173F 0x1173F .so, .same 0x11740 0x11746 .lo, .same 0x11800 0x1182B .lo,
  .same 0x1182C 0x1182E .mc, .same 0x1182F 0x11837 .mn, .same 0x11838 0x11838 .mc,
  .same 0x11839 0x1183A .mn, .same 0x1183B 0x1183B .po, .same 0x118A0 0x118BF .lu,
  .same 0x118C0 0x118DF .ll, .same 0x118E0 0x118E9 .nd, .same 0x118EA 0x118F2 .no,
  .same 0x118FF 0x11906 .lo, .same 0x11909 0x11909 .lo, .same 0x1190C 0x11913 .lo,
  .same 0x11915 0x11916 .lo, .same 0x11918 0x1192F .lo, .same 0x11930 0x11935 .mc,
  .same 0x11937 0x11938 .mc, .same 0x1193B 0x1193C .mn, .same 0x1193D 0x1193D .mc,
  .same 0x1193E 0x1193E .mn, .same 0x1193F 0x1193F .lo, .same 0x11940 0x11940 .mc,
  .same 0x11941 0x11941 .lo, .same 0x11942 0x11942 .mc, .same 0x11943 0x11943 .mn,
  .same 0x11944 0x11946 .po, .same 0x11950 0x11959 .nd, .same 0x119A0 0x119A7 .lo,
  .same 0x119AA 0x119D0 .lo, .same 0x119D1 0x119D3 .mc, .same 0x119D4 0x119D7 .mn,
  .same 0x119DA 0x119DB .mn, .same 0x119DC 0x119DF .mc, .same 0x119E0 0x119E0 .mn,
  .same 0x119E1 0x119E1 .lo, .same 0x119E2 0x119E2 .po, .same 0x119E3 0x119E3 .lo,
  .same 0x119E4 0x119E4 .mc, .same 0x11A00 0x11A00 .lo, .same 0x11A01 0x11A0A .mn,
  .same 0x11A0B 0x11A32 .lo, .same 0x11A33 0x11A38 .mn, .same 0x11A39 0x11A39 .mc,
  .same 0x11A3A 0x11A3A .lo, .same 0x11A3B 0x11A3E .mn, .same 0x11A3F 0x11A46 .po,
  .same 0x11A47 0x11A47 .mn, .same 0x11A50 0x11A50 .lo, .same 0x11A51 0x11A56 .mn,
  .same 0x11A57 0x11A58 .mc, .same 0x11A59 0x11A5B .mn, .same 0x11A5C 0x11A89 .lo,
  .same 0x11A8A 0x11A96 .mn, .same 0x11A97 0x11A97 .mc, .same 0x11A98 0x11A99 .mn,
  .same 0x11A9A 0x11A9C .po, .same 0x11A9D 0x11A9D .lo, .same 0x11A9E 0x11AA2 .po,
  .same 0x11AB0 0x11AF8 .lo, .same 0x11B00 0x11B09 .po, .same 0x11B60 0x11B60 .mn,
  .same 0x11B61 0x11B61 .mc, .same 0x11B62 0x11B64 .mn, .same 0x11B65 0x11B65 .mc,
  .same 0x11B66 0x11B66 .mn, .same 0x11B67 0x11B67 .mc, .same 0x11BC0 0x11BE0 .lo,
  .same 0x11BE1 0x11BE1 .po, .same 0x11BF0 0x11BF9 .nd, .same 0x11C00 0x11C08 .lo,
  .same 0x11C0A 0x11C2E .lo, .same 0x11C2F 0x11C2F .mc, .same 0x11C30 0x11C36 .mn,
  .same 0x11C38 0x11C3D .mn, .same 0x11C3E 0x11C3E .mc, .same 0x11C3F 0x11C3F .mn,
  .same 0x11C40 0x11C40 .lo, .same 0x11C41 0x11C45 .po, .same 0x11C50 0x11C59 .nd,
  .same 0x11C5A 0x11C6C .no, .same 0x11C70 0x11C71 .po, .same 0x11C72 0x11C8F .lo,
  .same 0x11C92 0x11CA7 .mn, .same 0x11CA9 0x11CA9 .mc, .same 0x11CAA 0x11CB0 .mn,
  .same 0x11CB1 0x11CB1 .mc, .same 0x11CB2 0x11CB3 .mn, .same 0x11CB4 0x11CB4 .mc,
  .same 0x11CB5 0x11CB6 .mn, .same 0x11D00 0x11D06 .lo, .same 0x11D08 0x11D09 .lo,
  .same 0x11D0B 0x11D30 .lo, .same 0x11D31 0x11D36 .mn, .same 0x11D3A 0x11D3A .mn,
  .same 0x11D3C 0x11D3D .mn, .same 0x11D3F 0x11D45 .mn, .same 0x11D46 0x11D46 .lo,
  .same 0x11D47 0x11D47 .mn, .same 0x11D50 0x11D59 .nd, .same 0x11D60 0x11D65 .lo,
  .same 0x11D67 0x11D68 .lo, .same 0x11D6A 0x11D89 .lo, .same 0x11D8A 0x11D8E .mc,
  .same 0x11D90 0x11D91 .mn, .same 0x11D93 0x11D94 .mc, .same 0x11D95 0x11D95 .mn,
  .same 0x11D96 0x11D96 .mc, .same 0x11D97 0x11D97 .mn, .same 0x11D98 0x11D98 .lo,
  .same 0x11DA0 0x11DA9 .nd, .same 0x11DB0 0x11DD8 .lo, .same 0x11DD9 0x11DD9 .lm,
  .same 0x11DDA 0x11DDB .lo, .same 0x11DE0 0x11DE9 .nd, .same 0x11EE0 0x11EF2 .lo,
  .same 0x11EF3 0x11EF4 .mn, .same 0x11EF5 0x11EF6 .mc, .same 0x11EF7 0x11EF8 .po,
  .same 0x11F00 0x11F01 .mn, .same 0x11F02 0x11F02 .lo, .same 0x11F03 0x11F03 .mc,
  .same 0x11F04 0x11F10 .lo, .same 0x11F12 0x11F33 .lo, .same 0x11F34 0x11F35 .mc,
  .same 0x11F36 0x11F3A .mn, .same 0x11F3E 0x11F3F .mc, .same 0x11F40 0x11F40 .mn,
  .same 0x11F41 0x11F41 .mc, .same 0x11F42 0x11F42 .mn, .same 0x11F43 0x11F4F .po,
  .same 0x11F50 0x11F59 .nd, .same 0x11F5A 0x11F5A .mn, .same 0x11FB0 0x11FB0 .lo,
  .same 0x11FC0 0x11FD4 .no, .same 0x11FD5 0x11FDC .so, .same 0x11FDD 0x11FE0 .sc,
  .same 0x11FE1 0x11FF1 .so, .same 0x11FFF 0x11FFF .po, .same 0x12000 0x12399 .lo,
  .same 0x12400 0x1246E .nl, .same 0x12470 0x12474 .po, .same 0x12480 0x12543 .lo,
  .same 0x12F90 0x12FF0 .lo, .same 0x12FF1 0x12FF2 .po, .same 0x13000 0x1342F .lo,
  .same 0x13430 0x1343F .cf, .same 0x13440 0x13440 .mn, .same 0x13441 0x13446 .lo,
  .same 0x13447 0x13455 .mn, .same 0x13460 0x143FA .lo, .same 0x14400 0x14646 .lo,
  .same 0x16100 0x1611D .lo, .same 0x1611E 0x16129 .mn, .same 0x1612A 0x1612C .mc,
  .same 0x1612D 0x1612F .mn, .same 0x16130 0x16139 .nd, .same 0x16800 0x16A38 .lo,
  .same 0x16A40 0x16A5E .lo, .same 0x16A60 0x16A69 .nd, .same 0x16A6E 0x16A6F .po,
  .same 0x16A70 0x16ABE .lo, .same 0x16AC0 0x16AC9 .nd, .same 0x16AD0 0x16AED .lo,
  .same 0x16AF0 0x16AF4 .mn, .same 0x16AF5 0x16AF5 .po, .same 0x16B00 0x16B2F .lo,
  .same 0x16B30 0x16B36 .mn, .same 0x16B37 0x16B3B .po, .same 0x16B3C 0x16B3F .so,
  .same 0x16B40 0x16B43 .lm, .same 0x16B44 0x16B44 .po, .same 0x16B45 0x16B45 .so,
  .same 0x16B50 0x16B59 .nd, .same 0x16B5B 0x16B61 .no, .same 0x16B63 0x16B77 .lo,
  .same 0x16B7D 0x16B8F .lo, .same 0x16D40 0x16D42 .lm, .same 0x16D43 0x16D6A .lo,
  .same 0x16D6B 0x16D6C .lm, .same 0x16D6D 0x16D6F .po, .same 0x16D70 0x16D79 .nd,
  .same 0x16E40 0x16E5F .lu, .same 0x16E60 0x16E7F .ll, .same 0x16E80 0x16E96 .no,
  .same 0x16E97 0x16E9A .po, .same 0x16EA0 0x16EB8 .lu, .same 0x16EBB 0x16ED3 .ll,
  .same 0x16F00 0x16F4A .lo, .same 0x16F4F 0x16F4F .mn, .same 0x16F50 0x16F50 .lo,
  .same 0x16F51 0x16F87 .mc, .same 0x16F8F 0x16F92 .mn, .same 0x16F93 0x16F9F .lm,
  .same 0x16FE0 0x16FE1 .lm, .same 0x16FE2 0x16FE2 .po, .same 0x16FE3 0x16FE3 .lm,
  .same 0x16FE4 0x16FE4 .mn, .same 0x16FF0 0x16FF1 .mc, .same 0x16FF2 0x16FF3 .lm,
  .same 0x16FF4 0x16FF6 .nl, .same 0x17000 0x18CD5 .lo, .same 0x18CFF 0x18D1E .lo,
  .same 0x18D80 0x18DF2 .lo, .same 0x1AFF0 0x1AFF3 .lm, .same 0x1AFF5 0x1AFFB .lm,
  .same 0x1AFFD 0x1AFFE .lm]

/-- All runs of this part. -/
def historic : Array Run := historicHead ++ historicTail

end InlineMarkup.Unicode.Run
