import InlineMarkup.Unicode.Category

/-!
# Categories: symbols

The general categories of the characters of the rest of the basic plane, U+2000 to U+FFFF, in
ascending order. Characters in no run are unassigned.
-/

namespace InlineMarkup.Unicode.Run

/-- Runs from U+2000 to U+2CEA. -/
def symbolsHead : Array Run := #[
  .same 0x2000 0x200A .zs, .same 0x200B 0x200F .cf, .same 0x2010 0x2015 .pd,
  .same 0x2016 0x2017 .po, .same 0x2018 0x2018 .pi, .same 0x2019 0x2019 .pf,
  .same 0x201A 0x201A .ps, .same 0x201B 0x201C .pi, .same 0x201D 0x201D .pf,
  .same 0x201E 0x201E .ps, .same 0x201F 0x201F .pi, .same 0x2020 0x2027 .po,
  .same 0x2028 0x2028 .zl, .same 0x2029 0x2029 .zp, .same 0x202A 0x202E .cf,
  .same 0x202F 0x202F .zs, .same 0x2030 0x2038 .po, .same 0x2039 0x2039 .pi,
  .same 0x203A 0x203A .pf, .same 0x203B 0x203E .po, .same 0x203F 0x2040 .pc,
  .same 0x2041 0x2043 .po, .same 0x2044 0x2044 .sm, .same 0x2045 0x2045 .ps,
  .same 0x2046 0x2046 .pe, .same 0x2047 0x2051 .po, .same 0x2052 0x2052 .sm,
  .same 0x2053 0x2053 .po, .same 0x2054 0x2054 .pc, .same 0x2055 0x205E .po,
  .same 0x205F 0x205F .zs, .same 0x2060 0x2064 .cf, .same 0x2066 0x206F .cf,
  .same 0x2070 0x2070 .no, .same 0x2071 0x2071 .lm, .same 0x2074 0x2079 .no,
  .same 0x207A 0x207C .sm, .same 0x207D 0x207D .ps, .same 0x207E 0x207E .pe,
  .same 0x207F 0x207F .lm, .same 0x2080 0x2089 .no, .same 0x208A 0x208C .sm,
  .same 0x208D 0x208D .ps, .same 0x208E 0x208E .pe, .same 0x2090 0x209C .lm,
  .same 0x20A0 0x20C1 .sc, .same 0x20D0 0x20DC .mn, .same 0x20DD 0x20E0 .me,
  .same 0x20E1 0x20E1 .mn, .same 0x20E2 0x20E4 .me, .same 0x20E5 0x20F0 .mn,
  .same 0x2100 0x2101 .so, .same 0x2102 0x2102 .lu, .same 0x2103 0x2106 .so,
  .same 0x2107 0x2107 .lu, .same 0x2108 0x2109 .so, .same 0x210A 0x210A .ll,
  .same 0x210B 0x210D .lu, .same 0x210E 0x210F .ll, .same 0x2110 0x2112 .lu,
  .same 0x2113 0x2113 .ll, .same 0x2114 0x2114 .so, .same 0x2115 0x2115 .lu,
  .same 0x2116 0x2117 .so, .same 0x2118 0x2118 .sm, .same 0x2119 0x211D .lu,
  .same 0x211E 0x2123 .so, .same 0x2124 0x2124 .lu, .same 0x2125 0x2125 .so,
  .same 0x2126 0x2126 .lu, .same 0x2127 0x2127 .so, .same 0x2128 0x2128 .lu,
  .same 0x2129 0x2129 .so, .same 0x212A 0x212D .lu, .same 0x212E 0x212E .so,
  .same 0x212F 0x212F .ll, .same 0x2130 0x2133 .lu, .same 0x2134 0x2134 .ll,
  .same 0x2135 0x2138 .lo, .same 0x2139 0x2139 .ll, .same 0x213A 0x213B .so,
  .same 0x213C 0x213D .ll, .same 0x213E 0x213F .lu, .same 0x2140 0x2144 .sm,
  .same 0x2145 0x2145 .lu, .same 0x2146 0x2149 .ll, .same 0x214A 0x214A .so,
  .same 0x214B 0x214B .sm, .same 0x214C 0x214D .so, .same 0x214E 0x214E .ll,
  .same 0x214F 0x214F .so, .same 0x2150 0x215F .no, .same 0x2160 0x2182 .nl,
  .same 0x2183 0x2183 .lu, .same 0x2184 0x2184 .ll, .same 0x2185 0x2188 .nl,
  .same 0x2189 0x2189 .no, .same 0x218A 0x218B .so, .same 0x2190 0x2194 .sm,
  .same 0x2195 0x2199 .so, .same 0x219A 0x219B .sm, .same 0x219C 0x219F .so,
  .same 0x21A0 0x21A0 .sm, .same 0x21A1 0x21A2 .so, .same 0x21A3 0x21A3 .sm,
  .same 0x21A4 0x21A5 .so, .same 0x21A6 0x21A6 .sm, .same 0x21A7 0x21AD .so,
  .same 0x21AE 0x21AE .sm, .same 0x21AF 0x21CD .so, .same 0x21CE 0x21CF .sm,
  .same 0x21D0 0x21D1 .so, .same 0x21D2 0x21D2 .sm, .same 0x21D3 0x21D3 .so,
  .same 0x21D4 0x21D4 .sm, .same 0x21D5 0x21F3 .so, .same 0x21F4 0x22FF .sm,
  .same 0x2300 0x2307 .so, .same 0x2308 0x2308 .ps, .same 0x2309 0x2309 .pe,
  .same 0x230A 0x230A .ps, .same 0x230B 0x230B .pe, .same 0x230C 0x231F .so,
  .same 0x2320 0x2321 .sm, .same 0x2322 0x2328 .so, .same 0x2329 0x2329 .ps,
  .same 0x232A 0x232A .pe, .same 0x232B 0x237B .so, .same 0x237C 0x237C .sm,
  .same 0x237D 0x239A .so, .same 0x239B 0x23B3 .sm, .same 0x23B4 0x23DB .so,
  .same 0x23DC 0x23E1 .sm, .same 0x23E2 0x2429 .so, .same 0x2440 0x244A .so,
  .same 0x2460 0x249B .no, .same 0x249C 0x24E9 .so, .same 0x24EA 0x24FF .no,
  .same 0x2500 0x25B6 .so, .same 0x25B7 0x25B7 .sm, .same 0x25B8 0x25C0 .so,
  .same 0x25C1 0x25C1 .sm, .same 0x25C2 0x25F7 .so, .same 0x25F8 0x25FF .sm,
  .same 0x2600 0x266E .so, .same 0x266F 0x266F .sm, .same 0x2670 0x2767 .so,
  .same 0x2768 0x2768 .ps, .same 0x2769 0x2769 .pe, .same 0x276A 0x276A .ps,
  .same 0x276B 0x276B .pe, .same 0x276C 0x276C .ps, .same 0x276D 0x276D .pe,
  .same 0x276E 0x276E .ps, .same 0x276F 0x276F .pe, .same 0x2770 0x2770 .ps,
  .same 0x2771 0x2771 .pe, .same 0x2772 0x2772 .ps, .same 0x2773 0x2773 .pe,
  .same 0x2774 0x2774 .ps, .same 0x2775 0x2775 .pe, .same 0x2776 0x2793 .no,
  .same 0x2794 0x27BF .so, .same 0x27C0 0x27C4 .sm, .same 0x27C5 0x27C5 .ps,
  .same 0x27C6 0x27C6 .pe, .same 0x27C7 0x27E5 .sm, .same 0x27E6 0x27E6 .ps,
  .same 0x27E7 0x27E7 .pe, .same 0x27E8 0x27E8 .ps, .same 0x27E9 0x27E9 .pe,
  .same 0x27EA 0x27EA .ps, .same 0x27EB 0x27EB .pe, .same 0x27EC 0x27EC .ps,
  .same 0x27ED 0x27ED .pe, .same 0x27EE 0x27EE .ps, .same 0x27EF 0x27EF .pe,
  .same 0x27F0 0x27FF .sm, .same 0x2800 0x28FF .so, .same 0x2900 0x2982 .sm,
  .same 0x2983 0x2983 .ps, .same 0x2984 0x2984 .pe, .same 0x2985 0x2985 .ps,
  .same 0x2986 0x2986 .pe, .same 0x2987 0x2987 .ps, .same 0x2988 0x2988 .pe,
  .same 0x2989 0x2989 .ps, .same 0x298A 0x298A .pe, .same 0x298B 0x298B .ps,
  .same 0x298C 0x298C .pe, .same 0x298D 0x298D .ps, .same 0x298E 0x298E .pe,
  .same 0x298F 0x298F .ps, .same 0x2990 0x2990 .pe, .same 0x2991 0x2991 .ps,
  .same 0x2992 0x2992 .pe, .same 0x2993 0x2993 .ps, .same 0x2994 0x2994 .pe,
  .same 0x2995 0x2995 .ps, .same 0x2996 0x2996 .pe, .same 0x2997 0x2997 .ps,
  .same 0x2998 0x2998 .pe, .same 0x2999 0x29D7 .sm, .same 0x29D8 0x29D8 .ps,
  .same 0x29D9 0x29D9 .pe, .same 0x29DA 0x29DA .ps, .same 0x29DB 0x29DB .pe,
  .same 0x29DC 0x29FB .sm, .same 0x29FC 0x29FC .ps, .same 0x29FD 0x29FD .pe,
  .same 0x29FE 0x2AFF .sm, .same 0x2B00 0x2B2F .so, .same 0x2B30 0x2B44 .sm,
  .same 0x2B45 0x2B46 .so, .same 0x2B47 0x2B4C .sm, .same 0x2B4D 0x2B73 .so,
  .same 0x2B76 0x2BFF .so, .same 0x2C00 0x2C2F .lu, .same 0x2C30 0x2C5F .ll,
  .same 0x2C60 0x2C60 .lu, .same 0x2C61 0x2C61 .ll, .same 0x2C62 0x2C64 .lu,
  .same 0x2C65 0x2C66 .ll, .cased 0x2C67 0x2C6C, .same 0x2C6D 0x2C6F .lu, .cased 0x2C70 0x2C73,
  .same 0x2C74 0x2C74 .ll, .same 0x2C75 0x2C75 .lu, .same 0x2C76 0x2C7B .ll,
  .same 0x2C7C 0x2C7D .lm, .same 0x2C7E 0x2C7F .lu, .cased 0x2C80 0x2CE3, .same 0x2CE4 0x2CE4 .ll,
  .same 0x2CE5 0x2CEA .so]

/-- Runs from U+2CEB to U+A8D9. -/
def symbolsMiddle : Array Run := #[
  .cased 0x2CEB 0x2CEE, .same 0x2CEF 0x2CF1 .mn, .same 0x2CF2 0x2CF2 .lu, .same 0x2CF3 0x2CF3 .ll,
  .same 0x2CF9 0x2CFC .po, .same 0x2CFD 0x2CFD .no, .same 0x2CFE 0x2CFF .po,
  .same 0x2D00 0x2D25 .ll, .same 0x2D27 0x2D27 .ll, .same 0x2D2D 0x2D2D .ll,
  .same 0x2D30 0x2D67 .lo, .same 0x2D6F 0x2D6F .lm, .same 0x2D70 0x2D70 .po,
  .same 0x2D7F 0x2D7F .mn, .same 0x2D80 0x2D96 .lo, .same 0x2DA0 0x2DA6 .lo,
  .same 0x2DA8 0x2DAE .lo, .same 0x2DB0 0x2DB6 .lo, .same 0x2DB8 0x2DBE .lo,
  .same 0x2DC0 0x2DC6 .lo, .same 0x2DC8 0x2DCE .lo, .same 0x2DD0 0x2DD6 .lo,
  .same 0x2DD8 0x2DDE .lo, .same 0x2DE0 0x2DFF .mn, .same 0x2E00 0x2E01 .po,
  .same 0x2E02 0x2E02 .pi, .same 0x2E03 0x2E03 .pf, .same 0x2E04 0x2E04 .pi,
  .same 0x2E05 0x2E05 .pf, .same 0x2E06 0x2E08 .po, .same 0x2E09 0x2E09 .pi,
  .same 0x2E0A 0x2E0A .pf, .same 0x2E0B 0x2E0B .po, .same 0x2E0C 0x2E0C .pi,
  .same 0x2E0D 0x2E0D .pf, .same 0x2E0E 0x2E16 .po, .same 0x2E17 0x2E17 .pd,
  .same 0x2E18 0x2E19 .po, .same 0x2E1A 0x2E1A .pd, .same 0x2E1B 0x2E1B .po,
  .same 0x2E1C 0x2E1C .pi, .same 0x2E1D 0x2E1D .pf, .same 0x2E1E 0x2E1F .po,
  .same 0x2E20 0x2E20 .pi, .same 0x2E21 0x2E21 .pf, .same 0x2E22 0x2E22 .ps,
  .same 0x2E23 0x2E23 .pe, .same 0x2E24 0x2E24 .ps, .same 0x2E25 0x2E25 .pe,
  .same 0x2E26 0x2E26 .ps, .same 0x2E27 0x2E27 .pe, .same 0x2E28 0x2E28 .ps,
  .same 0x2E29 0x2E29 .pe, .same 0x2E2A 0x2E2E .po, .same 0x2E2F 0x2E2F .lm,
  .same 0x2E30 0x2E39 .po, .same 0x2E3A 0x2E3B .pd, .same 0x2E3C 0x2E3F .po,
  .same 0x2E40 0x2E40 .pd, .same 0x2E41 0x2E41 .po, .same 0x2E42 0x2E42 .ps,
  .same 0x2E43 0x2E4F .po, .same 0x2E50 0x2E51 .so, .same 0x2E52 0x2E54 .po,
  .same 0x2E55 0x2E55 .ps, .same 0x2E56 0x2E56 .pe, .same 0x2E57 0x2E57 .ps,
  .same 0x2E58 0x2E58 .pe, .same 0x2E59 0x2E59 .ps, .same 0x2E5A 0x2E5A .pe,
  .same 0x2E5B 0x2E5B .ps, .same 0x2E5C 0x2E5C .pe, .same 0x2E5D 0x2E5D .pd,
  .same 0x2E80 0x2E99 .so, .same 0x2E9B 0x2EF3 .so, .same 0x2F00 0x2FD5 .so,
  .same 0x2FF0 0x2FFF .so, .same 0x3000 0x3000 .zs, .same 0x3001 0x3003 .po,
  .same 0x3004 0x3004 .so, .same 0x3005 0x3005 .lm, .same 0x3006 0x3006 .lo,
  .same 0x3007 0x3007 .nl, .same 0x3008 0x3008 .ps, .same 0x3009 0x3009 .pe,
  .same 0x300A 0x300A .ps, .same 0x300B 0x300B .pe, .same 0x300C 0x300C .ps,
  .same 0x300D 0x300D .pe, .same 0x300E 0x300E .ps, .same 0x300F 0x300F .pe,
  .same 0x3010 0x3010 .ps, .same 0x3011 0x3011 .pe, .same 0x3012 0x3013 .so,
  .same 0x3014 0x3014 .ps, .same 0x3015 0x3015 .pe, .same 0x3016 0x3016 .ps,
  .same 0x3017 0x3017 .pe, .same 0x3018 0x3018 .ps, .same 0x3019 0x3019 .pe,
  .same 0x301A 0x301A .ps, .same 0x301B 0x301B .pe, .same 0x301C 0x301C .pd,
  .same 0x301D 0x301D .ps, .same 0x301E 0x301F .pe, .same 0x3020 0x3020 .so,
  .same 0x3021 0x3029 .nl, .same 0x302A 0x302D .mn, .same 0x302E 0x302F .mc,
  .same 0x3030 0x3030 .pd, .same 0x3031 0x3035 .lm, .same 0x3036 0x3037 .so,
  .same 0x3038 0x303A .nl, .same 0x303B 0x303B .lm, .same 0x303C 0x303C .lo,
  .same 0x303D 0x303D .po, .same 0x303E 0x303F .so, .same 0x3041 0x3096 .lo,
  .same 0x3099 0x309A .mn, .same 0x309B 0x309C .sk, .same 0x309D 0x309E .lm,
  .same 0x309F 0x309F .lo, .same 0x30A0 0x30A0 .pd, .same 0x30A1 0x30FA .lo,
  .same 0x30FB 0x30FB .po, .same 0x30FC 0x30FE .lm, .same 0x30FF 0x30FF .lo,
  .same 0x3105 0x312F .lo, .same 0x3131 0x318E .lo, .same 0x3190 0x3191 .so,
  .same 0x3192 0x3195 .no, .same 0x3196 0x319F .so, .same 0x31A0 0x31BF .lo,
  .same 0x31C0 0x31E5 .so, .same 0x31EF 0x31EF .so, .same 0x31F0 0x31FF .lo,
  .same 0x3200 0x321E .so, .same 0x3220 0x3229 .no, .same 0x322A 0x3247 .so,
  .same 0x3248 0x324F .no, .same 0x3250 0x3250 .so, .same 0x3251 0x325F .no,
  .same 0x3260 0x327F .so, .same 0x3280 0x3289 .no, .same 0x328A 0x32B0 .so,
  .same 0x32B1 0x32BF .no, .same 0x32C0 0x33FF .so, .same 0x3400 0x4DBF .lo,
  .same 0x4DC0 0x4DFF .so, .same 0x4E00 0xA014 .lo, .same 0xA015 0xA015 .lm,
  .same 0xA016 0xA48C .lo, .same 0xA490 0xA4C6 .so, .same 0xA4D0 0xA4F7 .lo,
  .same 0xA4F8 0xA4FD .lm, .same 0xA4FE 0xA4FF .po, .same 0xA500 0xA60B .lo,
  .same 0xA60C 0xA60C .lm, .same 0xA60D 0xA60F .po, .same 0xA610 0xA61F .lo,
  .same 0xA620 0xA629 .nd, .same 0xA62A 0xA62B .lo, .cased 0xA640 0xA66D, .same 0xA66E 0xA66E .lo,
  .same 0xA66F 0xA66F .mn, .same 0xA670 0xA672 .me, .same 0xA673 0xA673 .po,
  .same 0xA674 0xA67D .mn, .same 0xA67E 0xA67E .po, .same 0xA67F 0xA67F .lm, .cased 0xA680 0xA69B,
  .same 0xA69C 0xA69D .lm, .same 0xA69E 0xA69F .mn, .same 0xA6A0 0xA6E5 .lo,
  .same 0xA6E6 0xA6EF .nl, .same 0xA6F0 0xA6F1 .mn, .same 0xA6F2 0xA6F7 .po,
  .same 0xA700 0xA716 .sk, .same 0xA717 0xA71F .lm, .same 0xA720 0xA721 .sk, .cased 0xA722 0xA72F,
  .same 0xA730 0xA731 .ll, .cased 0xA732 0xA76F, .same 0xA770 0xA770 .lm, .same 0xA771 0xA778 .ll,
  .cased 0xA779 0xA77C, .same 0xA77D 0xA77D .lu, .cased 0xA77E 0xA787, .same 0xA788 0xA788 .lm,
  .same 0xA789 0xA78A .sk, .cased 0xA78B 0xA78E, .same 0xA78F 0xA78F .lo, .cased 0xA790 0xA793,
  .same 0xA794 0xA795 .ll, .cased 0xA796 0xA7A9, .same 0xA7AA 0xA7AE .lu, .same 0xA7AF 0xA7AF .ll,
  .same 0xA7B0 0xA7B3 .lu, .cased 0xA7B4 0xA7C3, .same 0xA7C4 0xA7C6 .lu, .cased 0xA7C7 0xA7CA,
  .same 0xA7CB 0xA7CB .lu, .cased 0xA7CC 0xA7DB, .same 0xA7DC 0xA7DC .lu, .same 0xA7F1 0xA7F4 .lm,
  .same 0xA7F5 0xA7F5 .lu, .same 0xA7F6 0xA7F6 .ll, .same 0xA7F7 0xA7F7 .lo,
  .same 0xA7F8 0xA7F9 .lm, .same 0xA7FA 0xA7FA .ll, .same 0xA7FB 0xA801 .lo,
  .same 0xA802 0xA802 .mn, .same 0xA803 0xA805 .lo, .same 0xA806 0xA806 .mn,
  .same 0xA807 0xA80A .lo, .same 0xA80B 0xA80B .mn, .same 0xA80C 0xA822 .lo,
  .same 0xA823 0xA824 .mc, .same 0xA825 0xA826 .mn, .same 0xA827 0xA827 .mc,
  .same 0xA828 0xA82B .so, .same 0xA82C 0xA82C .mn, .same 0xA830 0xA835 .no,
  .same 0xA836 0xA837 .so, .same 0xA838 0xA838 .sc, .same 0xA839 0xA839 .so,
  .same 0xA840 0xA873 .lo, .same 0xA874 0xA877 .po, .same 0xA880 0xA881 .mc,
  .same 0xA882 0xA8B3 .lo, .same 0xA8B4 0xA8C3 .mc, .same 0xA8C4 0xA8C5 .mn,
  .same 0xA8CE 0xA8CF .po, .same 0xA8D0 0xA8D9 .nd]

/-- Runs from U+A8E0 to U+FFFD. -/
def symbolsTail : Array Run := #[
  .same 0xA8E0 0xA8F1 .mn, .same 0xA8F2 0xA8F7 .lo, .same 0xA8F8 0xA8FA .po,
  .same 0xA8FB 0xA8FB .lo, .same 0xA8FC 0xA8FC .po, .same 0xA8FD 0xA8FE .lo,
  .same 0xA8FF 0xA8FF .mn, .same 0xA900 0xA909 .nd, .same 0xA90A 0xA925 .lo,
  .same 0xA926 0xA92D .mn, .same 0xA92E 0xA92F .po, .same 0xA930 0xA946 .lo,
  .same 0xA947 0xA951 .mn, .same 0xA952 0xA953 .mc, .same 0xA95F 0xA95F .po,
  .same 0xA960 0xA97C .lo, .same 0xA980 0xA982 .mn, .same 0xA983 0xA983 .mc,
  .same 0xA984 0xA9B2 .lo, .same 0xA9B3 0xA9B3 .mn, .same 0xA9B4 0xA9B5 .mc,
  .same 0xA9B6 0xA9B9 .mn, .same 0xA9BA 0xA9BB .mc, .same 0xA9BC 0xA9BD .mn,
  .same 0xA9BE 0xA9C0 .mc, .same 0xA9C1 0xA9CD .po, .same 0xA9CF 0xA9CF .lm,
  .same 0xA9D0 0xA9D9 .nd, .same 0xA9DE 0xA9DF .po, .same 0xA9E0 0xA9E4 .lo,
  .same 0xA9E5 0xA9E5 .mn, .same 0xA9E6 0xA9E6 .lm, .same 0xA9E7 0xA9EF .lo,
  .same 0xA9F0 0xA9F9 .nd, .same 0xA9FA 0xA9FE .lo, .same 0xAA00 0xAA28 .lo,
  .same 0xAA29 0xAA2E .mn, .same 0xAA2F 0xAA30 .mc, .same 0xAA31 0xAA32 .mn,
  .same 0xAA33 0xAA34 .mc, .same 0xAA35 0xAA36 .mn, .same 0xAA40 0xAA42 .lo,
  .same 0xAA43 0xAA43 .mn, .same 0xAA44 0xAA4B .lo, .same 0xAA4C 0xAA4C .mn,
  .same 0xAA4D 0xAA4D .mc, .same 0xAA50 0xAA59 .nd, .same 0xAA5C 0xAA5F .po,
  .same 0xAA60 0xAA6F .lo, .same 0xAA70 0xAA70 .lm, .same 0xAA71 0xAA76 .lo,
  .same 0xAA77 0xAA79 .so, .same 0xAA7A 0xAA7A .lo, .same 0xAA7B 0xAA7B .mc,
  .same 0xAA7C 0xAA7C .mn, .same 0xAA7D 0xAA7D .mc, .same 0xAA7E 0xAAAF .lo,
  .same 0xAAB0 0xAAB0 .mn, .same 0xAAB1 0xAAB1 .lo, .same 0xAAB2 0xAAB4 .mn,
  .same 0xAAB5 0xAAB6 .lo, .same 0xAAB7 0xAAB8 .mn, .same 0xAAB9 0xAABD .lo,
  .same 0xAABE 0xAABF .mn, .same 0xAAC0 0xAAC0 .lo, .same 0xAAC1 0xAAC1 .mn,
  .same 0xAAC2 0xAAC2 .lo, .same 0xAADB 0xAADC .lo, .same 0xAADD 0xAADD .lm,
  .same 0xAADE 0xAADF .po, .same 0xAAE0 0xAAEA .lo, .same 0xAAEB 0xAAEB .mc,
  .same 0xAAEC 0xAAED .mn, .same 0xAAEE 0xAAEF .mc, .same 0xAAF0 0xAAF1 .po,
  .same 0xAAF2 0xAAF2 .lo, .same 0xAAF3 0xAAF4 .lm, .same 0xAAF5 0xAAF5 .mc,
  .same 0xAAF6 0xAAF6 .mn, .same 0xAB01 0xAB06 .lo, .same 0xAB09 0xAB0E .lo,
  .same 0xAB11 0xAB16 .lo, .same 0xAB20 0xAB26 .lo, .same 0xAB28 0xAB2E .lo,
  .same 0xAB30 0xAB5A .ll, .same 0xAB5B 0xAB5B .sk, .same 0xAB5C 0xAB5F .lm,
  .same 0xAB60 0xAB68 .ll, .same 0xAB69 0xAB69 .lm, .same 0xAB6A 0xAB6B .sk,
  .same 0xAB70 0xABBF .ll, .same 0xABC0 0xABE2 .lo, .same 0xABE3 0xABE4 .mc,
  .same 0xABE5 0xABE5 .mn, .same 0xABE6 0xABE7 .mc, .same 0xABE8 0xABE8 .mn,
  .same 0xABE9 0xABEA .mc, .same 0xABEB 0xABEB .po, .same 0xABEC 0xABEC .mc,
  .same 0xABED 0xABED .mn, .same 0xABF0 0xABF9 .nd, .same 0xAC00 0xD7A3 .lo,
  .same 0xD7B0 0xD7C6 .lo, .same 0xD7CB 0xD7FB .lo, .same 0xE000 0xF8FF .co,
  .same 0xF900 0xFA6D .lo, .same 0xFA70 0xFAD9 .lo, .same 0xFB00 0xFB06 .ll,
  .same 0xFB13 0xFB17 .ll, .same 0xFB1D 0xFB1D .lo, .same 0xFB1E 0xFB1E .mn,
  .same 0xFB1F 0xFB28 .lo, .same 0xFB29 0xFB29 .sm, .same 0xFB2A 0xFB36 .lo,
  .same 0xFB38 0xFB3C .lo, .same 0xFB3E 0xFB3E .lo, .same 0xFB40 0xFB41 .lo,
  .same 0xFB43 0xFB44 .lo, .same 0xFB46 0xFBB1 .lo, .same 0xFBB2 0xFBC2 .sk,
  .same 0xFBC3 0xFBD2 .so, .same 0xFBD3 0xFD3D .lo, .same 0xFD3E 0xFD3E .pe,
  .same 0xFD3F 0xFD3F .ps, .same 0xFD40 0xFD4F .so, .same 0xFD50 0xFD8F .lo,
  .same 0xFD90 0xFD91 .so, .same 0xFD92 0xFDC7 .lo, .same 0xFDC8 0xFDCF .so,
  .same 0xFDF0 0xFDFB .lo, .same 0xFDFC 0xFDFC .sc, .same 0xFDFD 0xFDFF .so,
  .same 0xFE00 0xFE0F .mn, .same 0xFE10 0xFE16 .po, .same 0xFE17 0xFE17 .ps,
  .same 0xFE18 0xFE18 .pe, .same 0xFE19 0xFE19 .po, .same 0xFE20 0xFE2F .mn,
  .same 0xFE30 0xFE30 .po, .same 0xFE31 0xFE32 .pd, .same 0xFE33 0xFE34 .pc,
  .same 0xFE35 0xFE35 .ps, .same 0xFE36 0xFE36 .pe, .same 0xFE37 0xFE37 .ps,
  .same 0xFE38 0xFE38 .pe, .same 0xFE39 0xFE39 .ps, .same 0xFE3A 0xFE3A .pe,
  .same 0xFE3B 0xFE3B .ps, .same 0xFE3C 0xFE3C .pe, .same 0xFE3D 0xFE3D .ps,
  .same 0xFE3E 0xFE3E .pe, .same 0xFE3F 0xFE3F .ps, .same 0xFE40 0xFE40 .pe,
  .same 0xFE41 0xFE41 .ps, .same 0xFE42 0xFE42 .pe, .same 0xFE43 0xFE43 .ps,
  .same 0xFE44 0xFE44 .pe, .same 0xFE45 0xFE46 .po, .same 0xFE47 0xFE47 .ps,
  .same 0xFE48 0xFE48 .pe, .same 0xFE49 0xFE4C .po, .same 0xFE4D 0xFE4F .pc,
  .same 0xFE50 0xFE52 .po, .same 0xFE54 0xFE57 .po, .same 0xFE58 0xFE58 .pd,
  .same 0xFE59 0xFE59 .ps, .same 0xFE5A 0xFE5A .pe, .same 0xFE5B 0xFE5B .ps,
  .same 0xFE5C 0xFE5C .pe, .same 0xFE5D 0xFE5D .ps, .same 0xFE5E 0xFE5E .pe,
  .same 0xFE5F 0xFE61 .po, .same 0xFE62 0xFE62 .sm, .same 0xFE63 0xFE63 .pd,
  .same 0xFE64 0xFE66 .sm, .same 0xFE68 0xFE68 .po, .same 0xFE69 0xFE69 .sc,
  .same 0xFE6A 0xFE6B .po, .same 0xFE70 0xFE74 .lo, .same 0xFE76 0xFEFC .lo,
  .same 0xFEFF 0xFEFF .cf, .same 0xFF01 0xFF03 .po, .same 0xFF04 0xFF04 .sc,
  .same 0xFF05 0xFF07 .po, .same 0xFF08 0xFF08 .ps, .same 0xFF09 0xFF09 .pe,
  .same 0xFF0A 0xFF0A .po, .same 0xFF0B 0xFF0B .sm, .same 0xFF0C 0xFF0C .po,
  .same 0xFF0D 0xFF0D .pd, .same 0xFF0E 0xFF0F .po, .same 0xFF10 0xFF19 .nd,
  .same 0xFF1A 0xFF1B .po, .same 0xFF1C 0xFF1E .sm, .same 0xFF1F 0xFF20 .po,
  .same 0xFF21 0xFF3A .lu, .same 0xFF3B 0xFF3B .ps, .same 0xFF3C 0xFF3C .po,
  .same 0xFF3D 0xFF3D .pe, .same 0xFF3E 0xFF3E .sk, .same 0xFF3F 0xFF3F .pc,
  .same 0xFF40 0xFF40 .sk, .same 0xFF41 0xFF5A .ll, .same 0xFF5B 0xFF5B .ps,
  .same 0xFF5C 0xFF5C .sm, .same 0xFF5D 0xFF5D .pe, .same 0xFF5E 0xFF5E .sm,
  .same 0xFF5F 0xFF5F .ps, .same 0xFF60 0xFF60 .pe, .same 0xFF61 0xFF61 .po,
  .same 0xFF62 0xFF62 .ps, .same 0xFF63 0xFF63 .pe, .same 0xFF64 0xFF65 .po,
  .same 0xFF66 0xFF6F .lo, .same 0xFF70 0xFF70 .lm, .same 0xFF71 0xFF9D .lo,
  .same 0xFF9E 0xFF9F .lm, .same 0xFFA0 0xFFBE .lo, .same 0xFFC2 0xFFC7 .lo,
  .same 0xFFCA 0xFFCF .lo, .same 0xFFD2 0xFFD7 .lo, .same 0xFFDA 0xFFDC .lo,
  .same 0xFFE0 0xFFE1 .sc, .same 0xFFE2 0xFFE2 .sm, .same 0xFFE3 0xFFE3 .sk,
  .same 0xFFE4 0xFFE4 .so, .same 0xFFE5 0xFFE6 .sc, .same 0xFFE8 0xFFE8 .so,
  .same 0xFFE9 0xFFEC .sm, .same 0xFFED 0xFFEE .so, .same 0xFFF9 0xFFFB .cf,
  .same 0xFFFC 0xFFFD .so]

/-- All runs of this part. -/
def symbols : Array Run := symbolsHead ++ symbolsMiddle ++ symbolsTail

end InlineMarkup.Unicode.Run
