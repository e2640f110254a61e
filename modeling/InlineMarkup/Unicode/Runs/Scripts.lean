import InlineMarkup.Unicode.Category

/-!
# Categories: scripts

The general categories of the characters of the first half of the scripts of the basic plane, up to
U+1FFF, in ascending order. Characters in no run are unassigned.
-/

namespace InlineMarkup.Unicode.Run

/-- Runs from U+0000 to U+094F. -/
def scriptsHead : Array Run := #[
  .same 0x0000 0x001F .cc, .same 0x0020 0x0020 .zs, .same 0x0021 0x0023 .po,
  .same 0x0024 0x0024 .sc, .same 0x0025 0x0027 .po, .same 0x0028 0x0028 .ps,
  .same 0x0029 0x0029 .pe, .same 0x002A 0x002A .po, .same 0x002B 0x002B .sm,
  .same 0x002C 0x002C .po, .same 0x002D 0x002D .pd, .same 0x002E 0x002F .po,
  .same 0x0030 0x0039 .nd, .same 0x003A 0x003B .po, .same 0x003C 0x003E .sm,
  .same 0x003F 0x0040 .po, .same 0x0041 0x005A .lu, .same 0x005B 0x005B .ps,
  .same 0x005C 0x005C .po, .same 0x005D 0x005D .pe, .same 0x005E 0x005E .sk,
  .same 0x005F 0x005F .pc, .same 0x0060 0x0060 .sk, .same 0x0061 0x007A .ll,
  .same 0x007B 0x007B .ps, .same 0x007C 0x007C .sm, .same 0x007D 0x007D .pe,
  .same 0x007E 0x007E .sm, .same 0x007F 0x009F .cc, .same 0x00A0 0x00A0 .zs,
  .same 0x00A1 0x00A1 .po, .same 0x00A2 0x00A5 .sc, .same 0x00A6 0x00A6 .so,
  .same 0x00A7 0x00A7 .po, .same 0x00A8 0x00A8 .sk, .same 0x00A9 0x00A9 .so,
  .same 0x00AA 0x00AA .lo, .same 0x00AB 0x00AB .pi, .same 0x00AC 0x00AC .sm,
  .same 0x00AD 0x00AD .cf, .same 0x00AE 0x00AE .so, .same 0x00AF 0x00AF .sk,
  .same 0x00B0 0x00B0 .so, .same 0x00B1 0x00B1 .sm, .same 0x00B2 0x00B3 .no,
  .same 0x00B4 0x00B4 .sk, .same 0x00B5 0x00B5 .ll, .same 0x00B6 0x00B7 .po,
  .same 0x00B8 0x00B8 .sk, .same 0x00B9 0x00B9 .no, .same 0x00BA 0x00BA .lo,
  .same 0x00BB 0x00BB .pf, .same 0x00BC 0x00BE .no, .same 0x00BF 0x00BF .po,
  .same 0x00C0 0x00D6 .lu, .same 0x00D7 0x00D7 .sm, .same 0x00D8 0x00DE .lu,
  .same 0x00DF 0x00F6 .ll, .same 0x00F7 0x00F7 .sm, .same 0x00F8 0x00FF .ll, .cased 0x0100 0x0137,
  .same 0x0138 0x0138 .ll, .cased 0x0139 0x0148, .same 0x0149 0x0149 .ll, .cased 0x014A 0x0177,
  .same 0x0178 0x0178 .lu, .cased 0x0179 0x017E, .same 0x017F 0x0180 .ll, .same 0x0181 0x0181 .lu,
  .cased 0x0182 0x0185, .same 0x0186 0x0187 .lu, .same 0x0188 0x0188 .ll, .same 0x0189 0x018B .lu,
  .same 0x018C 0x018D .ll, .same 0x018E 0x0191 .lu, .same 0x0192 0x0192 .ll,
  .same 0x0193 0x0194 .lu, .same 0x0195 0x0195 .ll, .same 0x0196 0x0198 .lu,
  .same 0x0199 0x019B .ll, .same 0x019C 0x019D .lu, .same 0x019E 0x019E .ll,
  .same 0x019F 0x019F .lu, .cased 0x01A0 0x01A5, .same 0x01A6 0x01A6 .lu, .cased 0x01A7 0x01AA,
  .same 0x01AB 0x01AB .ll, .same 0x01AC 0x01AC .lu, .same 0x01AD 0x01AD .ll,
  .same 0x01AE 0x01AF .lu, .same 0x01B0 0x01B0 .ll, .same 0x01B1 0x01B2 .lu, .cased 0x01B3 0x01B6,
  .same 0x01B7 0x01B8 .lu, .same 0x01B9 0x01BA .ll, .same 0x01BB 0x01BB .lo,
  .same 0x01BC 0x01BC .lu, .same 0x01BD 0x01BF .ll, .same 0x01C0 0x01C3 .lo,
  .same 0x01C4 0x01C4 .lu, .same 0x01C5 0x01C5 .lt, .same 0x01C6 0x01C6 .ll,
  .same 0x01C7 0x01C7 .lu, .same 0x01C8 0x01C8 .lt, .same 0x01C9 0x01C9 .ll,
  .same 0x01CA 0x01CA .lu, .same 0x01CB 0x01CB .lt, .same 0x01CC 0x01CC .ll, .cased 0x01CD 0x01DC,
  .same 0x01DD 0x01DD .ll, .cased 0x01DE 0x01EF, .same 0x01F0 0x01F0 .ll, .same 0x01F1 0x01F1 .lu,
  .same 0x01F2 0x01F2 .lt, .same 0x01F3 0x01F3 .ll, .same 0x01F4 0x01F4 .lu,
  .same 0x01F5 0x01F5 .ll, .same 0x01F6 0x01F7 .lu, .cased 0x01F8 0x0233, .same 0x0234 0x0239 .ll,
  .same 0x023A 0x023B .lu, .same 0x023C 0x023C .ll, .same 0x023D 0x023E .lu,
  .same 0x023F 0x0240 .ll, .same 0x0241 0x0241 .lu, .same 0x0242 0x0242 .ll,
  .same 0x0243 0x0245 .lu, .cased 0x0246 0x024F, .same 0x0250 0x0293 .ll, .same 0x0294 0x0295 .lo,
  .same 0x0296 0x02AF .ll, .same 0x02B0 0x02C1 .lm, .same 0x02C2 0x02C5 .sk,
  .same 0x02C6 0x02D1 .lm, .same 0x02D2 0x02DF .sk, .same 0x02E0 0x02E4 .lm,
  .same 0x02E5 0x02EB .sk, .same 0x02EC 0x02EC .lm, .same 0x02ED 0x02ED .sk,
  .same 0x02EE 0x02EE .lm, .same 0x02EF 0x02FF .sk, .same 0x0300 0x036F .mn, .cased 0x0370 0x0373,
  .same 0x0374 0x0374 .lm, .same 0x0375 0x0375 .sk, .same 0x0376 0x0376 .lu,
  .same 0x0377 0x0377 .ll, .same 0x037A 0x037A .lm, .same 0x037B 0x037D .ll,
  .same 0x037E 0x037E .po, .same 0x037F 0x037F .lu, .same 0x0384 0x0385 .sk,
  .same 0x0386 0x0386 .lu, .same 0x0387 0x0387 .po, .same 0x0388 0x038A .lu,
  .same 0x038C 0x038C .lu, .same 0x038E 0x038F .lu, .same 0x0390 0x0390 .ll,
  .same 0x0391 0x03A1 .lu, .same 0x03A3 0x03AB .lu, .same 0x03AC 0x03CE .ll,
  .same 0x03CF 0x03CF .lu, .same 0x03D0 0x03D1 .ll, .same 0x03D2 0x03D4 .lu,
  .same 0x03D5 0x03D7 .ll, .cased 0x03D8 0x03EF, .same 0x03F0 0x03F3 .ll, .same 0x03F4 0x03F4 .lu,
  .same 0x03F5 0x03F5 .ll, .same 0x03F6 0x03F6 .sm, .same 0x03F7 0x03F7 .lu,
  .same 0x03F8 0x03F8 .ll, .same 0x03F9 0x03FA .lu, .same 0x03FB 0x03FC .ll,
  .same 0x03FD 0x042F .lu, .same 0x0430 0x045F .ll, .cased 0x0460 0x0481, .same 0x0482 0x0482 .so,
  .same 0x0483 0x0487 .mn, .same 0x0488 0x0489 .me, .cased 0x048A 0x04BF, .same 0x04C0 0x04C0 .lu,
  .cased 0x04C1 0x04CE, .same 0x04CF 0x04CF .ll, .cased 0x04D0 0x052F, .same 0x0531 0x0556 .lu,
  .same 0x0559 0x0559 .lm, .same 0x055A 0x055F .po, .same 0x0560 0x0588 .ll,
  .same 0x0589 0x0589 .po, .same 0x058A 0x058A .pd, .same 0x058D 0x058E .so,
  .same 0x058F 0x058F .sc, .same 0x0591 0x05BD .mn, .same 0x05BE 0x05BE .pd,
  .same 0x05BF 0x05BF .mn, .same 0x05C0 0x05C0 .po, .same 0x05C1 0x05C2 .mn,
  .same 0x05C3 0x05C3 .po, .same 0x05C4 0x05C5 .mn, .same 0x05C6 0x05C6 .po,
  .same 0x05C7 0x05C7 .mn, .same 0x05D0 0x05EA .lo, .same 0x05EF 0x05F2 .lo,
  .same 0x05F3 0x05F4 .po, .same 0x0600 0x0605 .cf, .same 0x0606 0x0608 .sm,
  .same 0x0609 0x060A .po, .same 0x060B 0x060B .sc, .same 0x060C 0x060D .po,
  .same 0x060E 0x060F .so, .same 0x0610 0x061A .mn, .same 0x061B 0x061B .po,
  .same 0x061C 0x061C .cf, .same 0x061D 0x061F .po, .same 0x0620 0x063F .lo,
  .same 0x0640 0x0640 .lm, .same 0x0641 0x064A .lo, .same 0x064B 0x065F .mn,
  .same 0x0660 0x0669 .nd, .same 0x066A 0x066D .po, .same 0x066E 0x066F .lo,
  .same 0x0670 0x0670 .mn, .same 0x0671 0x06D3 .lo, .same 0x06D4 0x06D4 .po,
  .same 0x06D5 0x06D5 .lo, .same 0x06D6 0x06DC .mn, .same 0x06DD 0x06DD .cf,
  .same 0x06DE 0x06DE .so, .same 0x06DF 0x06E4 .mn, .same 0x06E5 0x06E6 .lm,
  .same 0x06E7 0x06E8 .mn, .same 0x06E9 0x06E9 .so, .same 0x06EA 0x06ED .mn,
  .same 0x06EE 0x06EF .lo, .same 0x06F0 0x06F9 .nd, .same 0x06FA 0x06FC .lo,
  .same 0x06FD 0x06FE .so, .same 0x06FF 0x06FF .lo, .same 0x0700 0x070D .po,
  .same 0x070F 0x070F .cf, .same 0x0710 0x0710 .lo, .same 0x0711 0x0711 .mn,
  .same 0x0712 0x072F .lo, .same 0x0730 0x074A .mn, .same 0x074D 0x07A5 .lo,
  .same 0x07A6 0x07B0 .mn, .same 0x07B1 0x07B1 .lo, .same 0x07C0 0x07C9 .nd,
  .same 0x07CA 0x07EA .lo, .same 0x07EB 0x07F3 .mn, .same 0x07F4 0x07F5 .lm,
  .same 0x07F6 0x07F6 .so, .same 0x07F7 0x07F9 .po, .same 0x07FA 0x07FA .lm,
  .same 0x07FD 0x07FD .mn, .same 0x07FE 0x07FF .sc, .same 0x0800 0x0815 .lo,
  .same 0x0816 0x0819 .mn, .same 0x081A 0x081A .lm, .same 0x081B 0x0823 .mn,
  .same 0x0824 0x0824 .lm, .same 0x0825 0x0827 .mn, .same 0x0828 0x0828 .lm,
  .same 0x0829 0x082D .mn, .same 0x0830 0x083E .po, .same 0x0840 0x0858 .lo,
  .same 0x0859 0x085B .mn, .same 0x085E 0x085E .po, .same 0x0860 0x086A .lo,
  .same 0x0870 0x0887 .lo, .same 0x0888 0x0888 .sk, .same 0x0889 0x088F .lo,
  .same 0x0890 0x0891 .cf, .same 0x0897 0x089F .mn, .same 0x08A0 0x08C8 .lo,
  .same 0x08C9 0x08C9 .lm, .same 0x08CA 0x08E1 .mn, .same 0x08E2 0x08E2 .cf,
  .same 0x08E3 0x0902 .mn, .same 0x0903 0x0903 .mc, .same 0x0904 0x0939 .lo,
  .same 0x093A 0x093A .mn, .same 0x093B 0x093B .mc, .same 0x093C 0x093C .mn,
  .same 0x093D 0x093D .lo, .same 0x093E 0x0940 .mc, .same 0x0941 0x0948 .mn,
  .same 0x0949 0x094C .mc, .same 0x094D 0x094D .mn, .same 0x094E 0x094F .mc]

/-- Runs from U+0950 to U+103C. -/
def scriptsMiddle : Array Run := #[
  .same 0x0950 0x0950 .lo, .same 0x0951 0x0957 .mn, .same 0x0958 0x0961 .lo,
  .same 0x0962 0x0963 .mn, .same 0x0964 0x0965 .po, .same 0x0966 0x096F .nd,
  .same 0x0970 0x0970 .po, .same 0x0971 0x0971 .lm, .same 0x0972 0x0980 .lo,
  .same 0x0981 0x0981 .mn, .same 0x0982 0x0983 .mc, .same 0x0985 0x098C .lo,
  .same 0x098F 0x0990 .lo, .same 0x0993 0x09A8 .lo, .same 0x09AA 0x09B0 .lo,
  .same 0x09B2 0x09B2 .lo, .same 0x09B6 0x09B9 .lo, .same 0x09BC 0x09BC .mn,
  .same 0x09BD 0x09BD .lo, .same 0x09BE 0x09C0 .mc, .same 0x09C1 0x09C4 .mn,
  .same 0x09C7 0x09C8 .mc, .same 0x09CB 0x09CC .mc, .same 0x09CD 0x09CD .mn,
  .same 0x09CE 0x09CE .lo, .same 0x09D7 0x09D7 .mc, .same 0x09DC 0x09DD .lo,
  .same 0x09DF 0x09E1 .lo, .same 0x09E2 0x09E3 .mn, .same 0x09E6 0x09EF .nd,
  .same 0x09F0 0x09F1 .lo, .same 0x09F2 0x09F3 .sc, .same 0x09F4 0x09F9 .no,
  .same 0x09FA 0x09FA .so, .same 0x09FB 0x09FB .sc, .same 0x09FC 0x09FC .lo,
  .same 0x09FD 0x09FD .po, .same 0x09FE 0x09FE .mn, .same 0x0A01 0x0A02 .mn,
  .same 0x0A03 0x0A03 .mc, .same 0x0A05 0x0A0A .lo, .same 0x0A0F 0x0A10 .lo,
  .same 0x0A13 0x0A28 .lo, .same 0x0A2A 0x0A30 .lo, .same 0x0A32 0x0A33 .lo,
  .same 0x0A35 0x0A36 .lo, .same 0x0A38 0x0A39 .lo, .same 0x0A3C 0x0A3C .mn,
  .same 0x0A3E 0x0A40 .mc, .same 0x0A41 0x0A42 .mn, .same 0x0A47 0x0A48 .mn,
  .same 0x0A4B 0x0A4D .mn, .same 0x0A51 0x0A51 .mn, .same 0x0A59 0x0A5C .lo,
  .same 0x0A5E 0x0A5E .lo, .same 0x0A66 0x0A6F .nd, .same 0x0A70 0x0A71 .mn,
  .same 0x0A72 0x0A74 .lo, .same 0x0A75 0x0A75 .mn, .same 0x0A76 0x0A76 .po,
  .same 0x0A81 0x0A82 .mn, .same 0x0A83 0x0A83 .mc, .same 0x0A85 0x0A8D .lo,
  .same 0x0A8F 0x0A91 .lo, .same 0x0A93 0x0AA8 .lo, .same 0x0AAA 0x0AB0 .lo,
  .same 0x0AB2 0x0AB3 .lo, .same 0x0AB5 0x0AB9 .lo, .same 0x0ABC 0x0ABC .mn,
  .same 0x0ABD 0x0ABD .lo, .same 0x0ABE 0x0AC0 .mc, .same 0x0AC1 0x0AC5 .mn,
  .same 0x0AC7 0x0AC8 .mn, .same 0x0AC9 0x0AC9 .mc, .same 0x0ACB 0x0ACC .mc,
  .same 0x0ACD 0x0ACD .mn, .same 0x0AD0 0x0AD0 .lo, .same 0x0AE0 0x0AE1 .lo,
  .same 0x0AE2 0x0AE3 .mn, .same 0x0AE6 0x0AEF .nd, .same 0x0AF0 0x0AF0 .po,
  .same 0x0AF1 0x0AF1 .sc, .same 0x0AF9 0x0AF9 .lo, .same 0x0AFA 0x0AFF .mn,
  .same 0x0B01 0x0B01 .mn, .same 0x0B02 0x0B03 .mc, .same 0x0B05 0x0B0C .lo,
  .same 0x0B0F 0x0B10 .lo, .same 0x0B13 0x0B28 .lo, .same 0x0B2A 0x0B30 .lo,
  .same 0x0B32 0x0B33 .lo, .same 0x0B35 0x0B39 .lo, .same 0x0B3C 0x0B3C .mn,
  .same 0x0B3D 0x0B3D .lo, .same 0x0B3E 0x0B3E .mc, .same 0x0B3F 0x0B3F .mn,
  .same 0x0B40 0x0B40 .mc, .same 0x0B41 0x0B44 .mn, .same 0x0B47 0x0B48 .mc,
  .same 0x0B4B 0x0B4C .mc, .same 0x0B4D 0x0B4D .mn, .same 0x0B55 0x0B56 .mn,
  .same 0x0B57 0x0B57 .mc, .same 0x0B5C 0x0B5D .lo, .same 0x0B5F 0x0B61 .lo,
  .same 0x0B62 0x0B63 .mn, .same 0x0B66 0x0B6F .nd, .same 0x0B70 0x0B70 .so,
  .same 0x0B71 0x0B71 .lo, .same 0x0B72 0x0B77 .no, .same 0x0B82 0x0B82 .mn,
  .same 0x0B83 0x0B83 .lo, .same 0x0B85 0x0B8A .lo, .same 0x0B8E 0x0B90 .lo,
  .same 0x0B92 0x0B95 .lo, .same 0x0B99 0x0B9A .lo, .same 0x0B9C 0x0B9C .lo,
  .same 0x0B9E 0x0B9F .lo, .same 0x0BA3 0x0BA4 .lo, .same 0x0BA8 0x0BAA .lo,
  .same 0x0BAE 0x0BB9 .lo, .same 0x0BBE 0x0BBF .mc, .same 0x0BC0 0x0BC0 .mn,
  .same 0x0BC1 0x0BC2 .mc, .same 0x0BC6 0x0BC8 .mc, .same 0x0BCA 0x0BCC .mc,
  .same 0x0BCD 0x0BCD .mn, .same 0x0BD0 0x0BD0 .lo, .same 0x0BD7 0x0BD7 .mc,
  .same 0x0BE6 0x0BEF .nd, .same 0x0BF0 0x0BF2 .no, .same 0x0BF3 0x0BF8 .so,
  .same 0x0BF9 0x0BF9 .sc, .same 0x0BFA 0x0BFA .so, .same 0x0C00 0x0C00 .mn,
  .same 0x0C01 0x0C03 .mc, .same 0x0C04 0x0C04 .mn, .same 0x0C05 0x0C0C .lo,
  .same 0x0C0E 0x0C10 .lo, .same 0x0C12 0x0C28 .lo, .same 0x0C2A 0x0C39 .lo,
  .same 0x0C3C 0x0C3C .mn, .same 0x0C3D 0x0C3D .lo, .same 0x0C3E 0x0C40 .mn,
  .same 0x0C41 0x0C44 .mc, .same 0x0C46 0x0C48 .mn, .same 0x0C4A 0x0C4D .mn,
  .same 0x0C55 0x0C56 .mn, .same 0x0C58 0x0C5A .lo, .same 0x0C5C 0x0C5D .lo,
  .same 0x0C60 0x0C61 .lo, .same 0x0C62 0x0C63 .mn, .same 0x0C66 0x0C6F .nd,
  .same 0x0C77 0x0C77 .po, .same 0x0C78 0x0C7E .no, .same 0x0C7F 0x0C7F .so,
  .same 0x0C80 0x0C80 .lo, .same 0x0C81 0x0C81 .mn, .same 0x0C82 0x0C83 .mc,
  .same 0x0C84 0x0C84 .po, .same 0x0C85 0x0C8C .lo, .same 0x0C8E 0x0C90 .lo,
  .same 0x0C92 0x0CA8 .lo, .same 0x0CAA 0x0CB3 .lo, .same 0x0CB5 0x0CB9 .lo,
  .same 0x0CBC 0x0CBC .mn, .same 0x0CBD 0x0CBD .lo, .same 0x0CBE 0x0CBE .mc,
  .same 0x0CBF 0x0CBF .mn, .same 0x0CC0 0x0CC4 .mc, .same 0x0CC6 0x0CC6 .mn,
  .same 0x0CC7 0x0CC8 .mc, .same 0x0CCA 0x0CCB .mc, .same 0x0CCC 0x0CCD .mn,
  .same 0x0CD5 0x0CD6 .mc, .same 0x0CDC 0x0CDE .lo, .same 0x0CE0 0x0CE1 .lo,
  .same 0x0CE2 0x0CE3 .mn, .same 0x0CE6 0x0CEF .nd, .same 0x0CF1 0x0CF2 .lo,
  .same 0x0CF3 0x0CF3 .mc, .same 0x0D00 0x0D01 .mn, .same 0x0D02 0x0D03 .mc,
  .same 0x0D04 0x0D0C .lo, .same 0x0D0E 0x0D10 .lo, .same 0x0D12 0x0D3A .lo,
  .same 0x0D3B 0x0D3C .mn, .same 0x0D3D 0x0D3D .lo, .same 0x0D3E 0x0D40 .mc,
  .same 0x0D41 0x0D44 .mn, .same 0x0D46 0x0D48 .mc, .same 0x0D4A 0x0D4C .mc,
  .same 0x0D4D 0x0D4D .mn, .same 0x0D4E 0x0D4E .lo, .same 0x0D4F 0x0D4F .so,
  .same 0x0D54 0x0D56 .lo, .same 0x0D57 0x0D57 .mc, .same 0x0D58 0x0D5E .no,
  .same 0x0D5F 0x0D61 .lo, .same 0x0D62 0x0D63 .mn, .same 0x0D66 0x0D6F .nd,
  .same 0x0D70 0x0D78 .no, .same 0x0D79 0x0D79 .so, .same 0x0D7A 0x0D7F .lo,
  .same 0x0D81 0x0D81 .mn, .same 0x0D82 0x0D83 .mc, .same 0x0D85 0x0D96 .lo,
  .same 0x0D9A 0x0DB1 .lo, .same 0x0DB3 0x0DBB .lo, .same 0x0DBD 0x0DBD .lo,
  .same 0x0DC0 0x0DC6 .lo, .same 0x0DCA 0x0DCA .mn, .same 0x0DCF 0x0DD1 .mc,
  .same 0x0DD2 0x0DD4 .mn, .same 0x0DD6 0x0DD6 .mn, .same 0x0DD8 0x0DDF .mc,
  .same 0x0DE6 0x0DEF .nd, .same 0x0DF2 0x0DF3 .mc, .same 0x0DF4 0x0DF4 .po,
  .same 0x0E01 0x0E30 .lo, .same 0x0E31 0x0E31 .mn, .same 0x0E32 0x0E33 .lo,
  .same 0x0E34 0x0E3A .mn, .same 0x0E3F 0x0E3F .sc, .same 0x0E40 0x0E45 .lo,
  .same 0x0E46 0x0E46 .lm, .same 0x0E47 0x0E4E .mn, .same 0x0E4F 0x0E4F .po,
  .same 0x0E50 0x0E59 .nd, .same 0x0E5A 0x0E5B .po, .same 0x0E81 0x0E82 .lo,
  .same 0x0E84 0x0E84 .lo, .same 0x0E86 0x0E8A .lo, .same 0x0E8C 0x0EA3 .lo,
  .same 0x0EA5 0x0EA5 .lo, .same 0x0EA7 0x0EB0 .lo, .same 0x0EB1 0x0EB1 .mn,
  .same 0x0EB2 0x0EB3 .lo, .same 0x0EB4 0x0EBC .mn, .same 0x0EBD 0x0EBD .lo,
  .same 0x0EC0 0x0EC4 .lo, .same 0x0EC6 0x0EC6 .lm, .same 0x0EC8 0x0ECE .mn,
  .same 0x0ED0 0x0ED9 .nd, .same 0x0EDC 0x0EDF .lo, .same 0x0F00 0x0F00 .lo,
  .same 0x0F01 0x0F03 .so, .same 0x0F04 0x0F12 .po, .same 0x0F13 0x0F13 .so,
  .same 0x0F14 0x0F14 .po, .same 0x0F15 0x0F17 .so, .same 0x0F18 0x0F19 .mn,
  .same 0x0F1A 0x0F1F .so, .same 0x0F20 0x0F29 .nd, .same 0x0F2A 0x0F33 .no,
  .same 0x0F34 0x0F34 .so, .same 0x0F35 0x0F35 .mn, .same 0x0F36 0x0F36 .so,
  .same 0x0F37 0x0F37 .mn, .same 0x0F38 0x0F38 .so, .same 0x0F39 0x0F39 .mn,
  .same 0x0F3A 0x0F3A .ps, .same 0x0F3B 0x0F3B .pe, .same 0x0F3C 0x0F3C .ps,
  .same 0x0F3D 0x0F3D .pe, .same 0x0F3E 0x0F3F .mc, .same 0x0F40 0x0F47 .lo,
  .same 0x0F49 0x0F6C .lo, .same 0x0F71 0x0F7E .mn, .same 0x0F7F 0x0F7F .mc,
  .same 0x0F80 0x0F84 .mn, .same 0x0F85 0x0F85 .po, .same 0x0F86 0x0F87 .mn,
  .same 0x0F88 0x0F8C .lo, .same 0x0F8D 0x0F97 .mn, .same 0x0F99 0x0FBC .mn,
  .same 0x0FBE 0x0FC5 .so, .same 0x0FC6 0x0FC6 .mn, .same 0x0FC7 0x0FCC .so,
  .same 0x0FCE 0x0FCF .so, .same 0x0FD0 0x0FD4 .po, .same 0x0FD5 0x0FD8 .so,
  .same 0x0FD9 0x0FDA .po, .same 0x1000 0x102A .lo, .same 0x102B 0x102C .mc,
  .same 0x102D 0x1030 .mn, .same 0x1031 0x1031 .mc, .same 0x1032 0x1037 .mn,
  .same 0x1038 0x1038 .mc, .same 0x1039 0x103A .mn, .same 0x103B 0x103C .mc]

/-- Runs from U+103D to U+1FFE. -/
def scriptsTail : Array Run := #[
  .same 0x103D 0x103E .mn, .same 0x103F 0x103F .lo, .same 0x1040 0x1049 .nd,
  .same 0x104A 0x104F .po, .same 0x1050 0x1055 .lo, .same 0x1056 0x1057 .mc,
  .same 0x1058 0x1059 .mn, .same 0x105A 0x105D .lo, .same 0x105E 0x1060 .mn,
  .same 0x1061 0x1061 .lo, .same 0x1062 0x1064 .mc, .same 0x1065 0x1066 .lo,
  .same 0x1067 0x106D .mc, .same 0x106E 0x1070 .lo, .same 0x1071 0x1074 .mn,
  .same 0x1075 0x1081 .lo, .same 0x1082 0x1082 .mn, .same 0x1083 0x1084 .mc,
  .same 0x1085 0x1086 .mn, .same 0x1087 0x108C .mc, .same 0x108D 0x108D .mn,
  .same 0x108E 0x108E .lo, .same 0x108F 0x108F .mc, .same 0x1090 0x1099 .nd,
  .same 0x109A 0x109C .mc, .same 0x109D 0x109D .mn, .same 0x109E 0x109F .so,
  .same 0x10A0 0x10C5 .lu, .same 0x10C7 0x10C7 .lu, .same 0x10CD 0x10CD .lu,
  .same 0x10D0 0x10FA .ll, .same 0x10FB 0x10FB .po, .same 0x10FC 0x10FC .lm,
  .same 0x10FD 0x10FF .ll, .same 0x1100 0x1248 .lo, .same 0x124A 0x124D .lo,
  .same 0x1250 0x1256 .lo, .same 0x1258 0x1258 .lo, .same 0x125A 0x125D .lo,
  .same 0x1260 0x1288 .lo, .same 0x128A 0x128D .lo, .same 0x1290 0x12B0 .lo,
  .same 0x12B2 0x12B5 .lo, .same 0x12B8 0x12BE .lo, .same 0x12C0 0x12C0 .lo,
  .same 0x12C2 0x12C5 .lo, .same 0x12C8 0x12D6 .lo, .same 0x12D8 0x1310 .lo,
  .same 0x1312 0x1315 .lo, .same 0x1318 0x135A .lo, .same 0x135D 0x135F .mn,
  .same 0x1360 0x1368 .po, .same 0x1369 0x137C .no, .same 0x1380 0x138F .lo,
  .same 0x1390 0x1399 .so, .same 0x13A0 0x13F5 .lu, .same 0x13F8 0x13FD .ll,
  .same 0x1400 0x1400 .pd, .same 0x1401 0x166C .lo, .same 0x166D 0x166D .so,
  .same 0x166E 0x166E .po, .same 0x166F 0x167F .lo, .same 0x1680 0x1680 .zs,
  .same 0x1681 0x169A .lo, .same 0x169B 0x169B .ps, .same 0x169C 0x169C .pe,
  .same 0x16A0 0x16EA .lo, .same 0x16EB 0x16ED .po, .same 0x16EE 0x16F0 .nl,
  .same 0x16F1 0x16F8 .lo, .same 0x1700 0x1711 .lo, .same 0x1712 0x1714 .mn,
  .same 0x1715 0x1715 .mc, .same 0x171F 0x1731 .lo, .same 0x1732 0x1733 .mn,
  .same 0x1734 0x1734 .mc, .same 0x1735 0x1736 .po, .same 0x1740 0x1751 .lo,
  .same 0x1752 0x1753 .mn, .same 0x1760 0x176C .lo, .same 0x176E 0x1770 .lo,
  .same 0x1772 0x1773 .mn, .same 0x1780 0x17B3 .lo, .same 0x17B4 0x17B5 .mn,
  .same 0x17B6 0x17B6 .mc, .same 0x17B7 0x17BD .mn, .same 0x17BE 0x17C5 .mc,
  .same 0x17C6 0x17C6 .mn, .same 0x17C7 0x17C8 .mc, .same 0x17C9 0x17D3 .mn,
  .same 0x17D4 0x17D6 .po, .same 0x17D7 0x17D7 .lm, .same 0x17D8 0x17DA .po,
  .same 0x17DB 0x17DB .sc, .same 0x17DC 0x17DC .lo, .same 0x17DD 0x17DD .mn,
  .same 0x17E0 0x17E9 .nd, .same 0x17F0 0x17F9 .no, .same 0x1800 0x1805 .po,
  .same 0x1806 0x1806 .pd, .same 0x1807 0x180A .po, .same 0x180B 0x180D .mn,
  .same 0x180E 0x180E .cf, .same 0x180F 0x180F .mn, .same 0x1810 0x1819 .nd,
  .same 0x1820 0x1842 .lo, .same 0x1843 0x1843 .lm, .same 0x1844 0x1878 .lo,
  .same 0x1880 0x1884 .lo, .same 0x1885 0x1886 .mn, .same 0x1887 0x18A8 .lo,
  .same 0x18A9 0x18A9 .mn, .same 0x18AA 0x18AA .lo, .same 0x18B0 0x18F5 .lo,
  .same 0x1900 0x191E .lo, .same 0x1920 0x1922 .mn, .same 0x1923 0x1926 .mc,
  .same 0x1927 0x1928 .mn, .same 0x1929 0x192B .mc, .same 0x1930 0x1931 .mc,
  .same 0x1932 0x1932 .mn, .same 0x1933 0x1938 .mc, .same 0x1939 0x193B .mn,
  .same 0x1940 0x1940 .so, .same 0x1944 0x1945 .po, .same 0x1946 0x194F .nd,
  .same 0x1950 0x196D .lo, .same 0x1970 0x1974 .lo, .same 0x1980 0x19AB .lo,
  .same 0x19B0 0x19C9 .lo, .same 0x19D0 0x19D9 .nd, .same 0x19DA 0x19DA .no,
  .same 0x19DE 0x19FF .so, .same 0x1A00 0x1A16 .lo, .same 0x1A17 0x1A18 .mn,
  .same 0x1A19 0x1A1A .mc, .same 0x1A1B 0x1A1B .mn, .same 0x1A1E 0x1A1F .po,
  .same 0x1A20 0x1A54 .lo, .same 0x1A55 0x1A55 .mc, .same 0x1A56 0x1A56 .mn,
  .same 0x1A57 0x1A57 .mc, .same 0x1A58 0x1A5E .mn, .same 0x1A60 0x1A60 .mn,
  .same 0x1A61 0x1A61 .mc, .same 0x1A62 0x1A62 .mn, .same 0x1A63 0x1A64 .mc,
  .same 0x1A65 0x1A6C .mn, .same 0x1A6D 0x1A72 .mc, .same 0x1A73 0x1A7C .mn,
  .same 0x1A7F 0x1A7F .mn, .same 0x1A80 0x1A89 .nd, .same 0x1A90 0x1A99 .nd,
  .same 0x1AA0 0x1AA6 .po, .same 0x1AA7 0x1AA7 .lm, .same 0x1AA8 0x1AAD .po,
  .same 0x1AB0 0x1ABD .mn, .same 0x1ABE 0x1ABE .me, .same 0x1ABF 0x1ADD .mn,
  .same 0x1AE0 0x1AEB .mn, .same 0x1B00 0x1B03 .mn, .same 0x1B04 0x1B04 .mc,
  .same 0x1B05 0x1B33 .lo, .same 0x1B34 0x1B34 .mn, .same 0x1B35 0x1B35 .mc,
  .same 0x1B36 0x1B3A .mn, .same 0x1B3B 0x1B3B .mc, .same 0x1B3C 0x1B3C .mn,
  .same 0x1B3D 0x1B41 .mc, .same 0x1B42 0x1B42 .mn, .same 0x1B43 0x1B44 .mc,
  .same 0x1B45 0x1B4C .lo, .same 0x1B4E 0x1B4F .po, .same 0x1B50 0x1B59 .nd,
  .same 0x1B5A 0x1B60 .po, .same 0x1B61 0x1B6A .so, .same 0x1B6B 0x1B73 .mn,
  .same 0x1B74 0x1B7C .so, .same 0x1B7D 0x1B7F .po, .same 0x1B80 0x1B81 .mn,
  .same 0x1B82 0x1B82 .mc, .same 0x1B83 0x1BA0 .lo, .same 0x1BA1 0x1BA1 .mc,
  .same 0x1BA2 0x1BA5 .mn, .same 0x1BA6 0x1BA7 .mc, .same 0x1BA8 0x1BA9 .mn,
  .same 0x1BAA 0x1BAA .mc, .same 0x1BAB 0x1BAD .mn, .same 0x1BAE 0x1BAF .lo,
  .same 0x1BB0 0x1BB9 .nd, .same 0x1BBA 0x1BE5 .lo, .same 0x1BE6 0x1BE6 .mn,
  .same 0x1BE7 0x1BE7 .mc, .same 0x1BE8 0x1BE9 .mn, .same 0x1BEA 0x1BEC .mc,
  .same 0x1BED 0x1BED .mn, .same 0x1BEE 0x1BEE .mc, .same 0x1BEF 0x1BF1 .mn,
  .same 0x1BF2 0x1BF3 .mc, .same 0x1BFC 0x1BFF .po, .same 0x1C00 0x1C23 .lo,
  .same 0x1C24 0x1C2B .mc, .same 0x1C2C 0x1C33 .mn, .same 0x1C34 0x1C35 .mc,
  .same 0x1C36 0x1C37 .mn, .same 0x1C3B 0x1C3F .po, .same 0x1C40 0x1C49 .nd,
  .same 0x1C4D 0x1C4F .lo, .same 0x1C50 0x1C59 .nd, .same 0x1C5A 0x1C77 .lo,
  .same 0x1C78 0x1C7D .lm, .same 0x1C7E 0x1C7F .po, .same 0x1C80 0x1C88 .ll,
  .same 0x1C89 0x1C89 .lu, .same 0x1C8A 0x1C8A .ll, .same 0x1C90 0x1CBA .lu,
  .same 0x1CBD 0x1CBF .lu, .same 0x1CC0 0x1CC7 .po, .same 0x1CD0 0x1CD2 .mn,
  .same 0x1CD3 0x1CD3 .po, .same 0x1CD4 0x1CE0 .mn, .same 0x1CE1 0x1CE1 .mc,
  .same 0x1CE2 0x1CE8 .mn, .same 0x1CE9 0x1CEC .lo, .same 0x1CED 0x1CED .mn,
  .same 0x1CEE 0x1CF3 .lo, .same 0x1CF4 0x1CF4 .mn, .same 0x1CF5 0x1CF6 .lo,
  .same 0x1CF7 0x1CF7 .mc, .same 0x1CF8 0x1CF9 .mn, .same 0x1CFA 0x1CFA .lo,
  .same 0x1D00 0x1D2B .ll, .same 0x1D2C 0x1D6A .lm, .same 0x1D6B 0x1D77 .ll,
  .same 0x1D78 0x1D78 .lm, .same 0x1D79 0x1D9A .ll, .same 0x1D9B 0x1DBF .lm,
  .same 0x1DC0 0x1DFF .mn, .cased 0x1E00 0x1E95, .same 0x1E96 0x1E9D .ll, .cased 0x1E9E 0x1EFF,
  .same 0x1F00 0x1F07 .ll, .same 0x1F08 0x1F0F .lu, .same 0x1F10 0x1F15 .ll,
  .same 0x1F18 0x1F1D .lu, .same 0x1F20 0x1F27 .ll, .same 0x1F28 0x1F2F .lu,
  .same 0x1F30 0x1F37 .ll, .same 0x1F38 0x1F3F .lu, .same 0x1F40 0x1F45 .ll,
  .same 0x1F48 0x1F4D .lu, .same 0x1F50 0x1F57 .ll, .same 0x1F59 0x1F59 .lu,
  .same 0x1F5B 0x1F5B .lu, .same 0x1F5D 0x1F5D .lu, .same 0x1F5F 0x1F5F .lu,
  .same 0x1F60 0x1F67 .ll, .same 0x1F68 0x1F6F .lu, .same 0x1F70 0x1F7D .ll,
  .same 0x1F80 0x1F87 .ll, .same 0x1F88 0x1F8F .lt, .same 0x1F90 0x1F97 .ll,
  .same 0x1F98 0x1F9F .lt, .same 0x1FA0 0x1FA7 .ll, .same 0x1FA8 0x1FAF .lt,
  .same 0x1FB0 0x1FB4 .ll, .same 0x1FB6 0x1FB7 .ll, .same 0x1FB8 0x1FBB .lu,
  .same 0x1FBC 0x1FBC .lt, .same 0x1FBD 0x1FBD .sk, .same 0x1FBE 0x1FBE .ll,
  .same 0x1FBF 0x1FC1 .sk, .same 0x1FC2 0x1FC4 .ll, .same 0x1FC6 0x1FC7 .ll,
  .same 0x1FC8 0x1FCB .lu, .same 0x1FCC 0x1FCC .lt, .same 0x1FCD 0x1FCF .sk,
  .same 0x1FD0 0x1FD3 .ll, .same 0x1FD6 0x1FD7 .ll, .same 0x1FD8 0x1FDB .lu,
  .same 0x1FDD 0x1FDF .sk, .same 0x1FE0 0x1FE7 .ll, .same 0x1FE8 0x1FEC .lu,
  .same 0x1FED 0x1FEF .sk, .same 0x1FF2 0x1FF4 .ll, .same 0x1FF6 0x1FF7 .ll,
  .same 0x1FF8 0x1FFB .lu, .same 0x1FFC 0x1FFC .lt, .same 0x1FFD 0x1FFE .sk]

/-- All runs of this part. -/
def scripts : Array Run := scriptsHead ++ scriptsMiddle ++ scriptsTail

end InlineMarkup.Unicode.Run
