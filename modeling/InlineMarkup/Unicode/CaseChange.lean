import InlineMarkup.Unicode.CaseFolding
import InlineMarkup.Unicode.Letters
import InlineMarkup.Unicode.Lowercase

/-!
# Characters that change with their case

The characters that become another text when they are written in upper, lower or title case, or
when their case is folded. Most of them have a single counterpart, which the tables of case
mappings know; the others, ligatures and letters with several marks, are listed here.
-/

namespace InlineMarkup.Unicode

/-- Letters of lower case without a single counterpart of upper case. -/
def wideUppercase : List (Nat × Nat) :=
  [(0x0131, 0x0131), (0x0149, 0x0149), (0x01F0, 0x01F0), (0x0587, 0x0587), (0x1E96, 0x1E9A),
   (0x1F50, 0x1F50), (0x1F52, 0x1F52), (0x1F54, 0x1F54), (0x1F56, 0x1F56), (0x1FB2, 0x1FB2),
   (0x1FB4, 0x1FB4), (0x1FB6, 0x1FB7), (0x1FC2, 0x1FC2), (0x1FC4, 0x1FC4), (0x1FC6, 0x1FC7),
   (0x1FD2, 0x1FD2), (0x1FD6, 0x1FD7), (0x1FE2, 0x1FE2), (0x1FE4, 0x1FE4), (0x1FE6, 0x1FE7),
   (0x1FF2, 0x1FF2), (0x1FF4, 0x1FF4), (0x1FF6, 0x1FF7), (0xFB00, 0xFB04), (0xFB13, 0xFB17)]

/-- Letters that fold to several characters and to no single one. -/
def wideFolding : List (Nat × Nat) :=
  [(0x00DF, 0x00DF), (0x0130, 0x0130), (0x0149, 0x0149), (0x0587, 0x0587), (0x1E9A, 0x1E9A),
   (0x1F80, 0x1F87), (0x1F90, 0x1F97), (0x1FA0, 0x1FA7), (0x1FB2, 0x1FB4), (0x1FB7, 0x1FB7),
   (0x1FC2, 0x1FC4), (0x1FC7, 0x1FC7), (0x1FF2, 0x1FF4), (0x1FF7, 0x1FF7), (0xFB00, 0xFB04),
   (0xFB06, 0xFB06), (0xFB13, 0xFB17)]

/-- Letters that fold to others only where they are not taken apart first. -/
def composedFolding : List (Nat × Nat) :=
  [(0x1FBE, 0x1FBE), (0x1FD3, 0x1FD3), (0x1FE3, 0x1FE3)]

/-- The Georgian letters, which keep their form at the beginning of a word. -/
def plainGeorgian : List (Nat × Nat) := [(0x10D0, 0x10FA), (0x10FD, 0x10FF)]

/-- Digraphs in upper case, which have another form at the beginning of a word. -/
def digraphs : List (Nat × Nat) :=
  [(0x01C4, 0x01C4), (0x01C7, 0x01C7), (0x01CA, 0x01CA), (0x01F1, 0x01F1)]

/-- The code points that a table maps to others. -/
def CaseRun.domain (runs : Array CaseRun) : CharSet := .ofCodes (runs.toList.flatMap CaseRun.codes)

/-- The code points that a table maps others to. -/
def CaseRun.images (runs : Array CaseRun) : CharSet :=
  .ofCodes (runs.toList.flatMap fun r => r.codes.map r.image)

namespace CharSet

/-- **What changes in lower case.** -/
def changesLowercased : CharSet :=
  ((CaseRun.domain lowerRuns).union (single '\u0130')).inter (assigned .sixteen)

/-- **What changes when case is folded.** -/
def changesFolded : CharSet :=
  ((CaseRun.domain foldRuns).diff (ofRanges composedFolding)).union (ofRanges wideFolding)

/-- **What changes in upper case:** letters that are equal to others but for their case, and have no
lower case themselves, letters of title case, and those without a single counterpart. -/
def changesUppercased : CharSet :=
  let paired := (CaseRun.domain foldRuns).union (CaseRun.images foldRuns)
  unions [paired.diff changesLowercased, withCategories .sixteen [.lt], ofRanges wideUppercase]

/-- **What changes in title case.** -/
def changesTitlecased : CharSet :=
  let same := (withCategories .sixteen [.lt]).union (ofRanges plainGeorgian)
  (changesUppercased.diff same).union (ofRanges digraphs)

/-- What changes in any of these cases. -/
def changesCase : CharSet := changesLowercased.union changesUppercased

end CharSet
end InlineMarkup.Unicode
