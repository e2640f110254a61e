import InlineMarkup.Proofs.Margins
import InlineMarkup.Proofs.Quoted

/-!
# Outlines tell forests apart

In an outline kinds are written as they are, next to quoted texts; leaves and branches of well-known
kinds have the same icons; and where a token belongs is to be seen from the margin alone. Still the
whole forest can be read off its outline, except for the ends of long texts. All that is asked is
that no kind goes over several lines (`Token.OneLine`).

* `Token.shownAll` — the forest with its texts cut off. It has the same lines as the forest
  (`Outline.forestLines_shownAll`).
* `Outline.label_inj`, `Outline.row_inj` — what a line says of its token. Leaves and branches have
  different labels (`Outline.label_leaf_ne_branch`), because in front of a quoted text stands a
  blank, and there is none in a kind that has an icon of its own.
* `Outline.forestLines_inj` — from the lines back to the tokens. What is below a branch goes as far
  as the lines are under its margin (`Outline.forestLines_append_inj`).
* `Outline.render_eq_iff` — forests with the same outline.
* `Outline.render_by_visits` — one line for each token, and what stands in front of the token in it.
-/

namespace InlineMarkup

namespace Token

mutual

/-- **What is shown of a token:** all of it but the ends of long texts. -/
def shown : Token → Token
  | leaf kind text => leaf kind (Outline.excerpt text)
  | branch kind ts => branch kind (shownAll ts)

/-- What is shown of a forest. -/
def shownAll : List Token → List Token
  | [] => []
  | t :: ts => shown t :: shownAll ts

end

/-- **Kinds on one line.** No kind in the forest, however deep, has a line feed in it. -/
def OneLine (ts : List Token) : Prop := ∀ v ∈ walkList 0 ts, '\n' ∉ v.token.kind.toList

instance (ts : List Token) : Decidable (OneLine ts) := List.decidableBAll _ _

end Token

namespace Outline

/-! ### What is shown -/

/-- An excerpt is shown as it is: what it begins with is as long as what is shown, the dots being
behind it. -/
theorem excerpt_excerpt (text : String) : excerpt (excerpt text) = excerpt text := by
  by_cases hshort : text.length ≤ shownChars
  · have hwhole : excerpt text = text := if_pos hshort
    rw [hwhole, hwhole]
  · have hcut : excerpt text = String.ofList (text.toList.take shownChars) ++ "..." :=
      if_neg hshort
    have htaken : (text.toList.take shownChars).length = shownChars := by
      rw [List.length_take, String.length_toList]
      omega
    -- the dots are too many, so it is cut off once more, and they are put there again
    have hlong : ¬ (excerpt text).length ≤ shownChars := by
      rw [hcut, String.length_append, String.length_ofList, htaken]
      decide
    have hbegin : (excerpt text).toList.take shownChars = text.toList.take shownChars := by
      rw [hcut, String.toList_append, String.toList_ofList, List.take_left' htaken]
    have hagain : excerpt (excerpt text) =
        String.ofList ((excerpt text).toList.take shownChars) ++ "..." := if_neg hlong
    rw [hagain, hbegin, hcut]

theorem label_shown (t : Token) : label t.shown = label t := by
  -- icons are chosen by kind and shape, which are shown
  cases t with
  | leaf kind text =>
    have hicon : icon (.leaf kind (excerpt text)) = icon (.leaf kind text) := rfl
    simp only [Token.shown, label, Token.text?, Token.kind, excerpt_excerpt, hicon]
  | branch kind ts => rfl

mutual

theorem tokenLines_shown (margin : String) (last : Bool) :
    (t : Token) → tokenLines margin last t.shown = tokenLines margin last t
  | .leaf kind text => by
    have hlabel := label_shown (.leaf kind text)
    rw [Token.shown] at hlabel ⊢
    rw [tokenLines, tokenLines, hlabel]
  | .branch kind ts => by
    have hlabel := label_shown (.branch kind ts)
    rw [Token.shown] at hlabel ⊢
    rw [tokenLines, tokenLines, hlabel, forestLines_shownAll]

/-- **The lines of a forest** are those of what is shown of it. -/
theorem forestLines_shownAll (margin : String) :
    (ts : List Token) → forestLines margin (Token.shownAll ts) = forestLines margin ts
  | [] => rfl
  | t :: ts => by
    -- what is shown has as many siblings
    have hlast : (Token.shownAll ts).isEmpty = ts.isEmpty := by cases ts <;> rfl
    rw [Token.shownAll, forestLines, forestLines, hlast, tokenLines_shown, forestLines_shownAll]

end

/-! ### Labels -/

/-- The icons of the kinds that have one of their own. -/
def kindIcons : List (String × String) :=
  [("word", "◦"), ("bold", "𝐁"), ("italic", "𝐼"), ("code", "ƒ"), ("pre", "𝒱"), ("strike", "≈")]

/-- **Where an icon comes from:** the kind has one of its own, or leaves and branches have one. -/
theorem icon_cases (t : Token) :
    (t.kind, icon t) ∈ kindIcons ∨ icon t = if t.isLeaf then "•" else "○" := by
  unfold icon
  split
  iterate 6
    next hkind => exact .inl (by rw [hkind]; decide)
  exact .inr rfl

/-- An icon is one character, and no line feed. -/
theorem exists_icon (t : Token) : ∃ c, c ≠ '\n' ∧ (icon t).toList = [c] := by
  have hicons : ∀ p ∈ kindIcons, p.2.toList.length = 1 ∧ '\n' ∉ p.2.toList := by decide
  have hicon : (icon t).toList.length = 1 ∧ '\n' ∉ (icon t).toList := by
    rcases icon_cases t with h | h
    · exact hicons _ h
    · rw [h]
      cases t.isLeaf <;> decide
  obtain ⟨hlength, hline⟩ := hicon
  obtain ⟨c, hc⟩ := List.length_eq_one_iff.mp hlength
  rw [hc] at hline
  exact ⟨c, fun h => hline (by simp [h]), hc⟩

/-- A leaf and a branch have the same icon only if the branch is of a kind that has its own. -/
theorem mem_kindIcons_of_icon_eq {kind kind' text : String} {ts : List Token}
    (h : icon (.leaf kind text) = icon (.branch kind' ts)) : ∃ i, (kind', i) ∈ kindIcons := by
  rcases icon_cases (.branch kind' ts) with hbranch | hbranch
  · exact ⟨_, hbranch⟩
  · -- the circle is the icon of no leaf
    have hicons : ∀ p ∈ kindIcons, p.2 ≠ "○" := by decide
    rcases icon_cases (.leaf kind text) with hleaf | hleaf
    · exact absurd (h.trans hbranch) (hicons _ hleaf)
    · rw [hbranch] at h
      have hsame : "•" = "○" := hleaf.symm.trans h
      exact absurd hsame (by decide)

/-- What stands behind the icon. -/
def caption : Token → List Char
  | .leaf kind text => kind.toList ++ ' ' :: (Text.quoted (excerpt text)).toList
  | .branch kind _ => kind.toList

theorem toList_label (t : Token) : (label t).toList = (icon t).toList ++ ' ' :: caption t := by
  cases t with
  | leaf kind text => simp [label, Token.text?, caption, Token.kind]
  | branch kind ts => simp [label, Token.text?, caption, Token.kind]

/-- A label tells the icon and what stands behind it. -/
theorem label_inj {t u : Token} (h : label t = label u) :
    icon t = icon u ∧ caption t = caption u := by
  obtain ⟨c, -, hc⟩ := exists_icon t
  obtain ⟨d, -, hd⟩ := exists_icon u
  rw [← String.toList_inj, toList_label, toList_label] at h
  -- icons are of the same length
  obtain ⟨hicon, hrest⟩ := List.append_inj h (by rw [hc, hd]; rfl)
  exact ⟨String.toList_inj.mp hicon, (List.cons.inj hrest).2⟩

/-- **Leaves with the same label** have the same kind and are shown with the same text. -/
theorem label_leaf_inj {kind kind' text text' : String}
    (h : label (.leaf kind text) = label (.leaf kind' text')) :
    kind = kind' ∧ excerpt text = excerpt text' := by
  obtain ⟨hkind, htext⟩ := Text.append_quoted_inj (label_inj h).2
  exact ⟨String.toList_inj.mp hkind, htext⟩

/-- Branches with the same label have the same kind. -/
theorem label_branch_inj {kind kind' : String} {ts us : List Token}
    (h : label (.branch kind ts) = label (.branch kind' us)) : kind = kind' :=
  String.toList_inj.mp (label_inj h).2

/-- **No leaf has the label of a branch.** If the icons agree then the branch is of a kind that has
its own icon, and in no such kind there is a blank. -/
theorem label_leaf_ne_branch (kind text kind' : String) (ts : List Token) :
    label (.leaf kind text) ≠ label (.branch kind' ts) := by
  intro h
  obtain ⟨hicon, hcaption⟩ := label_inj h
  obtain ⟨i, hi⟩ := mem_kindIcons_of_icon_eq hicon
  -- the blank in front of the text of the leaf stands in the kind of the branch
  have hblank : ' ' ∈ kind'.toList := by
    have hleaf : ' ' ∈ caption (.leaf kind text) := List.mem_append_right _ List.mem_cons_self
    rwa [hcaption] at hleaf
  have hkinds : ∀ p ∈ kindIcons, ' ' ∉ p.1.toList := by decide
  exact hkinds _ hi hblank

/-- A label is one line if the kind is. -/
theorem line_label {t : Token} (h : '\n' ∉ t.kind.toList) : '\n' ∉ (label t).toList := by
  obtain ⟨c, hc, hicon⟩ := exists_icon t
  have hcaption : '\n' ∉ caption t := by
    cases t with
    | leaf kind text =>
      have hquoted := Text.line_quoted (excerpt text)
      simpa [caption, hquoted, Token.kind] using h
    | branch kind ts => exact h
  simp [toList_label, hicon, hc.symm, hcaption]

/-! ### Rows -/

theorem toList_row (margin : String) (last : Bool) (t : Token) :
    (row margin last t).toList =
      margin.toList ++ ((connector last).toList ++ ' ' :: (label t).toList) := by
  simp [row]

/-- The line of a token tells whether it is the last of its siblings, and its label. -/
theorem row_inj {margin : String} {last last' : Bool} {t u : Token}
    (h : row margin last t = row margin last' u) : last = last' ∧ label t = label u := by
  rw [← String.toList_inj, toList_row, toList_row] at h
  have hlength : ∀ b, (connector b).toList.length = 2 := by decide
  obtain ⟨hconnector, hlabel⟩ := List.append_inj (List.append_cancel_left h)
    (by rw [hlength, hlength])
  have hlast : ∀ a b, (connector a).toList = (connector b).toList → a = b := by decide
  exact ⟨hlast _ _ hconnector, String.toList_inj.mp (List.cons.inj hlabel).2⟩

/-- **A line under a margin** begins with it. -/
def Under (margin line : String) : Prop := margin.toList <+: line.toList

/-- The line of a token is not under what stands below its siblings. -/
theorem not_under_row (margin : String) (b last : Bool) (t : Token) :
    ¬ Under (margin ++ cell b) (row margin last t) := by
  rintro ⟨rest, h⟩
  rw [toList_row, String.toList_append, List.append_assoc] at h
  -- below a token stand a stroke or blanks, and no token is joined to its line by these
  have hbehind := List.append_cancel_left h
  cases b <;> cases last <;> simp [cell, connector] at hbehind

/-- The lines of a forest are under its margin. -/
theorem under_of_mem {margin line : String} {ts : List Token} (h : line ∈ forestLines margin ts) :
    Under margin line := by
  obtain ⟨p, t, -, rfl⟩ := exists_lineOf h
  rw [Under, toList_row, String.toList_append, List.append_assoc]
  exact List.prefix_append _ _

/-- No line ends early if the kinds are on one line. -/
theorem line_of_mem {line : String} {ts : List Token} (hts : Token.OneLine ts)
    (h : line ∈ forestLines "" ts) : '\n' ∉ line.toList := by
  obtain ⟨p, t, hat, rfl⟩ := exists_lineOf h
  obtain ⟨v, hv, rfl⟩ := Token.exists_visit hat 0
  -- none of the parts of a line has a line feed
  have hmargin : '\n' ∉ (marginAt ts p).toList := by
    rw [marginAt, String.toList_join]
    simp only [List.mem_flatMap, List.mem_map, not_exists, not_and]
    rintro _ ⟨j, -, rfl⟩
    cases Token.hasLater ts (p.take (j + 1)) <;> decide
  have hconnector : '\n' ∉ (connector (!Token.hasLater ts p)).toList := by
    cases Token.hasLater ts p <;> decide
  have hlabel := line_label (hts v hv)
  rw [toList_row, String.empty_append]
  simp [hmargin, hconnector, hlabel]

/-! ### From lines back to tokens -/

/-- Lines that have something in common, in front of others the first of which has not. -/
theorem append_inj_of_head {P : String → Prop} {xs ys front back : List String}
    (hxs : ∀ l ∈ xs, P l) (hys : ∀ l ∈ ys, P l) (hfront : ∀ l, front.head? = some l → ¬ P l)
    (hback : ∀ l, back.head? = some l → ¬ P l) (h : xs ++ front = ys ++ back) :
    xs = ys ∧ front = back := by
  induction xs generalizing ys with
  | nil =>
    cases ys with
    | nil => exact ⟨rfl, h⟩
    | cons y ys =>
      -- one side has lines left that the other one has not
      obtain rfl : front = y :: (ys ++ back) := h
      exact absurd (hys y List.mem_cons_self) (hfront y rfl)
  | cons x xs ih =>
    cases ys with
    | nil =>
      obtain rfl : back = x :: (xs ++ front) := h.symm
      exact absurd (hxs x List.mem_cons_self) (hback x rfl)
    | cons y ys =>
      obtain ⟨rfl, hrest⟩ := List.cons.inj h
      obtain ⟨rfl, hothers⟩ := ih (fun l hl => hxs l (List.mem_cons_of_mem x hl))
        (fun l hl => hys l (List.mem_cons_of_mem x hl)) hrest
      exact ⟨rfl, hothers⟩

/-- The first line of a forest is that of its first token. -/
theorem head?_forestLines_cons (margin : String) (t : Token) (ts : List Token) :
    (forestLines margin (t :: ts)).head? = some (row margin ts.isEmpty t) := by
  rw [forestLines]
  cases t with
  | leaf kind text => rw [tokenLines_leaf, List.cons_append, List.head?_cons]
  | branch kind us => rw [tokenLines_branch, List.cons_append, List.head?_cons]

/-- The lines below a branch end where the first one comes that is not under them. -/
theorem forestLines_append_inj {margin : String} {b : Bool} {children children' ts us : List Token}
    (h : forestLines (margin ++ cell b) children ++ forestLines margin ts =
      forestLines (margin ++ cell b) children' ++ forestLines margin us) :
    forestLines (margin ++ cell b) children = forestLines (margin ++ cell b) children' ∧
      forestLines margin ts = forestLines margin us := by
  -- what follows the lines below a branch is the line of a sibling
  have hhead : ∀ (vs : List Token) (l : String), (forestLines margin vs).head? = some l →
      ¬ Under (margin ++ cell b) l := by
    intro vs l hl
    cases vs with
    | nil => cases hl
    | cons v vs =>
      rw [head?_forestLines_cons] at hl
      cases hl
      exact not_under_row margin b _ v
  exact append_inj_of_head (fun _ => under_of_mem) (fun _ => under_of_mem) (hhead ts) (hhead us) h

mutual

/-- The first lines of two forests being the same, so are their first tokens, and the lines of the
others. -/
theorem tokenLines_append_inj {margin : String} {last last' : Bool} {ts us : List Token} :
    (t u : Token) → tokenLines margin last t ++ forestLines margin ts =
      tokenLines margin last' u ++ forestLines margin us →
      t.shown = u.shown ∧ forestLines margin ts = forestLines margin us
  | .leaf kind text, .leaf kind' text', h => by
    rw [tokenLines_leaf, tokenLines_leaf] at h
    obtain ⟨hrow, hrest⟩ := List.cons.inj h
    obtain ⟨rfl, htext⟩ := label_leaf_inj (row_inj hrow).2
    exact ⟨by rw [Token.shown, Token.shown, htext], hrest⟩
  -- the first rows are the same, and a leaf has not the label of a branch
  | .leaf kind text, .branch kind' us', h => by
    rw [tokenLines_leaf, tokenLines_branch] at h
    exact absurd (row_inj (List.cons.inj h).1).2 (label_leaf_ne_branch kind text kind' us')
  | .branch kind ts', .leaf kind' text', h => by
    rw [tokenLines_leaf, tokenLines_branch] at h
    exact absurd (row_inj (List.cons.inj h).1).2.symm (label_leaf_ne_branch kind' text' kind ts')
  | .branch kind ts', .branch kind' us', h => by
    rw [tokenLines_branch, tokenLines_branch] at h
    obtain ⟨hrow, hrest⟩ := List.cons.inj h
    obtain ⟨rfl, hlabel⟩ := row_inj hrow
    obtain rfl := label_branch_inj hlabel
    -- both branches are the last of their siblings or none is, so the margin below them is the same
    obtain ⟨hchildren, hothers⟩ := forestLines_append_inj hrest
    exact ⟨by rw [Token.shown, Token.shown, forestLines_inj ts' us' hchildren], hothers⟩

/-- **Forests with the same lines** are shown alike. -/
theorem forestLines_inj {margin : String} :
    (ts us : List Token) → forestLines margin ts = forestLines margin us →
      Token.shownAll ts = Token.shownAll us
  | [], [], _ => rfl
  | [], u :: us, h =>
    -- no forest that has a token is without lines
    by
    have hhead := congrArg List.head? h
    rw [head?_forestLines_cons] at hhead
    cases hhead
  | t :: ts, [], h => by
    have hhead := congrArg List.head? h
    rw [head?_forestLines_cons] at hhead
    cases hhead
  | t :: ts, u :: us, h => by
    rw [forestLines, forestLines] at h
    obtain ⟨hfirst, hothers⟩ := tokenLines_append_inj t u h
    rw [Token.shownAll, Token.shownAll, hfirst, forestLines_inj ts us hothers]

end

/-! ### From the outline back to lines -/

/-- **Lines are told apart** by the line feeds behind them. -/
theorem lines_inj {xs ys : List String} (hxs : ∀ l ∈ xs, '\n' ∉ l.toList)
    (hys : ∀ l ∈ ys, '\n' ∉ l.toList)
    (h : String.join (xs.map fun l => l ++ "\n") = String.join (ys.map fun l => l ++ "\n")) :
    xs = ys := by
  rw [← String.toList_inj, String.toList_join, String.toList_join] at h
  induction xs generalizing ys with
  | nil =>
    cases ys with
    | nil => rfl
    | cons y ys => simp at h
  | cons x xs ih =>
    cases ys with
    | nil => simp at h
    | cons y ys =>
      rw [List.forall_mem_cons] at hxs hys
      -- both first lines go as far as the first line feed
      simp only [List.map_cons, List.flatMap_cons, String.toList_append, List.append_assoc] at h
      obtain ⟨hline, hrest⟩ := Text.append_cons_inj hxs.1 hys.1 h
      rw [String.toList_inj.mp hline, ih hxs.2 hys.2 hrest]

/-- **Outlines tell forests apart.** Forests with kinds on one line have the same outline exactly if
they are the same but for the ends of long texts. -/
theorem render_eq_iff {ts us : List Token} (hts : Token.OneLine ts) (hus : Token.OneLine us) :
    render ts = render us ↔ Token.shownAll ts = Token.shownAll us := by
  constructor
  · intro h
    exact forestLines_inj ts us (lines_inj (fun _ => line_of_mem hts) (fun _ => line_of_mem hus) h)
  · intro h
    have hlines : forestLines "" ts = forestLines "" us := by
      rw [← forestLines_shownAll, h, forestLines_shownAll]
    rw [render, render, hlines]

/-- Two leaves whose lines differ by a backslash only. -/
theorem render_eq_iff_quotes :
    let ts : List Token := [.leaf "k \"a" "b"]
    let us : List Token := [.leaf "k" "a \"b"]
    Token.OneLine ts ∧ Token.OneLine us ∧ render ts ≠ render us := by
  intro ts us
  have hts : Token.OneLine ts := by decide +kernel
  have hus : Token.OneLine us := by decide +kernel
  refine ⟨hts, hus, fun h => ?_⟩
  have hshown : Token.shownAll ts = Token.shownAll us := (render_eq_iff hts hus).mp h
  exact absurd hshown (by decide +kernel)

/-- A kind that goes over two lines looks like two branches. -/
example : render [.branch "a\n  └─ ○ b" []] = render [.branch "a" [.branch "b" []]] := by
  decide +kernel

/-! ### One line for each visit -/

open Token (at? hasLater addresses)

/-- **One line for each token.** If kinds are on one line, the outline is made of lines, each ended
by a line feed, one for each visit of the walks of the roots in turn. The tokens stand at the
addresses of the forest in lexicographic order. In front of a token at depth `d` stand `d` cells of
two characters, that of depth `j` with a stroke if the ancestor at that depth has a later sibling;
then what joins the token to the line, according to whether it has one itself, and its label. -/
theorem render_by_visits {ts : List Token} (hts : Token.OneLine ts) :
    ∃ (lines : List String) (ps : List Token.Address),
      render ts = String.join (lines.map fun line => line ++ "\n") ∧
      (∀ line ∈ lines, '\n' ∉ line.toList) ∧
      lines.length = (ts.flatMap Token.walk).length ∧
      (ps.Pairwise (· < ·) ∧ ∀ p, p ∈ ps ↔ (at? ts p).isSome) ∧
      ∀ (i : Nat) (v : Token.Visit), (ts.flatMap Token.walk)[i]? = some v →
        ∃ p, ps[i]? = some p ∧ p.length = v.depth + 1 ∧ at? ts p = some v.token ∧
          lines[i]? = some
            (String.join ((List.range v.depth).map fun j =>
                if hasLater ts (p.take (j + 1)) then "│ " else "  ") ++
              (if hasLater ts p then "├─" else "└─") ++ " " ++ label v.token) := by
  -- lines and visits both go by the addresses, so that they go together
  have hlines := forestLines_addresses "" ts
  have hvisits := Token.walkList_addresses 0 ts
  refine ⟨forestLines "" ts, addresses ts, rfl, fun _ => line_of_mem hts, ?_,
    ⟨Token.pairwise_addresses ts, Token.mem_addresses ts⟩, ?_⟩
  · rw [Token.flatMap_walk, hlines.length_eq, hvisits.length_eq]
  · rw [Token.flatMap_walk]
    intro i v hv
    obtain ⟨p, hp, hdepth, hat⟩ := exists_getElem?_of_forall₂ hvisits hv
    obtain ⟨line, hline, t, ht, hrow⟩ := exists_getElem?_of_forall₂ hlines.flip hp
    -- the visit and the line belong to the same token, which is the one at the address
    obtain rfl : v.token = t := Option.some.inj (hat.symm.trans ht)
    refine ⟨p, hp, by omega, hat, ?_⟩
    have hcells : p.length - 1 = v.depth := by omega
    simp only [hline, hrow, row, marginAt, String.empty_append, hcells, cell_not, connector_not]

/-- A branch with a later sibling, a line feed inside it, and an empty branch. -/
theorem render_by_visits_nested :
    let ts : List Token := [.branch "bold" [.word "\n", .branch "code" []], .leaf "x y" ""]
    Token.OneLine ts ∧ ∃ lines : List String,
      render ts = String.join (lines.map fun line => line ++ "\n") ∧
      lines.length = (ts.flatMap Token.walk).length ∧
      lines = ["├─ 𝐁 bold", "│ ├─ ◦ word \"\\n\"", "│ └─ ƒ code", "└─ • x y \"\""] := by
  intro ts
  have hts : Token.OneLine ts := by decide +kernel
  obtain ⟨lines, -, hrender, hline, hlength, -⟩ := render_by_visits hts
  -- lines without line feeds are known from the outline
  refine ⟨hts, lines, hrender, hlength, lines_inj hline (by decide) (hrender.symm.trans ?_)⟩
  decide +kernel

end Outline
end InlineMarkup
