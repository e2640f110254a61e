import InlineMarkup.Proofs.Json.RoundTrip
import InlineMarkup.Proofs.Nesting

/-!
# The tokens of a text through JSON

Two limits meet where the tokens of a text are written as JSON and read back: the nesting that the
tokenizer allows, and that of the arrays and objects which are read. A level of tokens takes two
levels of JSON, so that tokens inside up to 62 branches come back. Empty tokens, the other reason
for a forest not to come back, a text does not have.

* `comesBack_tokenize` — the tokens of a text come back exactly if none of them is inside more than
  62 branches; those of a tokenizer that allows for 62 levels always do.
* `forall_comesBack_iff` — a tokenizer that allows for more does not always give such tokens.
* `not_comesBack_nested` — the nesting that a tokenizer allows if nothing else is said is more.
-/

namespace InlineMarkup.Json.Forest

/-- **A forest that comes back** from the text that it is written as. -/
def ComesBack (ts : List Token) : Prop := ofText (render ts) = .ok ts

/-- The tokens of a text come back unless one of them is inside too many branches. -/
theorem comesBack_tokenize_iff {t : Tokenizer} (hg : t.grammar.Valid) (text : String) :
    ComesBack (t.tokenize text) ↔ ∀ v ∈ Token.walkList 0 (t.tokenize text), v.depth ≤ 62 := by
  -- no token of a text is empty
  have hfilled := (Tokenizer.reads_tokenize hg text).filled (fun _ => nofun) 0
  rw [ComesBack, ofText_render_eq_ok_iff]
  constructor
  · rintro ⟨-, hvisits⟩ v hv
    exact (hvisits v hv).2
  · intro hdepth
    exact ⟨rfl, fun v hv => ⟨hfilled v hv, hdepth v hv⟩⟩

/-- With 62 levels or less, whatever is read from a text comes back. -/
theorem comesBack_of_maxDepth_le {t : Tokenizer} (hg : t.grammar.Valid) (text : String)
    (hroom : t.maxDepth ≤ 62) : ComesBack (t.tokenize text) := by
  refine (comesBack_tokenize_iff hg text).mpr ?_
  intro v hv
  have hbranches := (Tokenizer.reads_tokenize hg text).branches_le (fun _ => nofun) 0 v hv
  have hdepth := v.depth_le_branches
  omega

/-- A letter inside more than 62 branches does not come back. -/
theorem not_comesBack_forest {n : Nat} (hn : 62 < n) : ¬ ComesBack (Nested.forest n) := by
  intro hback
  have hmem := Nested.mem_walkList_forest n 0
  rw [Nat.zero_add] at hmem
  have hdepth := ((ofText_render_eq_ok_iff.mp hback).2 _ hmem).2
  exact absurd hn (Nat.not_lt.mpr hdepth)

/-- **The nesting that comes back.** The tokens of all texts come back, whatever the grammar,
exactly if no more than 62 branches are allowed inside each other. -/
theorem forall_comesBack_iff {maxDepth : Nat} :
    (∀ g : Grammar, g.Valid → ∀ text, ComesBack ((⟨g, maxDepth⟩ : Tokenizer).tokenize text)) ↔
      maxDepth ≤ 62 := by
  constructor
  · -- with more than 62 levels, a letter can be inside 63 branches
    intro hback
    by_contra hdeep
    have hforest := hback Nested.grammar Nested.valid (Nested.text 63)
    rw [Nested.tokenize_text (Nat.not_le.mp hdeep)] at hforest
    exact not_comesBack_forest (Nat.lt_succ_self 62) hforest
  · intro hroom g hg text
    exact comesBack_of_maxDepth_le hg text hroom

/-- **Which tokens of texts come back.** Those of a text come back exactly if none of them is inside
more than 62 branches, and a tokenizer that allows for no more gives no others. -/
theorem comesBack_tokenize {t : Tokenizer} (hg : t.grammar.Valid) (text : String) :
    (ComesBack (t.tokenize text) ↔ ∀ v ∈ Token.walkList 0 (t.tokenize text), v.depth ≤ 62) ∧
      (t.maxDepth ≤ 62 → ComesBack (t.tokenize text)) :=
  ⟨comesBack_tokenize_iff hg text, comesBack_of_maxDepth_le hg text⟩

/-- A branch in a branch, with a text that JSON has to escape. -/
theorem comesBack_tokenize_quote :
    let t : Tokenizer := ⟨Grammar.stock, 64⟩
    Grammar.stock.Valid ∧
      t.tokenize "~_\"é_~ b" = [.branch "strike" [.branch "italic" [.word "\"é"]], .word " b"] ∧
      (∀ v ∈ Token.walkList 0 (t.tokenize "~_\"é_~ b"), v.depth ≤ 62) ∧
      ComesBack (t.tokenize "~_\"é_~ b") := by
  intro t
  have htokens : t.tokenize "~_\"é_~ b" =
      [.branch "strike" [.branch "italic" [.word "\"é"]], .word " b"] := by
    rw [Tokenizer.tokenize_eq_outcome Grammar.valid_stock]
    decide +kernel
  have hdepth : ∀ v ∈ Token.walkList 0 (t.tokenize "~_\"é_~ b"), v.depth ≤ 62 := by
    rw [htokens]
    decide
  exact ⟨Grammar.valid_stock, htokens, hdepth,
    (comesBack_tokenize (t := t) Grammar.valid_stock "~_\"é_~ b").1.mpr hdepth⟩

/-- **More is allowed than comes back.** A letter inside 63 branches is read from its text by a
tokenizer with the usual limit, and does not come back. -/
theorem not_comesBack_nested :
    let t : Tokenizer := { grammar := Nested.grammar }
    t.grammar.Valid ∧ t.maxDepth = 64 ∧ t.tokenize (Nested.text 63) = Nested.forest 63 ∧
      ¬ ComesBack (t.tokenize (Nested.text 63)) := by
  intro t
  have htokens : t.tokenize (Nested.text 63) = Nested.forest 63 :=
    Nested.tokenize_text (by decide)
  refine ⟨Nested.valid, rfl, htokens, ?_⟩
  rw [htokens]
  exact not_comesBack_forest (Nat.lt_succ_self 62)

end InlineMarkup.Json.Forest
