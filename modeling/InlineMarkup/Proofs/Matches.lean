import InlineMarkup.Proofs.Priority

/-!
# Leaves and matches

A leaf type with a constraint takes what the constraint measures: one *match* at a time. A match of
more than one character becomes a leaf at once, but only where no leaf of its kind is under way. A
leaf that begins with a match of one character goes on character by character, as long as further
matches begin, and it takes one character of each. If a match is longer than that, and no match
begins further inside it, then the leaf ends there, and the match is cut off.

* `Constraint.Composes` — a text that is made of whole matches.
* `Constraint.CutOff` — a text that is made of whole matches but for the last, which is cut off.
* `Tokenizer.composes_of_steady` — the text of a leaf is one or the other, and it is made of whole
  matches if the constraint is steady on the whole text: no match of one character is followed
  directly by a longer one (`Constraint.Steady`).
* `Constraint.steady_literals` — words are steady if all of them have one character, or none has.
* `Tokenizer.not_composes_mixed` — in general a leaf is not made of whole matches.
-/

namespace InlineMarkup

namespace Constraint

/-! ### Matches -/

/-- **A match:** all of a piece, which is not empty, is measured in front of what follows it. -/
structure Matches (c : Constraint) (piece behind : List Char) : Prop where
  filled : piece ≠ []
  measured : c.measure (piece ++ behind) = some (Text.byteLength piece)

/-- **A text made of whole matches,** one or more, each measured where it begins. -/
inductive Composes (c : Constraint) : List Char → List Char → Prop where
  | one {piece behind} (last : c.Matches piece behind) : Composes c piece behind
  | more {piece others behind} (first : c.Matches piece (others ++ behind))
      (onward : Composes c others behind) : Composes c (piece ++ others) behind

/-- **A text whose last match is cut off.** It ends inside that match, and what is in front of it is
made of whole matches. -/
inductive CutOff (c : Constraint) : List Char → List Char → Prop where
  | last {part missing behind} (filled : part ≠ []) (cut : missing ≠ [])
      (whole : c.Matches (part ++ missing) behind) : CutOff c part (missing ++ behind)
  | more {piece others behind} (first : c.Matches piece (others ++ behind))
      (onward : CutOff c others behind) : CutOff c (piece ++ others) behind

/-- **A constraint that is steady on a text:** directly behind a match of one character there is no
match of more. -/
def Steady (c : Constraint) (text : List Char) : Prop :=
  ∀ front d piece behind, text = front ++ d :: (piece ++ behind) →
    c.Matches [d] (piece ++ behind) → c.Matches piece behind → piece.length = 1

variable {c : Constraint} {piece text behind : List Char}

/-- **At one place there is one match.** -/
theorem Matches.unique {piece' behind' : List Char} (h : c.Matches piece behind)
    (h' : c.Matches piece' behind') (hsame : piece ++ behind = piece' ++ behind') :
    piece = piece' ∧ behind = behind' := by
  have hmeasured := h.measured
  rw [hsame, h'.measured] at hmeasured
  exact Text.append_inj_of_byteLength_eq hsame (Option.some.inj hmeasured).symm

theorem CutOff.ne_nil (h : c.CutOff text behind) : text ≠ [] := by
  cases h with
  | last filled cut whole => exact filled
  | more first onward => exact List.append_ne_nil_of_left_ne_nil first.filled _

/-- The first match of a text whose last one is cut off: that one, or a whole one. -/
theorem CutOff.first (h : c.CutOff text behind) :
    (∃ missing rest, behind = missing ++ rest ∧ missing ≠ [] ∧ c.Matches (text ++ missing) rest) ∨
      ∃ piece others, text = piece ++ others ∧ c.Matches piece (others ++ behind) ∧
        c.CutOff others behind := by
  cases h with
  | last filled cut whole => exact .inl ⟨_, _, rfl, cut, whole⟩
  | more first onward => exact .inr ⟨_, _, rfl, first, onward⟩

/-- **What is made of whole matches does not end inside one:** going from match to match leaves no
choice. -/
theorem Composes.not_cutOff (h : c.Composes text behind) : ¬ c.CutOff text behind := by
  -- the first match is the same one in both accounts
  induction h with
  | one last =>
    intro hcut
    rcases hcut.first with
      ⟨missing, rest, rfl, hmissing, hfirst⟩ | ⟨piece', others, rfl, hfirst, hrest⟩
    · have hsame := (last.unique hfirst (List.append_assoc _ _ _).symm).1
      exact hmissing (List.self_eq_append_right.mp hsame)
    · -- a whole match, so nothing is left to be cut off
      have hsame := (last.unique hfirst (List.append_assoc _ _ _)).1
      exact hrest.ne_nil (List.append_right_eq_self.mp hsame)
  | @more piece others behind first onward ih =>
    intro hcut
    rcases hcut.first with
      ⟨missing, rest, rfl, hmissing, hfirst⟩ | ⟨piece', others', hpieces, hfirst, hrest⟩
    · have hsame := (first.unique hfirst (by simp)).1
      simp [hmissing] at hsame
    · -- two whole matches are the same, and what is behind them is no longer
      have hplace : piece ++ (others ++ behind) = piece' ++ (others' ++ behind) := by
        rw [← List.append_assoc, hpieces, List.append_assoc]
      obtain ⟨rfl, hothers⟩ := first.unique hfirst hplace
      obtain rfl := List.append_cancel_right hothers
      exact ih hrest

/-- Some match begins at each character of the text. -/
def MatchesThroughout (c : Constraint) (text behind : List Char) : Prop :=
  ∀ xs ys, text = xs ++ ys → ys ≠ [] → ∃ piece rest, ys ++ behind = piece ++ rest ∧
    c.Matches piece rest

/-- What is left of a text in which matches begin throughout is such a text. -/
theorem MatchesThroughout.of_append {front : List Char}
    (h : c.MatchesThroughout (front ++ text) behind) : c.MatchesThroughout text behind := by
  rintro xs ys rfl hys
  exact h (front ++ xs) ys (List.append_assoc _ _ _).symm hys

/-- **Where matches begin throughout,** going from match to match ends at the end of the text or
inside a match. -/
theorem MatchesThroughout.composes_or_cutOff (h : c.MatchesThroughout text behind)
    (hne : text ≠ []) : c.Composes text behind ∨ c.CutOff text behind := by
  -- behind the first match there is less of the text
  induction hlen : text.length using Nat.strongRecOn generalizing text with
  | ind len ih =>
  obtain ⟨piece, rest, hcut, hfirst⟩ := h [] text rfl hne
  rcases List.append_eq_append_iff.mp hcut with ⟨missing, rfl, rfl⟩ | ⟨others, rfl, rfl⟩
  · -- the first match goes to the end of the text, or beyond
    by_cases hmissing : missing = []
    · subst hmissing
      rw [List.append_nil] at hfirst
      exact .inl (.one hfirst)
    · exact .inr (.last hne hmissing hfirst)
  · -- there is more of the text behind it
    by_cases hothers : others = []
    · subst hothers
      rw [List.append_nil]
      exact .inl (.one hfirst)
    · have hshorter : others.length < len := hlen ▸ Text.length_lt_of_cut rfl hfirst.filled
      rcases ih _ hshorter h.of_append hothers rfl with hwhole | hcutOff
      · exact .inl (.more hfirst hwhole)
      · exact .inr (.more hfirst hcutOff)

/-- **Where the constraint is steady,** a text that begins with a match of one character, and in
which matches begin throughout, is made of matches of one character. -/
theorem MatchesThroughout.composes_steadily {d : Char} {ds : List Char} {whole front : List Char}
    (h : c.MatchesThroughout (d :: ds) behind) (hfirst : c.Matches [d] (ds ++ behind))
    (hwhole : whole = front ++ (d :: ds ++ behind)) (hsteady : c.Steady whole) :
    c.Composes (d :: ds) behind := by
  induction ds generalizing d front with
  | nil => exact .one hfirst
  | cons e es ih =>
    -- the match at the next character is one character long, that character
    obtain ⟨piece, rest, hcut, hnext⟩ := h [d] (e :: es) rfl (List.cons_ne_nil e es)
    have hlength : piece.length = 1 := by
      refine hsteady front d piece rest ?_ ?_ hnext
      · rw [hwhole, List.cons_append, hcut]
      · rwa [← hcut]
    obtain ⟨e', rfl⟩ := List.length_eq_one_iff.mp hlength
    obtain ⟨rfl, rfl⟩ : e = e' ∧ es ++ behind = rest := List.cons.inj hcut
    have hthroughout : c.MatchesThroughout ([d] ++ e :: es) behind := h
    have hwhole' : whole = (front ++ [d]) ++ (e :: es ++ behind) := by rw [hwhole]; simp
    exact .more hfirst (ih hthroughout.of_append hnext hwhole')

/-! ### Words -/

/-- A match of words is one of them. -/
theorem matches_literals {words : List String} (h : (literals words).Matches piece behind) :
    ∃ w ∈ words, piece = w.toList := by
  obtain ⟨-, hmeasured⟩ := h
  -- the word that is found stands at the front and is as long as the match
  obtain ⟨w, hfind, hsize⟩ := Option.map_eq_some_iff.mp hmeasured
  have hmem : w ∈ words := (List.mem_filter.mp (List.mem_of_find?_eq_some hfind)).1
  have hprefix : w.toList.isPrefixOf (piece ++ behind) = true := by
    simpa using List.find?_some hfind
  obtain ⟨rest, hstarts⟩ := List.isPrefixOf_iff_prefix.mp hprefix
  rw [← Text.byteLength_toList] at hsize
  exact ⟨w, hmem, (Text.append_inj_of_byteLength_eq hstarts hsize).1.symm⟩

/-- **What is made of matches of words is a concatenation of words.** -/
theorem Composes.exists_words {words : List String} (h : (literals words).Composes text behind) :
    ∃ ws : List String, (∀ w ∈ ws, w ∈ words) ∧ text = ws.flatMap String.toList := by
  induction h with
  | one last =>
    obtain ⟨w, hw, rfl⟩ := matches_literals last
    exact ⟨[w], by simpa using hw, by simp⟩
  | more first onward ih =>
    obtain ⟨w, hw, rfl⟩ := matches_literals first
    obtain ⟨ws, hws, rfl⟩ := ih
    exact ⟨w :: ws, List.forall_mem_cons.mpr ⟨hw, hws⟩, rfl⟩

/-- **Words are steady** if none of them has more than one character, or if none has just one. -/
theorem steady_literals {words : List String}
    (h : (∀ w ∈ words, w.length ≤ 1) ∨ ∀ w ∈ words, w.length ≠ 1) (text : List Char) :
    (literals words).Steady text := by
  intro front d piece behind _ hsingle hnext
  obtain ⟨w, hw, hd⟩ := matches_literals hsingle
  obtain ⟨v, hv, rfl⟩ := matches_literals hnext
  -- the match is too long for the words, or there is no word for the character in front of it
  rcases h with hshort | hnone
  · have hle := hshort v hv
    have hpos := List.length_pos_iff.mpr hnext.filled
    rw [String.length_toList] at hpos ⊢
    omega
  · refine absurd ?_ (hnone w hw)
    rw [← String.length_toList, ← hd, List.length_singleton]

end Constraint

/-! ### Leaves of a text -/

/-- **Where a measured leaf comes next, a match stands,** of the length that was found. -/
theorem Level.Proper.exists_matches {level : Level} (h : level.Proper) {coming : List Char}
    {kind : String} {c : Constraint} {n : Nat}
    (hnext : level.next coming = ⟨.leaf kind (some c), n⟩) :
    ∃ piece rest, coming = piece ++ rest ∧ n = Text.byteLength piece ∧ c.Matches piece rest := by
  rcases next_cases hnext with ⟨hmem, hfit⟩ | ⟨hword, -⟩
  · obtain ⟨hpos, hboundary⟩ := TokenType.boundary_of_fit (h.rules.faultless _ hmem) hfit
    obtain ⟨piece, rest, rfl, rfl⟩ := Text.isBoundary_iff.mp hboundary
    refine ⟨piece, rest, rfl, rfl, ?_, ?_⟩
    · rintro rfl
      exact absurd hpos (Nat.lt_irrefl 0)
    · -- what fits is what was measured
      have hmatch := TokenType.matches?_eq_some_iff.mpr hfit
      exact (TokenType.matches?_constrained_iff.mp hmatch).1
  · cases hword

namespace Scan

variable {limit : Nat} {level : Level} {kind : String} {c : Constraint}
  {piece behind : List Char}

/-- **In a run of a measured kind** a match begins at each character, and the match at the first one
is that character. -/
theorem Run.matches (h : Run level kind piece behind) (hlevel : level.Proper)
    (hmem : .leaf kind (some c) ∈ level.rules) :
    c.MatchesThroughout piece behind ∧
      ∃ d ds, piece = d :: ds ∧ c.Matches [d] (ds ++ behind) := by
  refine ⟨fun xs ys hcut hys => ?_, ?_⟩
  · obtain ⟨n, hnext⟩ := h.next_of_mem hlevel hmem hcut hys
    obtain ⟨m, rest, hm, -, hmatch⟩ := hlevel.exists_matches hnext
    exact ⟨m, rest, hm, hmatch⟩
  · obtain ⟨d, ds, rfl⟩ := h.exists_cons
    obtain ⟨n, hnext⟩ :=
      h.next_of_mem hlevel hmem (List.nil_append _).symm (List.cons_ne_nil d ds)
    obtain rfl := h.short rfl hnext
    obtain ⟨m, rest, hm, hsize, hmatch⟩ := hlevel.exists_matches hnext
    obtain ⟨rfl, rfl⟩ := Text.append_inj_of_byteLength_eq
      (show [d] ++ (ds ++ behind) = m ++ rest from hm) (by simpa using hsize)
    exact ⟨d, ds, rfl, hmatch⟩

/-- **What a measured leaf covers** is made of matches: of whole ones, or the last is cut off. That
does not happen where the constraint is steady. -/
theorem Covers.composes {content : String}
    (h : Covers limit level (.leaf kind content) piece behind) (hlevel : level.Proper)
    (hmem : .leaf kind (some c) ∈ level.rules) {whole front : List Char}
    (hwhole : whole = front ++ (piece ++ behind)) :
    content.toList = piece ∧ (c.Composes piece behind ∨ c.CutOff piece behind) ∧
      (c.Steady whole → c.Composes piece behind) := by
  cases h with
  | @whole _ _ _ constraint _ _ next long =>
    -- one match that is the leaf; the rule it comes from is the one of the kind
    have hnamed : kind ≠ wordKind := hlevel.rules.kind_ne_word hmem
    have hfirst := Level.first?_of_next next hnamed
    cases hlevel.rules.eq_of_kind_eq (Level.mem_of_first? hfirst) hmem rfl
    obtain ⟨m, rest, hm, hsize, hmatch⟩ := hlevel.exists_matches next
    obtain ⟨rfl, rfl⟩ := Text.append_inj_of_byteLength_eq hm hsize
    exact ⟨String.toList_ofList, .inl (.one hmatch), fun _ => .one hmatch⟩
  | run run =>
    -- single characters, at each of which a match begins
    obtain ⟨hthroughout, d, ds, rfl, hfirst⟩ := run.matches hlevel hmem
    exact ⟨String.toList_ofList, hthroughout.composes_or_cutOff (List.cons_ne_nil d ds),
      hthroughout.composes_steadily hfirst hwhole⟩

end Scan

namespace Tokenizer

/-- **Measured leaves are made of matches.** With a valid grammar, the text of a leaf whose type has
a constraint is made of whole matches, each measured where it begins in the text, unless the leaf
ends inside a match. If the constraint is steady on the text, that does not happen; a leaf of words
is then a concatenation of these. -/
theorem composes_of_steady (t : Tokenizer) (hg : t.grammar.Valid) (text : String) :
    ∀ p ∈ t.places text, ∀ kind content c, p.token = .leaf kind content →
      .leaf kind (some c) ∈ p.level.rules →
        let behind := Text.dropBytes p.finish text.toList
        Text.dropBytes p.position text.toList = content.toList ++ behind ∧
        (c.Composes content.toList behind ↔ ¬ c.CutOff content.toList behind) ∧
        (c.Steady text.toList → c.Composes content.toList behind ∧
          ∀ words, c = .literals words → ∃ ws : List String,
            (∀ w ∈ ws, w ∈ words) ∧ content.toList = ws.flatMap String.toList) := by
  intro p hp kind content c htoken hmem behind
  have hfound := found hg text p hp
  -- the leaf covers a piece of the text, from its place up to where it ends
  obtain ⟨limit, piece, rest, hcovers, -, hfrom, hto⟩ := hfound.exists_piece
  have hbehind : behind = rest := hto.dropBytes_eq
  have hstands := hfrom.dropBytes_eq
  obtain ⟨front, hwhole, -⟩ := hfrom
  rw [htoken] at hcovers
  obtain ⟨hcontent, hmade, hsteady⟩ := hcovers.composes hfound.proper hmem hwhole
  rw [hbehind, hcontent]
  refine ⟨hstands, ⟨Constraint.Composes.not_cutOff, hmade.resolve_right⟩,
    fun h => ⟨hsteady h, ?_⟩⟩
  rintro words rfl
  exact (hsteady h).exists_words

/-- Two digits in bold text. -/
theorem composes_of_steady_digits :
    let digits : Constraint := .literals ["0", "1"]
    let bold : TokenType := .surround "bold" "*"
    let t : Tokenizer := ⟨[.constrained "digit" digits, bold], 64⟩
    let p : Place := ⟨(Level.top t.grammar).inside bold, 2, .leaf "digit" "01"⟩
    t.grammar.Valid ∧ p ∈ t.places "*a01*" ∧
      .leaf "digit" (some digits) ∈ p.level.rules ∧ digits.Steady "*a01*".toList ∧
      digits.Composes "01".toList (Text.dropBytes p.finish "*a01*".toList) := by
  intro digits bold t p
  have hg : t.grammar.Valid := Grammar.valid_of_flat rfl (by decide)
  have htokens : t.tokenize "*a01*" = [.branch "bold" [.word "a", .leaf "digit" "01"]] := by
    rw [tokenize_eq_outcome hg]
    decide +kernel
  have hp : p ∈ t.places "*a01*" := by
    rw [places, htokens]
    exact List.mem_cons_of_mem _ (List.mem_cons_of_mem _ List.mem_cons_self)
  -- the digit is known inside the bold text as well, and no digit has two characters
  have hmem : .leaf "digit" (some digits) ∈ p.level.rules := List.mem_cons_self
  have hsteady : digits.Steady "*a01*".toList :=
    Constraint.steady_literals (.inl (by decide)) _
  have h := composes_of_steady t hg "*a01*" p hp "digit" "01" digits rfl hmem
  exact ⟨hg, hp, hmem, hsteady, (h.2.2 hsteady).1⟩

/-- A short word and a longer one of the same kind. -/
def mixed : Grammar := [.constrained "code" (.literals ["a", "bc"])]

/-- **In general a leaf is not made of whole matches.** The longer word is met while the shorter one
is under way. The leaf takes one character of it, and the other is left over. -/
theorem not_composes_mixed :
    mixed.Valid ∧ (⟨mixed, 64⟩ : Tokenizer).tokenize "abc" = [.leaf "code" "ab", .word "c"] ∧
      ¬ ∀ p ∈ (⟨mixed, 64⟩ : Tokenizer).places "abc", ∀ kind content c,
        p.token = .leaf kind content → .leaf kind (some c) ∈ p.level.rules →
          c.Composes content.toList (Text.dropBytes p.finish "abc".toList) := by
  have hg : mixed.Valid := Grammar.valid_of_flat rfl (by decide)
  have htokens : (⟨mixed, 64⟩ : Tokenizer).tokenize "abc" = [.leaf "code" "ab", .word "c"] := by
    rw [tokenize_eq_outcome hg]
    decide +kernel
  refine ⟨hg, htokens, fun hall => ?_⟩
  have hp : (⟨Level.top mixed, 0, .leaf "code" "ab"⟩ : Place) ∈
      (⟨mixed, 64⟩ : Tokenizer).places "abc" := by
    rw [places, htokens]
    exact List.mem_cons_self
  obtain ⟨ws, hws, hcontent⟩ :=
    (hall _ hp "code" "ab" (.literals ["a", "bc"]) rfl List.mem_cons_self).exists_words
  -- words have as many letters b as letters c, the leaf has not
  have hcount : (ws.flatMap String.toList).count 'b' = (ws.flatMap String.toList).count 'c' := by
    rw [List.count_flatMap, List.count_flatMap]
    refine congrArg List.sum (List.map_congr_left fun w hw => ?_)
    have hword : w = "a" ∨ w = "bc" := by simpa using hws w hw
    rcases hword with rfl | rfl <;> decide
  rw [← hcontent] at hcount
  exact absurd hcount (by decide)

end Tokenizer
end InlineMarkup
