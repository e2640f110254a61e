import InlineMarkup.Proofs.Canonical

/-!
# Plain text around a text

Where all types are branches, a text without their marks can be put behind another text or in front
of it, and only becomes a part of the first or last word, or a word of its own. Behind a text it is
in the interior of every branch that was tried there; it must not close any of them, nor make a
branch open that was given up for want of an interior.

* `Token.textBehind`, `Token.textBefore` — a forest with text at its end or at its front.
* `Level.Indifferent` — a level at which a text is never more than text, and so inside of every
  branch.
* `Scan.openAlike` — a branch opens in front of a longer interior exactly if it did before, and
  holds the same. This rests on `Scan.resume_append_of_closing` at the next lower limit, which says
  that an interior ends as before.
* `Scan.Reads.onto_word` — with a word under way, a reading puts it in front.
* `Tokenizer.tokenize_surroundings` — the conclusion for both sides.
-/

namespace InlineMarkup

/-! ### Forests with more text -/

namespace Token

/-- **A forest with text behind it:** the text goes to the last token if that is a word, and is a
word of its own otherwise. -/
def textBehind (ts : List Token) (text : String) : List Token :=
  match ts.getLast? with
  | some (.leaf kind last) =>
    if kind = wordKind then ts.dropLast ++ [.word (last ++ text)] else ts ++ [.word text]
  | _ => ts ++ [.word text]

/-- **A forest with text before it:** the text goes to the first token if that is a word, and is a
word of its own otherwise. -/
def textBefore (text : String) (ts : List Token) : List Token :=
  match ts with
  | .leaf kind first :: later =>
    if kind = wordKind then .word (text ++ first) :: later else .word text :: ts
  | _ => .word text :: ts

example : textBehind [.branch "em" [], .word "a"] "é" = [.branch "em" [], .word "aé"] := by
  decide +kernel

/-- The first word goes on from the text. -/
theorem textBefore_word (text first : String) (later : List Token) :
    textBefore text (.word first :: later) = .word (text ++ first) :: later := by
  rw [word, textBefore, if_pos rfl]

/-- Only the end of a forest is changed. -/
theorem textBehind_append {ts : List Token} (hfilled : ts ≠ []) (done : List Token)
    (text : String) : textBehind (done ++ ts) text = done ++ textBehind ts text := by
  unfold textBehind
  rw [List.getLast?_append_of_ne_nil _ hfilled, List.dropLast_append_of_ne_nil hfilled]
  rcases ts.getLast? with _ | (_ | _)
  · exact List.append_assoc _ _ _
  · dsimp only
    split <;> exact List.append_assoc _ _ _
  · exact List.append_assoc _ _ _

/-- Behind a branch the text is a word of its own. -/
theorem textBehind_branch (done : List Token) {token : Token} (hbranch : token.isLeaf = false)
    (ts : List Token) (text : String) :
    textBehind (done ++ token :: ts) text = done ++ token :: textBehind ts text := by
  rw [textBehind_append (List.cons_ne_nil _ _)]
  cases ts with
  | nil =>
    cases token with
    | leaf kind text => cases hbranch
    | branch kind children => rfl
  | cons t ts => rw [← List.singleton_append, textBehind_append (List.cons_ne_nil _ _)]; rfl

end Token

namespace Text

/-- What has none of the characters of a mark does not complete it. -/
theorem prefix_append_iff {mark coming text : List Char} (hfree : ∀ c ∈ text, c ∉ mark) :
    mark <+: coming ++ text ↔ mark <+: coming := by
  refine ⟨fun h => ?_, fun h => h.trans (List.prefix_append _ _)⟩
  rcases List.prefix_or_prefix_of_prefix h (List.prefix_append coming text) with h' | ⟨more, rfl⟩
  · exact h'
  · have hmore : more <+: text := (List.prefix_append_right_inj coming).mp h
    cases more with
    | nil => simp only [List.append_nil, List.prefix_rfl]
    | cons c cs =>
      -- the mark would go on with a character of the text
      have hmem : c ∈ text := hmore.subset List.mem_cons_self
      exact absurd (List.mem_append_right coming List.mem_cons_self) (hfree c hmem)

/-- A cut behind a leading part is the same in a longer text. -/
theorem dropBytes_append_of_prefix {mark : String} {coming : List Char}
    (h : mark.toList <+: coming) (text : List Char) :
    dropBytes mark.utf8ByteSize (coming ++ text) = dropBytes mark.utf8ByteSize coming ++ text := by
  obtain ⟨rest, rfl⟩ := h
  rw [List.append_assoc, dropBytes_toList_append, dropBytes_toList_append]

end Text

/-! ### Levels at which a text is text -/

/-- A text without the marks of a branch makes no difference to it. -/
theorem TokenType.matches?_append {t : TokenType} (hbranch : t.isLeaf = false)
    {closing : Option TokenType} {coming text : List Char} (hfree : ∀ c ∈ text, c ∉ t.marks) :
    t.matches? closing (coming ++ text) = t.matches? closing coming := by
  cases t with
  | leaf kind constraint => cases hbranch
  | branch kind start stop inner =>
    ext n
    rw [matches?_eq_some_iff, matches?_eq_some_iff, fit_branch_eq_length_iff,
      fit_branch_eq_length_iff]
    refine exists_congr fun d => and_congr_right fun hd => and_congr_left' ?_
    -- the delimiter is one of the two
    apply Text.prefix_append_iff
    intro c hc hmark
    apply hfree c hc
    rw [hd] at hmark
    split at hmark
    · exact List.mem_append_right _ hmark
    · exact List.mem_append_left _ hmark

namespace Level

/-- **A level indifferent to a text.** In the rule lists that can be come to from it there are only
branches, and the text has none of their marks. -/
structure Indifferent (level : Level) (text : String) : Prop where
  proper : level.Proper
  branches : ∀ rules, level.rules.Usable rules → ∀ t ∈ rules, t.isLeaf = false
  free : ∀ rules, level.rules.Usable rules → rules.Spares text

namespace Indifferent

variable {level : Level} {text : String} {t : TokenType} {c : Char} {cs : List Char} {n : Nat}

theorem isLeaf_eq_false (h : level.Indifferent text) (ht : t ∈ level.rules) : t.isLeaf = false :=
  h.branches _ .top t ht

/-- The level inside a branch is indifferent again. -/
theorem inside (h : level.Indifferent text) (ht : t ∈ level.rules) :
    (level.inside t).Indifferent text := by
  have hinside : level.rules.Usable (level.inside t).rules := Grammar.Usable.top.level_inside ht
  refine ⟨h.proper.inside ht (h.isLeaf_eq_false ht), ?_, ?_⟩
  · exact fun rules hrules => h.branches rules (hinside.trans hrules)
  · exact fun rules hrules => h.free rules (hinside.trans hrules)

/-- **What comes next is the same** with the text behind it. -/
theorem next_append (h : level.Indifferent text) (c : Char) (cs : List Char) :
    level.next (c :: (cs ++ text.toList)) = level.next (c :: cs) := by
  -- each rule fits as before, so the first one is the same
  have hsame : ∀ t ∈ level.rules,
      t.matches? level.closing (c :: cs ++ text.toList) = t.matches? level.closing (c :: cs) :=
    fun t ht => TokenType.matches?_append (h.isLeaf_eq_false ht)
      fun d hd => h.free _ .top d hd t ht
  rw [next, next, ← List.cons_append, Match.first?_snd_congr hsame]
  rfl

/-- Of the leaf types only the catch-all one comes next, with a single character. -/
theorem next_leaf (h : level.Indifferent text) {kind : String} {constraint : Option Constraint}
    (hnext : level.next (c :: cs) = ⟨.leaf kind constraint, n⟩) :
    kind = wordKind ∧ n = c.utf8Size := by
  rcases next_cases hnext with ⟨hmem, -⟩ | ⟨hword, rfl⟩
  · cases h.isLeaf_eq_false hmem
  · cases hword
    exact ⟨rfl, rfl⟩

end Indifferent
end Level

namespace Scan

variable {limit : Nat} {level : Level} {text : String} {pending : Option Leaf}
  {coming rest : List Char} {tokens : List Token}

/-! ### Text behind a text -/

/-- **Branches open alike** at a level if a text behind their interiors makes no difference: the
same ones open and hold the same, the others fail to open. -/
def OpenAlike (limit : Nat) (level : Level) (text : String) : Prop :=
  ∀ t ∈ level.rules, ∀ interior,
    opening limit level t (interior ++ text.toList) = opening limit level t interior

section Behind

variable {c : Char} {cs : List Char} {action : Action}

/-- **The same is decided** with the text behind it, if branches open alike. -/
theorem Decided.append (hlevel : level.Indifferent text)
    (halike : OpenAlike limit level text) (h : Decided limit level pending c cs action) :
    Decided limit level pending c (cs ++ text.toList) action := by
  have hcomes : ∀ {t n}, Comes level pending (c :: cs) t n →
      Comes level pending (c :: (cs ++ text.toList)) t n :=
    fun comes => ⟨(hlevel.next_append c cs).trans comes.next, comes.fresh, comes.foreign⟩
  -- the interior of a branch that comes next has the text behind it
  have hinterior : ∀ {kind start stop inner n},
      Comes level pending (c :: cs) (.branch kind start stop inner) n →
      opening limit level (.branch kind start stop inner)
          (Text.dropBytes start.utf8ByteSize (c :: (cs ++ text.toList))) =
        opening limit level (.branch kind start stop inner)
          (Text.dropBytes start.utf8ByteSize (c :: cs)) := by
    intro kind start stop inner n comes
    have hstart := (Level.next_branch comes.next comes.foreign).1
    have hmem := Level.mem_of_next_branch comes.next rfl
    rw [← List.cons_append, Text.dropBytes_append_of_prefix hstart, halike _ hmem]
  cases h with
  | grown next same => exact .grown ((hlevel.next_append c cs).trans next) same
  | ended next fresh own => exact .ended ((hlevel.next_append c cs).trans next) fresh own
  | begun comes short => exact .begun (hcomes comes) short
  | whole comes long =>
    -- a leaf that comes next is one character
    obtain ⟨-, rfl⟩ := hlevel.next_leaf comes.next
    exact absurd long (Nat.lt_irrefl _)
  | opened comes opens => exact .opened (hcomes comes) ((hinterior comes).trans opens)
  | givenUp comes fails => exact .givenUp (hcomes comes) ((hinterior comes).trans fails)

/-- With a word or nothing under way, a character that does not begin a branch is of a word. -/
theorem Decided.kind_eq_word {kind : String} (hlevel : level.Indifferent text)
    (hpending : ∀ l, pending = some l → l.kind = wordKind)
    (h : Decided limit level pending c cs (.absorb kind)) : kind = wordKind := by
  generalize haction : Action.absorb kind = action at h
  cases h with
  | grown next same =>
    cases haction
    cases pending with
    | none => cases same
    | some l =>
      -- it grows the word under way
      exact (eq_of_beq same).symm.trans (hpending l rfl)
  | begun comes short =>
    cases haction
    exact (hlevel.next_leaf comes.next).1
  | givenUp comes fails =>
    cases haction
    rfl
  | ended next fresh own => cases haction
  | whole comes long => cases haction
  | opened comes opens => cases haction

/-- What is emitted is a branch. -/
theorem Decided.isLeaf_eq_false {token : Token} {n : Nat} (hlevel : level.Indifferent text)
    (h : Decided limit level pending c cs (.emit token n)) : token.isLeaf = false := by
  cases h with
  | whole comes long =>
    obtain ⟨-, rfl⟩ := hlevel.next_leaf comes.next
    exact absurd long (Nat.lt_irrefl _)
  | opened comes opens => rfl

end Behind

/-- The text does not end a level. -/
theorem resume_text (hlevel : level.Indifferent text) {b : TokenType}
    (hclosing : level.closing = some b) (limit : Nat) (pending : Option Leaf) :
    resume limit level pending text.toList = none := by
  apply Option.eq_none_iff_forall_ne_some.mpr
  intro closed hresume
  obtain ⟨rest, hreads, -⟩ := exists_reads_of_resume hlevel.proper hresume
  rcases hreads.ends hlevel.proper with ⟨hnone, -⟩ | ⟨kind, start, stop, inner, hb, hstop⟩
  · rw [hnone] at hclosing
    cases hclosing
  · have hmem := hlevel.proper.closing_mem _ hb
    have hne := (hlevel.proper.rules.marks_ne_empty hmem).2
    obtain ⟨d, hin⟩ := List.exists_mem_of_ne_nil _ (mt String.toList_eq_nil_iff.mp hne)
    -- the closing delimiter would be in the text
    have htext : d ∈ text.toList := hreads.suffix.subset (hstop.subset hin)
    exact absurd (List.mem_append_right _ hin) (hlevel.free _ .top d htext _ hmem)

/-- **A step with the text behind it** is the step without, from which the scan goes on with the
text behind what is left. -/
theorem resume_append_cons (hlevel : level.Indifferent text)
    (halike : OpenAlike limit level text) (pending : Option Leaf) (c : Char) (cs : List Char) :
    resume limit level pending (c :: cs ++ text.toList) =
      match decision limit level pending c cs with
      | .close => some ⟨Leaf.finish pending, 0⟩
      | .absorb kind =>
        (resume limit level (some (Leaf.absorb kind c pending).2) (cs ++ text.toList)).map
          (Closed.after (Leaf.absorb kind c pending).1 c.utf8Size)
      | .emit token n =>
        (resume limit level none
            (Text.dropBytes (n - c.utf8Size) cs ++ text.toList)).map
          (Closed.after (Leaf.finish pending ++ [token]) n) := by
  have hdecided := decided_decision limit level pending c cs
  have hsame := hdecided.append hlevel halike
  generalize decision limit level pending c cs = action at hdecided hsame
  rw [List.cons_append]
  -- the scan does what is decided in both cases, and goes on behind it
  cases action with
  | close => rw [resume_of_close hsame]
  | absorb kind => rw [resume_of_absorb hsame]
  | emit token n =>
    -- what is emitted covers a part of the text in front
    obtain ⟨piece, tail, hcut, hne, rfl⟩ := hdecided.cut hlevel.proper
    have hlonger : c :: (cs ++ text.toList) = piece ++ (tail ++ text.toList) := by
      rw [← List.cons_append, hcut, List.append_assoc]
    dsimp only
    rw [resume_of_emit hlonger hne hsame, Text.dropBytes_of_cut hcut hne]

/-- **The interior of a branch ends as before,** or as before it does not end. -/
theorem resume_append_of_closing (hlevel : level.Indifferent text) {b : TokenType}
    (hclosing : level.closing = some b)
    (halike : OpenAlike limit level text) (pending : Option Leaf) (coming : List Char) :
    resume limit level pending (coming ++ text.toList) = resume limit level pending coming := by
  induction coming using Text.induction_behind generalizing pending with
  | nil =>
    -- neither the text behind it nor nothing at all ends the interior
    calc resume limit level pending ([] ++ text.toList)
      _ = none := resume_text hlevel hclosing limit pending
      _ = resume limit level pending [] := by rw [resume_nil, hclosing]
  | cons c cs onward behind =>
    rw [resume_append_cons hlevel halike, resume_cons]
    cases decision limit level pending c cs with
    | close => rfl
    | absorb kind =>
      dsimp only
      rw [onward]
    | emit token n =>
      dsimp only
      rw [behind]

/-- **Branches open alike** at an indifferent level. -/
theorem openAlike (limit : Nat) (hlevel : level.Indifferent text) :
    OpenAlike limit level text := by
  intro t ht interior
  -- what opens inside an interior is a matter of the next lower limit
  induction limit generalizing level t interior with
  | zero => rw [opening_zero, opening_zero]
  | succ l ih =>
    have hinside := hlevel.inside ht
    have halike : OpenAlike l (level.inside t) text := fun u hu middle => ih hinside u hu middle
    have houtcome : outcome l (level.inside t) (interior ++ text.toList) =
        outcome l (level.inside t) interior := by
      rw [outcome_eq_resume, outcome_eq_resume]
      exact resume_append_of_closing hinside rfl halike none interior
    ext closed
    rw [opening_eq_some_iff, opening_eq_some_iff]
    constructor
    · rintro ⟨-, hfilled, l', hl, hclosed⟩
      cases hl
      rw [houtcome] at hclosed
      refine ⟨?_, hfilled, l, rfl, hclosed⟩
      -- an empty interior has no end
      rintro rfl
      rw [outcome_eq_resume, resume_nil] at hclosed
      cases hclosed
    · rintro ⟨hne, hfilled, l', hl, hclosed⟩
      cases hl
      exact ⟨List.append_ne_nil_of_left_ne_nil hne _, hfilled, l, rfl, houtcome.trans hclosed⟩

/-- Text behind nothing is a part of the word under way, or a word. -/
theorem resume_text_of_top (hlevel : level.Indifferent text) (hfilled : text ≠ "")
    (htop : level.closing = none) (hpending : ∀ l, pending = some l → l.kind = wordKind) :
    ∃ n, resume limit level pending text.toList =
      some ⟨Token.textBehind (Leaf.finish pending) text, n⟩ := by
  have hplain : Plain limit level text.toList [] :=
    plain_of_free hlevel.proper (hlevel.branches _ .top) (hlevel.free _ .top)
  -- a word of its own, or what the word under way goes on with
  have hreads : Reads limit level pending (text.toList ++ [])
      (Token.textBehind (Leaf.finish pending) text) [] := by
    cases pending with
    | none =>
      apply Reads.plain hlevel.proper hplain (mt String.toList_eq_nil_iff.mp hfilled)
      rw [String.ofList_toList]
      exact .finished htop
    | some l =>
      obtain ⟨kind, held⟩ := l
      obtain rfl : kind = wordKind := hpending _ rfl
      apply Reads.plain_onto hlevel.proper hplain
      rw [String.ofList_toList]
      exact .finished htop
  rw [List.append_nil] at hreads
  obtain ⟨n, hresume, -⟩ := hreads.resume hlevel.proper
  exact ⟨n, hresume⟩

/-- **Text behind the whole text** is behind its tokens. -/
theorem resume_append_of_top (hlevel : level.Indifferent text) (hfilled : text ≠ "")
    (htop : level.closing = none) {closed : Closed}
    (hpending : ∀ l, pending = some l → l.kind = wordKind)
    (h : resume limit level pending coming = some closed) :
    ∃ n, resume limit level pending (coming ++ text.toList) =
      some ⟨Token.textBehind closed.tokens text, n⟩ := by
  induction coming using Text.induction_behind generalizing pending closed with
  | nil =>
    -- all has been read, and the text is what comes
    rw [resume_nil, htop] at h
    cases h
    exact resume_text_of_top hlevel hfilled htop hpending
  | cons c cs onward behind =>
    rw [resume_append_cons hlevel (openAlike limit hlevel)]
    rw [resume_cons] at h
    have hdecided := decided_decision limit level pending c cs
    generalize decision limit level pending c cs = action at hdecided h
    cases action with
    | close =>
      -- only inside a branch does a level end before the text does
      cases hdecided with
      | ended next fresh own =>
        rw [htop] at own
        cases own
    | absorb kind =>
      obtain rfl := hdecided.kind_eq_word hlevel hpending
      obtain ⟨later, hlater, rfl⟩ := Option.map_eq_some_iff.mp h
      have hword : ∀ l, some (Leaf.absorb wordKind c pending).2 = some l → l.kind = wordKind := by
        rintro _ ⟨⟩
        exact Leaf.absorb_snd_kind wordKind c pending
      obtain ⟨n, hresume⟩ := onward hword hlater
      -- the word under way is a token of what follows
      obtain ⟨rest, hreads, -⟩ := exists_reads_of_resume hlevel.proper hlater
      obtain ⟨added, others, htokens, -⟩ := hreads.underWay
      have hne : later.tokens ≠ [] := htokens ▸ List.cons_ne_nil _ _
      dsimp only
      rw [hresume, Closed.after, Token.textBehind_append hne]
      exact ⟨c.utf8Size + n, rfl⟩
    | emit token size =>
      -- behind a branch nothing is under way, and the text does not grow it
      have hbranch := hdecided.isLeaf_eq_false hlevel
      obtain ⟨later, hlater, rfl⟩ := Option.map_eq_some_iff.mp h
      obtain ⟨n, hresume⟩ := behind _ (by rintro _ ⟨⟩) hlater
      dsimp only
      rw [hresume, Closed.after, List.append_assoc, List.singleton_append,
        Token.textBehind_branch _ hbranch]
      refine ⟨size + n, ?_⟩
      simp only [Option.map_some, Closed.after, List.append_assoc, List.singleton_append]

/-! ### Text before a text -/

/-- **A word under way goes in front** of what is read with nothing under way. -/
theorem Reads.onto_word (hlevel : level.Indifferent text)
    (h : Reads limit level none coming tokens rest) (held : String) :
    Reads limit level (some ⟨wordKind, held⟩) coming (Token.textBefore held tokens) rest := by
  generalize hpending : none = pending at h
  cases h with
  | finished top =>
    -- the word is all there is
    subst hpending
    exact .finished top
  | ended ends =>
    subst hpending
    cases ends with
    | ended next fresh own =>
      -- the level ends by its own branch, which is not of the kind of words
      obtain ⟨kind, start, stop, inner, hb, rfl, -⟩ := hlevel.proper.next_closing next own
      have hne := hlevel.proper.rules.kind_ne_word (hlevel.proper.closing_mem _ hb)
      exact .ended (.ended next (beq_false_of_ne hne.symm) own)
  | @absorbed _ _ _ c cs kind tokens _ goes onward =>
    subst hpending
    obtain rfl := goes.kind_eq_word hlevel (by rintro _ ⟨⟩)
    obtain ⟨added, later, rfl, -, hany⟩ := onward.underWay
    have hgrown := hany (held.push c)
    -- the new leaf begins with the character, the word under way goes on with it
    have hbefore : Token.textBefore held (.word (c.toString ++ added) :: later) =
        .word (held.push c ++ added) :: later := by
      rw [Token.textBefore_word, ← String.append_assoc]
      rfl
    show Reads limit level _ (c :: cs)
      (Token.textBefore held (.word (c.toString ++ added) :: later)) rest
    rw [hbefore]
    exact .grown (goes.onto_word hlevel.proper held) hgrown
  | @whole _ _ _ kind constraint piece cs _ _ comes long onward =>
    subst hpending
    -- no leaf of several characters comes next
    match piece, long with
    | c :: d :: ds, _ =>
      have hsize := (hlevel.next_leaf comes.next).2
      have hpos := d.utf8Size_pos
      simp only [Text.byteLength_cons] at hsize
      omega
  | branch comes filled within onward =>
    subst hpending
    have hmem := Level.mem_of_next_branch comes.next rfl
    -- a branch is not of the kind of words, so it comes next as before
    have hne := (hlevel.proper.rules.kind_ne_word hmem).symm
    exact .branch ⟨comes.next, beq_false_of_ne hne, comes.foreign⟩ filled within onward

end Scan

namespace Tokenizer

open Scan

/-- **Surrounding plain text is inert.** With a valid grammar of branches only, at every level of
nesting, let `around` be a text, not empty, with no mark of any of them. Behind another text it is
behind the tokens of that text, and before it it is before them, as a part of the last or first word
or as a word of its own. -/
theorem tokenize_surroundings (g : Grammar) (hg : g.Valid)
    (hbranches : ∀ rules, g.Usable rules → ∀ t ∈ rules, t.isLeaf = false) (around : String)
    (hfree : ∀ rules, g.Usable rules → rules.Spares around) (hfilled : around ≠ "")
    (maxDepth : Nat) (text : String) :
    let t : Tokenizer := ⟨g, maxDepth⟩
    t.tokenize (text ++ around) = Token.textBehind (t.tokenize text) around ∧
      t.tokenize (around ++ text) = Token.textBefore around (t.tokenize text) := by
  intro t
  have hlevel : (Level.top g).Indifferent around := ⟨Level.proper_top hg, hbranches, hfree⟩
  have hreads := reads_tokenize (t := t) hg text
  constructor
  · -- behind: scans that came to the end of the text now come to the text around it
    obtain ⟨size, hresume, -⟩ := hreads.resume hlevel.proper
    obtain ⟨n, hmore⟩ := resume_append_of_top hlevel hfilled rfl (by rintro _ ⟨⟩) hresume
    rw [tokenize_eq_outcome (t := t) hg, outcome_eq_resume, String.toList_append, hmore]
    rfl
  · -- before: the scan comes to the text with a word under way
    have hplain : Plain maxDepth (.top g) around.toList text.toList :=
      plain_of_free hlevel.proper (hlevel.branches _ .top) (hlevel.free _ .top)
    apply tokenize_eq_of_reads (t := t) hg
    rw [String.toList_append]
    apply Reads.plain hlevel.proper hplain (mt String.toList_eq_nil_iff.mp hfilled)
    rw [String.ofList_toList]
    exact hreads.onto_word hlevel around

/-- Text around a note and an opening delimiter that is the last character. -/
theorem tokenize_surroundings_notes :
    let t : Tokenizer := ⟨Notes.grammar, 4⟩
    let note : Token := .branch "note" [.branch "bold" [.word "a"]]
    Notes.grammar.Valid ∧
      (∀ rules, Notes.grammar.Usable rules → ∀ u ∈ rules, u.isLeaf = false) ∧
      (∀ rules, Notes.grammar.Usable rules → rules.Spares " é") ∧
      t.tokenize "(*a*)_" = [note, .word "_"] ∧
      t.tokenize ("(*a*)_" ++ " é") = [note, .word "_ é"] ∧
      t.tokenize (" é" ++ "(*a*)_") = [.word " é", note, .word "_"] := by
  intro t note
  have hbranches : ∀ rules, Notes.grammar.Usable rules → ∀ u ∈ rules, u.isLeaf = false := by
    intro rules hrules
    rcases Notes.usable_cases rules hrules with rfl | rfl <;> decide
  have hfree : ∀ rules, Notes.grammar.Usable rules → rules.Spares " é" := by
    intro rules hrules
    rcases Notes.usable_cases rules hrules with rfl | rfl <;> decide
  have htokens : t.tokenize "(*a*)_" = [note, .word "_"] := by
    rw [tokenize_eq_outcome Notes.valid]
    decide +kernel
  obtain ⟨hbehind, hbefore⟩ := tokenize_surroundings Notes.grammar Notes.valid hbranches " é" hfree
    (by decide) 4 "(*a*)_"
  refine ⟨Notes.valid, hbranches, hfree, htokens, ?_, ?_⟩
  · rw [hbehind, htokens]
    decide +kernel
  · rw [hbefore, htokens]
    decide +kernel

end Tokenizer
end InlineMarkup
