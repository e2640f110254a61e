import InlineMarkup.Constraint
import InlineMarkup.Proofs.RoundTrip
import InlineMarkup.Proofs.UnderWay

/-!
# Starting again between two tokens

A scan has a leaf under way, and nothing else of what lies behind it decides how it goes on. Between
two tokens of a level there is no leaf under way that counts: either there is none, or it ends there
because what comes next is of another kind. So a scan that starts afresh between two tokens gives
the tokens that are left.

* `Scan.Comes.afresh`, `Scan.Decided.absorb_afresh` — what happens at a character where the leaf
  under way ends happens there without it as well.
* `Scan.Reads.afresh` — behind any number of its first tokens, a reading can start again.
* `Tokenizer.tokenize_behind` — the text behind the first tokens of a text has the other tokens.
-/

namespace InlineMarkup
namespace Scan

variable {limit : Nat} {level : Level} {pending : Option Leaf} {coming rest : List Char}
  {tokens : List Token}

/-! ### Without the leaf under way -/

/-- A type that counts in spite of the leaf under way counts without it. -/
theorem Comes.afresh {t : TokenType} {n : Nat} (h : Comes level pending coming t n) :
    Comes level none coming t n :=
  ⟨h.next, rfl, h.foreign⟩

/-- A level that ends, the leaf under way being what it may, ends without it. -/
theorem Decided.close_afresh {c : Char} {cs : List Char}
    (h : Decided limit level pending c cs .close) : Decided limit level none c cs .close := by
  cases h with
  | ended next fresh own => exact .ended next rfl own

/-- **A character that does not go to the leaf under way** goes to a new one of the same kind when
nothing is under way. -/
theorem Decided.absorb_afresh {l : Leaf} {c : Char} {cs : List Char} {kind : String}
    (h : Decided limit level (some l) c cs (.absorb kind)) (hkind : l.kind ≠ kind) :
    Decided limit level none c cs (.absorb kind) := by
  cases h with
  | grown next same => exact absurd (by simpa using same) hkind
  | begun comes short => exact .begun comes.afresh short
  | givenUp comes fails => exact .givenUp comes.afresh fails

/-! ### Between two tokens -/

/-- If what was under way is cut anywhere but in front of a leaf, nothing is left. -/
theorem Leaf.finish_cut {done later : List Token} (h : finish pending = done ++ later)
    (hstart : pending = none ∨ done ≠ []) : later = [] := by
  cases pending with
  | none => exact (List.append_eq_nil_iff.mp h.symm).2
  | some l =>
    have hdone : done ≠ [] := hstart.resolve_left (Option.some_ne_none l)
    -- the leaf is the one token, so it is in front of the cut
    cases done with
    | nil => exact absurd rfl hdone
    | cons token done =>
      have htail : [] = done ++ later := (List.cons.inj h).2
      exact (List.append_eq_nil_iff.mp htail.symm).2

/-- A cut behind what was under way is in front of the token that follows it, or behind that
token. -/
theorem Leaf.finish_append_cut {token : Token} {done later : List Token}
    (h : finish pending ++ token :: tokens = done ++ later)
    (hstart : pending = none ∨ done ≠ []) :
    later = token :: tokens ∨ ∃ done', tokens = done' ++ later := by
  -- once the leaf under way is out of the way
  have hcases : ∀ {done : List Token}, token :: tokens = done ++ later →
      later = token :: tokens ∨ ∃ done', tokens = done' ++ later := by
    intro done h
    cases done with
    | nil => exact .inl h.symm
    | cons token' done => exact .inr ⟨done, (List.cons.inj h).2⟩
  cases pending with
  | none => exact hcases h
  | some l =>
    have hdone : done ≠ [] := hstart.resolve_left (Option.some_ne_none l)
    cases done with
    | nil => exact absurd rfl hdone
    | cons token' done => exact hcases (List.cons.inj h).2

/-- A cut behind the tokens that an absorbed character has finished is in front of the character,
where the reading can start again, or behind some token of what follows. -/
theorem Reads.cut_absorbed {c : Char} {cs : List Char} {kind : String} {done later : List Token}
    (onward : Reads limit level (some (Leaf.absorb kind c pending).2) cs tokens rest)
    (goes : Decided limit level pending c cs (.absorb kind))
    (hcut : (Leaf.absorb kind c pending).1 ++ tokens = done ++ later)
    (hstart : pending = none ∨ done ≠ []) :
    Reads limit level none (c :: cs) later rest ∨
      ∃ done', tokens = done' ++ later ∧ done' ≠ [] := by
  cases pending with
  | none =>
    -- no token is finished
    by_cases hdone : done = []
    · subst hdone
      obtain rfl : tokens = later := hcut
      exact .inl (.absorbed goes onward)
    · exact .inr ⟨done, hcut, hdone⟩
  | some l =>
    have hdone : done ≠ [] := hstart.resolve_left (Option.some_ne_none l)
    by_cases hkind : l.kind = kind
    · -- the leaf under way grows, so no token is finished
      rw [Leaf.absorb, if_pos hkind] at hcut
      exact .inr ⟨done, hcut, hdone⟩
    · -- the leaf under way is finished, and the character begins a new one
      rw [Leaf.absorb_of_kind_ne hkind] at hcut onward
      obtain ⟨token, done, rfl⟩ := List.exists_cons_of_ne_nil hdone
      have htail : tokens = done ++ later := (List.cons.inj hcut).2
      by_cases hdone' : done = []
      · subst hdone'
        obtain rfl : tokens = later := htail
        exact .inl (.absorbed (goes.absorb_afresh hkind) onward)
      · exact .inr ⟨done, htail, hdone'⟩

/-- **A reading can start again** behind any number of its first tokens, at least one if a leaf is
under way. It then reads what is left of the text, and gives the tokens that are left. -/
theorem Reads.afresh (h : Reads limit level pending coming tokens rest) {done later : List Token}
    (hcut : tokens = done ++ later) (hstart : pending = none ∨ done ≠ []) :
    ∃ piece tail, coming = piece ++ tail ∧ Reads limit level none tail later rest := by
  -- the cut is in front of what the rule has made, or it is behind that and the hypothesis applies
  induction h generalizing done with
  | finished top =>
    -- only the leaf under way is made, so the cut is behind all
    obtain rfl := Leaf.finish_cut hcut hstart
    exact ⟨[], [], rfl, .finished top⟩
  | ended ends =>
    obtain rfl := Leaf.finish_cut hcut hstart
    exact ⟨[], _, rfl, .ended ends.close_afresh⟩
  | @absorbed limit level pending c cs kind tokens rest goes onward ih =>
    rcases onward.cut_absorbed goes hcut hstart with hreads | ⟨done', hcut', hdone'⟩
    · exact ⟨[], _, rfl, hreads⟩
    · obtain ⟨piece, tail, rfl, hreads⟩ := ih hcut' (.inr hdone')
      exact ⟨c :: piece, tail, rfl, hreads⟩
  | @whole limit level pending kind constraint text cs tokens rest comes long onward ih =>
    rcases Leaf.finish_append_cut hcut hstart with rfl | ⟨done', hcut'⟩
    · exact ⟨[], _, rfl, .whole comes.afresh long onward⟩
    · obtain ⟨piece, tail, rfl, hreads⟩ := ih hcut' (.inl rfl)
      exact ⟨text ++ piece, tail, (List.append_assoc _ _ _).symm, hreads⟩
  | @branch limit level pending kind start stop inner interior children cs tokens rest comes filled
      within onward ihin ihon =>
    rcases Leaf.finish_append_cut hcut hstart with rfl | ⟨done', hcut'⟩
    · exact ⟨[], _, rfl, .branch comes.afresh filled within onward⟩
    · -- behind the branch, so the piece holds all that it covers
      obtain ⟨front, hfront⟩ := within.suffix
      obtain ⟨piece, tail, rfl, hreads⟩ := ihon hcut' (.inl rfl)
      refine ⟨start.toList ++ front ++ stop.toList ++ piece, tail, ?_, hreads⟩
      rw [← hfront]
      simp only [List.append_assoc]

end Scan

namespace Tokenizer

open Scan

variable {t : Tokenizer}

/-- **A reading of the whole text is written back as that text.** -/
theorem written_of_reads (hg : t.grammar.Valid) {coming : List Char} {tokens : List Token}
    (h : Reads t.maxDepth (.top t.grammar) none coming tokens []) {w : Writer}
    (hknows : w.Knows t.grammar) : w.writeAll tokens = w.put (String.ofList coming) := by
  obtain ⟨front, hfront, hwritten⟩ := h.writeAll (Level.proper_top hg) hknows
  obtain rfl : coming = front := by rw [hfront, List.append_nil]
  rw [hwritten]
  exact congrArg _ String.empty_append

/-- **The first tokens of a text cover its beginning,** and what is left of the text has the tokens
that are left. -/
theorem exists_source_append (hg : t.grammar.Valid) {text : String} {done later : List Token}
    (hcut : t.tokenize text = done ++ later) :
    ∃ tail, text = t.grammar.source done ++ tail ∧ t.tokenize tail = later := by
  have hreads := reads_tokenize hg text
  rw [hcut] at hreads
  obtain ⟨piece, tail, hpiece, htail⟩ := hreads.afresh rfl (.inl rfl)
  rw [← String.toList_ofList (l := tail)] at htail
  refine ⟨String.ofList tail, ?_, tokenize_eq_of_reads hg htail⟩
  -- both the whole and the end are written as they were read, so what is in front is its beginning
  have hknows : (Writer.start t.grammar).Knows t.grammar := Writer.knows_start hg.isRuleList
  have hwhole := written_of_reads hg hreads hknows
  rw [Writer.writeAll_append, written_of_reads hg htail (hknows.writeAll done)] at hwhole
  have htext := congrArg Writer.text hwhole
  simpa [Writer.put, Writer.start, Grammar.source, Grammar.written] using htext.symm

/-- **A tokenizer can start again between two tokens.** Behind the source of any number of first
tokens the text can be cut, and what is left of it has exactly the tokens that are left; so nothing
is carried over from one token of a text to the next. -/
theorem tokenize_behind (t : Tokenizer) (hg : t.grammar.Valid) (text : String) (count : Nat) :
    let size := (t.grammar.source ((t.tokenize text).take count)).utf8ByteSize
    Text.isBoundary size text.toList = true ∧
      t.tokenize (String.ofList (Text.dropBytes size text.toList)) =
        (t.tokenize text).drop count := by
  intro size
  have hcut := (List.take_append_drop count (t.tokenize text)).symm
  obtain ⟨tail, htext, htail⟩ := exists_source_append hg hcut
  have hlist : text.toList =
      (t.grammar.source ((t.tokenize text).take count)).toList ++ tail.toList := by
    rw [← String.toList_append, ← htext]
  have hsize : size = Text.byteLength (t.grammar.source ((t.tokenize text).take count)).toList :=
    (Text.byteLength_toList _).symm
  refine ⟨?_, ?_⟩
  · -- the source of the first tokens is a beginning of the text
    rw [hlist, hsize]
    exact Text.isBoundary_append _ _
  · rw [hlist, hsize, Text.dropBytes_append, String.ofList_toList]
    exact htail

/-- A cut between a leaf and a branch that does not close. -/
theorem tokenize_behind_dash :
    let t : Tokenizer := ⟨[.constrained "code" (Constraint.literals [":+1:"]),
      .constrained "dash" (Constraint.literals ["-"]), .surround "bold" "*"], 3⟩
    let size := (t.grammar.source ((t.tokenize "é--*b*:+1:-*a").take 5)).utf8ByteSize
    t.grammar.Valid ∧
      t.tokenize "é--*b*:+1:-*a" = [.word "é", .leaf "dash" "--", .branch "bold" [.word "b"],
        .leaf "code" ":+1:", .leaf "dash" "-", .word "*a"] ∧
      Text.isBoundary size "é--*b*:+1:-*a".toList = true ∧
      t.tokenize (String.ofList (Text.dropBytes size "é--*b*:+1:-*a".toList)) =
        (t.tokenize "é--*b*:+1:-*a").drop 5 := by
  intro t size
  have hg : t.grammar.Valid := by
    refine .intro rfl ?_
    intro u hu h hinner
    simp only [t, List.mem_cons, List.not_mem_nil, or_false] at hu
    rcases hu with rfl | rfl | rfl <;> cases hinner
  refine ⟨hg, ?_, tokenize_behind t hg "é--*b*:+1:-*a" 5⟩
  rw [tokenize_eq_outcome hg]
  decide +kernel

end Tokenizer
end InlineMarkup
