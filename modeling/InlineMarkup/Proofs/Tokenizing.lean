import InlineMarkup.Proofs.Memory

/-!
# The tokens of a text

A tokenizer starts a session with nothing remembered and scans the whole text in it. Here what is
known of scans is brought together for this one:

* `Tokenizer.reads_tokenize`, `Tokenizer.tokenize_eq_of_reads` — the tokens of a text are those of
  its reading at the top level.
* `Tokenizer.plainRun` — what a tokenizer would do without a memory. The tokens of a text are those
  of the plain run, and its records are those of the plain run less repetitions.
-/

namespace InlineMarkup

namespace Scan

/-- **A level that no branch ends has an outcome.** Only inside a branch can the text end too
early. -/
theorem exists_resume_of_top (limit : Nat) (level : Level) (htop : level.closing = none)
    (pending : Option Leaf) (coming : List Char) :
    ∃ closed, resume limit level pending coming = some closed := by
  induction coming using Text.induction_behind generalizing pending with
  | nil =>
    rw [resume_nil, htop]
    exact ⟨_, rfl⟩
  | cons c cs onward behind =>
    rw [resume_cons]
    cases decision limit level pending c cs with
    | close =>
      -- the level ends, or there is an outcome behind the character or the token
      exact ⟨_, rfl⟩
    | absorb kind =>
      obtain ⟨closed, hclosed⟩ := onward (some (Leaf.absorb kind c pending).2)
      dsimp only
      rw [hclosed]
      exact ⟨_, rfl⟩
    | emit token n =>
      obtain ⟨closed, hclosed⟩ := behind (n - c.utf8Size) none
      dsimp only
      rw [hclosed]
      exact ⟨_, rfl⟩

end Scan

namespace Tokenizer

open Scan

variable {t : Tokenizer}

/-- The session of a whole text agrees with the plain scan of it. -/
theorem session_agrees (hg : t.grammar.Valid) (text : String) :
    Session.Agrees text.toList t.grammar t.maxDepth t.maxDepth (.top t.grammar) 0 text.toList
      .empty (Session.scan t.maxDepth 0 (.top t.grammar) 0 text.toList .empty) :=
  Session.scan_agrees hg (Level.proper_top hg) (Nat.zero_add _) Session.sound_empty .top
    (Text.standsAt_zero _)

/-- The result of a whole text, from its outcome. -/
theorem tokenize_eq_outcome (hg : t.grammar.Valid) (text : String) :
    t.tokenize text =
      ((outcome t.maxDepth (.top t.grammar) text.toList).map Closed.tokens).getD [] := by
  rw [← (session_agrees hg text).outcome]
  rfl

/-- **The tokens of a text have a reading,** which goes to the end of the text. -/
theorem reads_tokenize (hg : t.grammar.Valid) (text : String) :
    Reads t.maxDepth (.top t.grammar) none text.toList (t.tokenize text) [] := by
  have hlevel := Level.proper_top hg
  obtain ⟨closed, hclosed⟩ := exists_resume_of_top t.maxDepth (.top t.grammar) rfl none
    text.toList
  obtain ⟨rest, hreads, -⟩ := exists_reads_of_resume hlevel hclosed
  -- no branch is around the whole text, so the reading goes to its end
  obtain rfl : rest = [] := by
    rcases hreads.ends hlevel with ⟨-, hrest⟩ | ⟨_, _, _, _, hb, -⟩
    · exact hrest
    · cases hb
  rw [tokenize_eq_outcome hg, outcome_eq_resume, hclosed]
  exact hreads

/-- **A reading of the whole text gives its tokens.** -/
theorem tokenize_eq_of_reads (hg : t.grammar.Valid) {text : String} {tokens : List Token}
    {rest : List Char}
    (h : Reads t.maxDepth (.top t.grammar) none text.toList tokens rest) :
    t.tokenize text = tokens := by
  obtain ⟨n, hresume, -⟩ := h.resume (Level.proper_top hg)
  rw [tokenize_eq_outcome hg, outcome_eq_resume, hresume]
  rfl

/-! ### Without a memory -/

/-- **The plain run of a tokenizer.** Every nested scan is run where it is asked for, and nothing is
remembered. -/
def plainRun (t : Tokenizer) (text : String) : List Token × List Record :=
  let (closed, records) := scan log t.maxDepth (.top t.grammar) 0 text.toList []
  ((closed.map Closed.tokens).getD [], records)

/-- The records of a text are those of the plain run, less repetitions. -/
theorem run_thinned (hg : t.grammar.Valid) (text : String) :
    Record.Thinned (t.plainRun text).2 (t.run text).2 :=
  (session_agrees hg text).thinned [] .nil

/-- **Remembering changes nothing but repetitions.** A tokenizer with a valid grammar gives the
tokens of its plain run. Its records are those of the plain run, in order, of which some may be left
out that have been made before; so the same records occur. -/
theorem run_thins_plainRun (t : Tokenizer) (hg : t.grammar.Valid) (text : String) :
    (t.run text).1 = (t.plainRun text).1 ∧
      Record.Thinned (t.plainRun text).2 (t.run text).2 ∧
      ∀ r, r ∈ (t.run text).2 ↔ r ∈ (t.plainRun text).2 := by
  have hthinned := run_thinned hg text
  refine ⟨?_, hthinned, hthinned.mem_iff⟩
  have houtcome := (session_agrees hg text).outcome
  rw [← scan_fst log t.maxDepth _ 0 text.toList []] at houtcome
  unfold run plainRun
  dsimp only
  rw [houtcome]

/-- Three marks that do not close. The interior behind the last one is asked for twice at depth two,
so the plain run repeats a record. -/
theorem run_thins_plainRun_unclosed :
    let t : Tokenizer := ⟨Grammar.stock, 64⟩
    Grammar.stock.Valid ∧ ¬ (t.plainRun "*_~a").2.Nodup ∧
      (t.run "*_~a").1 = (t.plainRun "*_~a").1 ∧
        Record.Thinned (t.plainRun "*_~a").2 (t.run "*_~a").2 ∧
        ∀ r, r ∈ (t.run "*_~a").2 ↔ r ∈ (t.plainRun "*_~a").2 :=
  ⟨Grammar.valid_stock, by decide +kernel,
    run_thins_plainRun ⟨Grammar.stock, 64⟩ Grammar.valid_stock "*_~a"⟩

end Tokenizer
end InlineMarkup
