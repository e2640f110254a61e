import InlineMarkup.Proofs.Invariant
import InlineMarkup.Proofs.LeafTexts

/-!
# What records say

A record is made far from the text that it tells of: positions are those of the whole text, found by
adding up what the scans around have passed over, and of a branch that closed without tokens the
scan knows the list of tokens alone. This module says what each record means for the whole text, and
that it is so.

* `Record.Holds` — the meaning of a record, in terms of the grammar, the text and the nesting limit.
* `Scan.Reads.eq_of_empty` — a nested scan without tokens has ended where it began, so the closing
  delimiter follows the opening one at once.
* `Scan.plainHost_keeps` — the invariant of the loop: it stands where it says it stands, at a level
  as deep as the limit allows for, and all records made so far hold.
* `Tokenizer.holds_of_mem_records` — the records of a text hold. The memory of a session need not be
  looked at again, since it leaves out repetitions only.
-/

namespace InlineMarkup

/-! ### The meaning of records -/

/-- **What a record says** of the text that a tokenizer reads.

* A scan that ran out of text was inside a branch, no deeper than the nesting limit.
* Where an empty branch was given up, its delimiters stand beside each other.
* Where the limit kept a branch from opening, its opening delimiter stands with text behind it.
* A misfit is what the constraint of a type measures on the remaining text: a positive length after
  which the text cannot be cut, since it has fewer bytes or is then inside of a character.

Reading makes no other records. -/
def Record.Holds (t : Tokenizer) (text : String) : Record → Prop
  | unclosed kind depth =>
    (1 ≤ depth ∧ depth ≤ t.maxDepth) ∧
      ∃ u, t.grammar.Contains u ∧ u.isLeaf = false ∧ u.kind = kind
  | emptyBranch kind position =>
    ∃ u start stop rest, t.grammar.Contains u ∧ u.kind = kind ∧
      u.start? = some start ∧ u.stop? = some stop ∧
      Text.StandsAt text.toList position (start.toList ++ (stop.toList ++ rest))
  | depthLimit kind position limit =>
    limit = t.maxDepth ∧
      ∃ u start rest, t.grammar.Contains u ∧ u.kind = kind ∧ u.start? = some start ∧
        rest ≠ [] ∧ Text.StandsAt text.toList position (start.toList ++ rest)
  | misfit kind length remaining =>
    remaining ≤ text.utf8ByteSize ∧
      ∃ constraint rest, t.grammar.Contains (.leaf kind (some constraint)) ∧
        Text.StandsAt text.toList (text.utf8ByteSize - remaining) rest ∧
        constraint.measure rest = some length ∧ 0 < length ∧ Text.isBoundary length rest = false
  | undeclaredBranch _ => False
  | typesBuilt _ => False

/-- All records of a list hold. -/
def Record.AllHold (t : Tokenizer) (text : String) (rs : List Record) : Prop :=
  ∀ r ∈ rs, r.Holds t text

/-! ### Misfits -/

/-- **A misfit** is a measured length that is positive and no place to cut. -/
theorem TokenType.measure_of_misfit {closing : Option TokenType} {t : TokenType}
    {coming : List Char} {n : Nat} (h : t.fit closing coming = .misfit n) :
    ∃ kind constraint, t = .leaf kind (some constraint) ∧ constraint.measure coming = some n ∧
      0 < n ∧ Text.isBoundary n coming = false := by
  cases t with
  | branch kind start stop inner =>
    -- a delimiter stands there or it does not
    rw [fit] at h
    generalize (if closing.any _ then stop else start) = delimiter at h
    split at h <;> cases h
  | leaf kind constraint =>
    cases constraint with
    | none => cases coming <;> cases h
    | some constraint =>
      rw [fit] at h
      -- nothing is measured, or no character, or some length
      rcases hmeasure : constraint.measure coming with _ | _ | m <;> rw [hmeasure] at h
      · cases h
      · cases h
      · change (if Text.isBoundary (m + 1) coming then Fit.length (m + 1) else .misfit (m + 1)) = _
          at h
        by_cases hboundary : Text.isBoundary (m + 1) coming = true
        · rw [if_pos hboundary] at h
          cases h
        · rw [if_neg hboundary] at h
          cases h
          exact ⟨kind, constraint, rfl, hmeasure, Nat.succ_pos m, Bool.eq_false_iff.mpr hboundary⟩

/-! ### Empty branches -/

namespace Scan

variable {limit : Nat} {level : Level} {coming rest interior : List Char} {tokens : List Token}

/-- A leaf under way becomes a token. -/
theorem Reads.ne_nil_of_pending {l : Leaf}
    (h : Reads limit level (some l) coming tokens rest) : tokens ≠ [] := by
  generalize hpending : some l = pending at h
  induction h generalizing l with
  | finished => cases hpending; exact List.cons_ne_nil _ _
  | ended => cases hpending; exact List.cons_ne_nil _ _
  | absorbed _ _ ih => exact List.append_ne_nil_of_right_ne_nil _ (ih rfl)
  | whole => exact List.append_ne_nil_of_right_ne_nil _ (List.cons_ne_nil _ _)
  | branch => exact List.append_ne_nil_of_right_ne_nil _ (List.cons_ne_nil _ _)

/-- **A reading without tokens** has ended where it began. -/
theorem Reads.eq_of_empty (h : Reads limit level none coming [] rest) : rest = coming := by
  generalize hempty : ([] : List Token) = tokens at h
  cases h with
  | finished => rfl
  | ended => rfl
  | absorbed _ onward =>
    -- a character that is absorbed is held from then on, so it is in some token
    exact absurd (List.append_eq_nil_iff.mp hempty.symm).2 onward.ne_nil_of_pending
  | whole => simp at hempty
  | branch => simp at hempty

/-- A nested scan without tokens has found the closing delimiter at once. -/
theorem stop_prefix_of_empty {kind start stop : String} {inner : Option Grammar} {closed : Closed}
    (hinside : (level.inside (.branch kind start stop inner)).Proper)
    (h : outcome limit (level.inside (.branch kind start stop inner)) interior = some closed)
    (hempty : closed.tokens = []) : stop.toList <+: interior := by
  rw [outcome_eq_resume] at h
  obtain ⟨behind, hreads, -⟩ := exists_reads_of_resume hinside h
  rw [hempty] at hreads
  rcases hreads.ends hinside with ⟨hnone, -⟩ | ⟨_, _, _, _, hclosing, hstop⟩
  · cases hnone
  · cases hclosing
    rwa [hreads.eq_of_empty] at hstop

/-! ### Levels of a run -/

/-- **A level that a run comes to,** with the number of further levels allowed. -/
structure Allowed (t : Tokenizer) (limit : Nat) (level : Level) : Prop where
  proper : level.Proper
  usable : t.grammar.Usable level.rules
  depth : level.depth + limit = t.maxDepth
  nested : ∀ b, level.closing = some b → 1 ≤ level.depth

namespace Allowed

variable {t : Tokenizer} {text : String} {u : TokenType}

theorem top (hg : t.grammar.Valid) : Allowed t t.maxDepth (.top t.grammar) :=
  ⟨Level.proper_top hg, .top, Nat.zero_add _, fun _ => nofun⟩

theorem inside (h : Allowed t (limit + 1) level) (hu : u ∈ level.rules)
    (hbranch : u.isLeaf = false) : Allowed t limit (level.inside u) where
  proper := h.proper.inside hu hbranch
  usable := h.usable.level_inside hu
  depth := by rw [← h.depth, Level.inside, Nat.add_assoc, Nat.add_comm 1]
  nested := fun _ _ => Nat.succ_pos _

theorem contains (h : Allowed t limit level) (hu : u ∈ level.rules) : t.grammar.Contains u :=
  ⟨level.rules, h.usable, hu⟩

/-- A misfit met at a place of the text holds. -/
theorem misfit_holds (h : Allowed t limit level) {position : Nat}
    (hplace : Text.StandsAt text.toList position coming) {r : Record}
    (hr : r ∈ level.misfits coming) : r.Holds t text := by
  -- what remains is as long as the text behind the place
  obtain ⟨u, hu, n, hfit, rfl⟩ := Level.mem_misfits hr
  obtain ⟨kind, constraint, rfl, hmeasure, hpos, hboundary⟩ := TokenType.measure_of_misfit hfit
  have hsize := hplace.add_byteLength
  rw [Text.byteLength_toList] at hsize
  have hposition : text.utf8ByteSize - Text.byteLength coming = position := by omega
  refine ⟨by omega, constraint, coming, h.contains hu, ?_, hmeasure, hpos, hboundary⟩
  rwa [hposition]

/-- A scan that runs out of text is inside a branch. -/
theorem unclosed_holds (h : Allowed t limit level) {b : TokenType}
    (hclosing : level.closing = some b) :
    (Record.unclosed b.kind level.depth).Holds t text := by
  have hdepth := h.depth
  exact ⟨⟨h.nested b hclosing, by omega⟩, b, h.contains (h.proper.closing_mem b hclosing),
    h.proper.closing_branch b hclosing, rfl⟩

end Allowed

/-! ### The records of a plain scan -/

variable {t : Tokenizer} {text : String} {rs : List Record}

/-- One more record that holds. -/
theorem allHold_log (h : Record.AllHold t text rs) {r : Record} (hr : r.Holds t text) :
    Record.AllHold t text (log r rs) := by
  intro r' hr'
  rcases List.mem_append.mp hr' with hr' | hr'
  · exact h r' hr'
  · rwa [List.mem_singleton.mp hr']

/-- **An empty branch** that a nested scan has found. -/
theorem Allowed.emptyBranch_holds {l : Nat} (h : Allowed t (l + 1) level) {u : TokenType}
    {start : String} {position : Nat}
    (htried : Tried level (Text.StandsAt text.toList) u start position interior) {closed : Closed}
    (houtcome : outcome l (level.inside u) interior = some closed) (hempty : closed.tokens = []) :
    (Record.emptyBranch u.kind position).Holds t text := by
  have hinside : (level.inside u).Proper := h.proper.inside htried.mem htried.isLeaf_eq_false
  obtain ⟨hplace, hmem, hopens, -, -⟩ := htried
  cases u with
  | leaf kind constraint => cases hopens
  | branch kind start' stop inner =>
    obtain ⟨rest, rfl⟩ := stop_prefix_of_empty hinside houtcome hempty
    exact ⟨_, start, stop, rest, h.contains hmem, rfl, hopens, rfl, hplace⟩

/-- **The loop of a level keeps the records true,** if nested scans one level deeper do. -/
theorem plainHost_keeps (h : Allowed t limit level)
    (hscan : ∀ l, limit = l + 1 → ∀ {level : Level}, Allowed t l level →
      ∀ {position : Nat} {coming : List Char}, Text.StandsAt text.toList position coming →
      ∀ {rs : List Record}, Record.AllHold t text rs →
        Record.AllHold t text (scan log l level position coming rs).2) :
    (plainHost log limit level).Keeps level (Text.StandsAt text.toList)
      (Record.AllHold t text) := by
  -- a nested scan keeps the records true, as the level inside of a branch is allowed
  have hanswered : ∀ n, (plainHost log limit level).nested = some n →
      ∀ {u : TokenType} {start : String} {position : Nat} {interior : List Char}
        {rs : List Record}, Tried level (Text.StandsAt text.toList) u start position interior →
      Record.AllHold t text rs →
      Record.AllHold t text (n u (position + start.utf8ByteSize) interior rs).2 := by
    intro n hn u start position interior rs htried hrs
    cases limit with
    | zero => cases hn
    | succ l =>
      cases hn
      exact hscan l rfl (h.inside htried.mem htried.isLeaf_eq_false) htried.place.behind_mark hrs
  refine ⟨?_, ?_, ?_, hanswered, ?_, ?_, ?_⟩
  · -- what the level itself records: misfits, and a branch that the text ends in
    exact fun hplace hr hrs => allHold_log hrs (h.misfit_holds hplace hr)
  · exact fun hclosing hrs => allHold_log hrs (h.unclosed_holds hclosing)
  · -- no further level is allowed, so the depth is the limit
    intro hnone u start position interior rs htried hrs
    have hdepth : level.depth = t.maxDepth := by
      cases limit with
      | zero => exact h.depth
      | succ l => cases hnone
    exact allHold_log hrs ⟨hdepth, u, start, interior, h.contains htried.mem, rfl, htried.opens,
      htried.filled, htried.place⟩
  · -- an empty branch is recorded behind what the nested scan has recorded
    intro n hn u start position interior rs closed rs' htried hrs hresult hempty
    have hkept := hanswered n hn htried hrs
    rw [hresult] at hkept
    cases limit with
    | zero => cases hn
    | succ l =>
      cases hn
      -- the answer is the outcome of the nested scan
      have houtcome : outcome l (level.inside u) interior = some closed := by
        rw [← scan_fst log l (level.inside u) (position + start.utf8ByteSize) interior rs]
        exact congrArg Prod.fst hresult
      exact allHold_log hkept (h.emptyBranch_holds htried houtcome hempty)
  · -- the next character stands where the first one ends
    intro position c cs hplace
    exact (show Text.StandsAt text.toList position ([c] ++ cs) from hplace).advance
  · intro position pending c cs rs token n rs' hplace _ hresult
    -- what is emitted covers a leading part of what comes
    have hdecided := decided_decision limit level pending c cs
    rw [← (plainHost_plain log limit level).act_fst position pending c cs rs, hresult] at hdecided
    obtain ⟨piece, tail, hcut, hne, rfl⟩ := hdecided.cut h.proper
    rw [hcut, ← Text.dropBytes_of_cut hcut hne] at hplace
    exact hplace.advance

/-- **The records of a plain scan hold,** wherever it stands in the text. -/
theorem holds_of_scan (h : Allowed t limit level) {position : Nat}
    (hplace : Text.StandsAt text.toList position coming) (hrs : Record.AllHold t text rs) :
    Record.AllHold t text (scan log limit level position coming rs).2 := by
  induction limit generalizing level position coming rs with
  | zero =>
    rw [scan_eq_walk]
    exact (plainHost_keeps h fun _ => nofun).walk hplace none hrs
  | succ l ih =>
    rw [scan_eq_walk]
    refine (plainHost_keeps h ?_).walk hplace none hrs
    rintro l ⟨⟩ level hlevel position coming hplace rs hrs
    exact ih hlevel hplace hrs

end Scan

namespace Tokenizer

open Scan

/-- **Records tell the truth.** Whatever a tokenizer with a valid grammar records while it reads a
text is so. -/
theorem holds_of_mem_records (t : Tokenizer) (hg : t.grammar.Valid) (text : String) :
    ∀ r ∈ (t.run text).2, r.Holds t text := by
  intro r hr
  have hplain : r ∈ (t.plainRun text).2 := (run_thinned hg text).mem_iff r |>.mp hr
  exact holds_of_scan (Allowed.top hg) (Text.standsAt_zero _) (List.forall_mem_nil _) r hplain

/-- The limit is met two levels deep, behind a character of two bytes. -/
theorem holds_of_mem_records_limit :
    let t : Tokenizer := ⟨Grammar.stock, 2⟩
    Grammar.stock.Valid ∧ .depthLimit "bold" 4 2 ∈ (t.run "~é_*a").2 ∧
      (Record.depthLimit "bold" 4 2).Holds t "~é_*a" := by
  intro t
  have hg := Grammar.valid_stock
  have hmem : .depthLimit "bold" 4 2 ∈ (t.run "~é_*a").2 := by
    rw [(run_thinned hg _).mem_iff]
    decide +kernel
  exact ⟨hg, hmem, holds_of_mem_records t hg _ _ hmem⟩

end Tokenizer
end InlineMarkup
