import InlineMarkup.Proofs.RuleList

/-!
# What comes next at a level

At each character a scan asks the rules which type comes next and how many bytes it takes.
`Level.next` is the answer, the catch-all type with one character where no rule fits, and
`Level.misfits` are the records made on the way to it.

The answer is always one that a text can be cut by: it takes at least one byte and ends where a
character ends (`Level.Proper.next_boundary`), whatever the constraints of the grammar measure. If
a branch comes next, one of its delimiters stands there: the opening one
(`Level.next_branch`), or the closing one if the level is inside of that very branch
(`Level.Proper.next_closing`).
-/

namespace InlineMarkup

namespace TokenType

variable {closing : Option TokenType} {t : TokenType} {coming : List Char} {n : Nat}

theorem matches?_eq_some_iff : t.matches? closing coming = some n ↔
    t.fit closing coming = .length n := by
  unfold matches?
  cases t.fit closing coming <;> simp [Fit.length?]

/-- A branch fits by one of its delimiters, the closing one inside a branch of its own kind. -/
theorem fit_branch_eq_length_iff {kind start stop : String} {inner : Option Grammar} :
    (branch kind start stop inner).fit closing coming = .length n ↔
      ∃ delimiter, delimiter = (if closing.any (branch kind start stop inner).sameKind then stop
          else start) ∧ delimiter.toList <+: coming ∧ n = delimiter.utf8ByteSize := by
  rw [fit]
  generalize (if closing.any (branch kind start stop inner).sameKind then stop else start) = d
  by_cases hd : d.toList.isPrefixOf coming = true
  · rw [if_pos hd]
    rw [List.isPrefixOf_iff_prefix] at hd
    simp [hd, eq_comm]
  · rw [if_neg hd]
    rw [List.isPrefixOf_iff_prefix] at hd
    simp [hd]

/-- **Inside of itself a branch fits by its closing delimiter.** -/
theorem matches?_own_iff {kind start stop : String} {inner : Option Grammar} :
    (branch kind start stop inner).matches? (some (branch kind start stop inner)) coming = some n ↔
      stop.toList <+: coming ∧ n = stop.utf8ByteSize := by
  have hsame : (some (branch kind start stop inner)).any (branch kind start stop inner).sameKind =
      true := sameKind_iff.mpr rfl
  rw [matches?_eq_some_iff, fit_branch_eq_length_iff, if_pos hsame]
  exact exists_eq_left

/-- Inside of no branch, a branch fits by its opening delimiter. -/
theorem matches?_opening_iff {kind start stop : String} {inner : Option Grammar} :
    (branch kind start stop inner).matches? none coming = some n ↔
      start.toList <+: coming ∧ n = start.utf8ByteSize := by
  rw [matches?_eq_some_iff, fit_branch_eq_length_iff]
  exact exists_eq_left

/-- A leaf with a constraint fits by what is measured, if that is a place to cut and not zero. -/
theorem matches?_constrained_iff {kind : String} {constraint : Constraint} :
    (leaf kind (some constraint)).matches? closing coming = some n ↔
      constraint.measure coming = some n ∧ n ≠ 0 ∧ Text.isBoundary n coming = true := by
  rw [matches?_eq_some_iff, fit]
  rcases constraint.measure coming with _ | _ | m
  · simp only [reduceCtorEq, false_and]
  · -- a measured length of zero counts as no match at all
    simp only [reduceCtorEq, Option.some.injEq, false_iff]
    rintro ⟨rfl, h, -⟩
    exact h rfl
  · change (if Text.isBoundary (m + 1) coming then Fit.length (m + 1) else .misfit (m + 1)) = _ ↔ _
    -- any other length has to be a place to cut
    by_cases hboundary : Text.isBoundary (m + 1) coming = true
    · rw [if_pos hboundary, Fit.length.injEq, Option.some.injEq]
      exact ⟨fun h => h ▸ ⟨rfl, Nat.succ_ne_zero m, hboundary⟩, And.left⟩
    · simp only [if_neg hboundary, reduceCtorEq, Option.some.injEq, false_iff]
      rintro ⟨rfl, -, h⟩
      exact hboundary h

/-- Of the branch around, a fit depends on whether it is of the type's own kind. -/
theorem matches?_congr {closing' : Option TokenType}
    (h : closing'.any t.sameKind = closing.any t.sameKind) (coming : List Char) :
    t.matches? closing' coming = t.matches? closing coming := by
  cases t with
  | leaf kind constraint =>
    -- only a branch looks at what is around it
    cases constraint <;> rfl
  | branch kind start stop inner => rw [matches?, matches?, fit, fit, h]

/-- **A fit is a place to cut,** and not the place where the text already is. -/
theorem boundary_of_fit (hfault : t.fault? = none) (h : t.fit closing coming = .length n) :
    0 < n ∧ Text.isBoundary n coming = true := by
  cases t with
  | leaf kind constraint =>
    cases constraint with
    | some constraint =>
      -- a measured length is tested before it counts as a fit
      obtain ⟨-, hzero, hboundary⟩ := matches?_constrained_iff.mp (matches?_eq_some_iff.mpr h)
      exact ⟨Nat.pos_of_ne_zero hzero, hboundary⟩
    | none =>
      -- any single character
      cases coming with
      | nil => cases h
      | cons c cs =>
        cases h
        exact ⟨c.utf8Size_pos, Text.isBoundary_append [c] cs⟩
  | branch kind start stop inner =>
    -- a delimiter that stands there, and delimiters are not empty
    obtain ⟨d, hd, ⟨rest, rfl⟩, rfl⟩ := fit_branch_eq_length_iff.mp h
    have hmarks := (fault?_eq_none_iff.mp hfault).2.2 kind start stop inner rfl
    have hne : d ≠ "" := by
      rw [hd]
      split
      · exact hmarks.2.1
      · exact hmarks.1
    refine ⟨Nat.pos_of_ne_zero (fun h0 => hne (String.utf8ByteSize_eq_zero_iff.mp h0)), ?_⟩
    rw [← Text.byteLength_toList]
    exact Text.isBoundary_append d.toList rest

end TokenType

/-- **The first rule that fits,** said without the records. -/
theorem Match.first?_snd (closing : Option TokenType) (coming : List Char)
    (rules : List TokenType) :
    (first? closing coming rules).2 =
      rules.findSome? fun t => (t.matches? closing coming).map fun n => ⟨t, n⟩ := by
  induction rules with
  | nil => rfl
  | cons t ts ih =>
    -- the first rule fits, or the others are asked
    rw [first?, List.findSome?_cons, TokenType.matches?]
    cases t.fit closing coming with
    | none => simpa [Fit.length?] using ih
    | misfit n => simpa [Fit.length?] using ih
    | length n => simp [Fit.length?]

/-- Where the rules fit alike, the same one is found. -/
theorem Match.first?_snd_congr {closing : Option TokenType} {coming coming' : List Char}
    {rules : List TokenType}
    (h : ∀ t ∈ rules, t.matches? closing coming = t.matches? closing coming') :
    (first? closing coming rules).2 = (first? closing coming' rules).2 := by
  rw [first?_snd, first?_snd]
  induction rules with
  | nil => rfl
  | cons t ts ih =>
    have hts := ih fun u hu => h u (List.mem_cons_of_mem t hu)
    rw [List.findSome?_cons, List.findSome?_cons, h t List.mem_cons_self, hts]

namespace Level

/-- **What comes next:** the first rule that fits, or one character of the catch-all kind. -/
def next (level : Level) (coming : List Char) : Match :=
  (Match.first? level.closing coming level.rules).2.getD
    ⟨.word, Text.byteLength (coming.take 1)⟩

/-- The records made on the way to what comes next. -/
def misfits (level : Level) (coming : List Char) : List Record :=
  (Match.first? level.closing coming level.rules).1

variable {level : Level} {t : TokenType} {c : Char} {cs coming : List Char} {n : Nat}

/-- What comes next is one of the rules, which fits, or the catch-all type. -/
theorem next_cases (h : level.next coming = ⟨t, n⟩) :
    (t ∈ level.rules ∧ t.fit level.closing coming = .length n) ∨
      (t = .word ∧ n = Text.byteLength (coming.take 1)) := by
  rw [next, Match.first?_snd] at h
  cases hfound : level.rules.findSome? fun t =>
      (t.matches? level.closing coming).map (⟨t, ·⟩ : Nat → Match) with
  | none =>
    -- no rule fits
    rw [hfound] at h
    cases h
    exact .inr ⟨rfl, rfl⟩
  | some m =>
    -- the rule found is one of the list and fits with that length
    rw [hfound] at h
    cases h
    obtain ⟨u, hu, hmatch⟩ := List.exists_of_findSome?_eq_some hfound
    obtain ⟨k, hk, heq⟩ := Option.map_eq_some_iff.mp hmatch
    cases heq
    exact .inl ⟨hu, TokenType.matches?_eq_some_iff.mp hk⟩

/-- The catch-all type comes next where no rule fits. -/
theorem next_eq_word (h : ∀ t ∈ level.rules, t.matches? level.closing coming = none) :
    level.next coming = ⟨.word, Text.byteLength (coming.take 1)⟩ := by
  have hnone : (level.rules.findSome? fun t =>
      (t.matches? level.closing coming).map (⟨t, ·⟩ : Nat → Match)) = none := by
    rw [List.findSome?_eq_none_iff]
    intro t ht
    rw [h t ht, Option.map_none]
  rw [next, Match.first?_snd, hnone, Option.getD_none]

/-- A rule comes next where it fits and no other rule does. -/
theorem next_eq_of_unique (ht : t ∈ level.rules)
    (hfit : t.matches? level.closing coming = some n)
    (hother : ∀ u ∈ level.rules, u.matches? level.closing coming ≠ none → u = t) :
    level.next coming = ⟨t, n⟩ := by
  have hsome : (level.rules.findSome? fun u =>
      (u.matches? level.closing coming).map (⟨u, ·⟩ : Nat → Match)) = some ⟨t, n⟩ := by
    cases hfound : level.rules.findSome? fun u =>
        (u.matches? level.closing coming).map (⟨u, ·⟩ : Nat → Match) with
    | none =>
      -- `t` itself would have been found
      have := List.findSome?_eq_none_iff.mp hfound t ht
      rw [hfit] at this
      cases this
    | some m =>
      -- what has been found fits, so it is `t`
      obtain ⟨u, hu, hmatch⟩ := List.exists_of_findSome?_eq_some hfound
      obtain ⟨k, hk, rfl⟩ := Option.map_eq_some_iff.mp hmatch
      obtain rfl : u = t := hother u hu (by rw [hk]; exact Option.some_ne_none k)
      rw [hfit] at hk
      cases hk
      rfl
  rw [next, Match.first?_snd, hsome, Option.getD_some]

/-- A branch that comes next is one of the rules. -/
theorem mem_of_next_branch (hnext : level.next coming = ⟨t, n⟩) (hbranch : t.isLeaf = false) :
    t ∈ level.rules := by
  rcases next_cases hnext with ⟨ht, -⟩ | ⟨rfl, -⟩
  · exact ht
  · cases hbranch

/-- **A branch opens by its opening delimiter,** unless the level is inside of it. -/
theorem next_branch {kind start stop : String} {inner : Option Grammar}
    (hnext : level.next coming = ⟨.branch kind start stop inner, n⟩)
    (hopen : level.closing.any (TokenType.branch kind start stop inner).sameKind = false) :
    start.toList <+: coming ∧ n = start.utf8ByteSize := by
  rcases next_cases hnext with ⟨-, hfit⟩ | ⟨hword, -⟩
  · -- not inside of itself, so the delimiter looked for is the opening one
    obtain ⟨d, hd, hstarts, hn⟩ := TokenType.fit_branch_eq_length_iff.mp hfit
    rw [hopen] at hd
    cases hd
    exact ⟨hstarts, hn⟩
  · -- the catch-all type is a leaf
    cases hword

/-- The text is cut behind that delimiter. -/
theorem next_branch_cut {kind start stop : String} {inner : Option Grammar}
    (hnext : level.next coming = ⟨.branch kind start stop inner, n⟩)
    (hopen : level.closing.any (TokenType.branch kind start stop inner).sameKind = false) :
    start.toList ++ Text.dropBytes start.utf8ByteSize coming = coming := by
  obtain ⟨⟨interior, rfl⟩, -⟩ := next_branch hnext hopen
  rw [Text.dropBytes_toList_append]

namespace Proper

/-- **What comes next can be cut off.** It takes at least one byte of the text and ends at a
boundary, whatever a constraint has measured. -/
theorem next_boundary (h : level.Proper) (hnext : level.next (c :: cs) = ⟨t, n⟩) :
    0 < n ∧ Text.isBoundary n (c :: cs) = true := by
  rcases next_cases hnext with ⟨ht, hfit⟩ | ⟨-, rfl⟩
  · -- a rule has been tested for it
    exact TokenType.boundary_of_fit (h.rules.faultless t ht) hfit
  · -- one character is always a place to cut
    exact ⟨c.utf8Size_pos, Text.isBoundary_append [c] cs⟩

/-- **A level ends at the closing delimiter of its own branch.** What comes next has the kind of
that branch only if it is that branch, and then its closing delimiter stands there. -/
theorem next_closing (h : level.Proper) (hnext : level.next coming = ⟨t, n⟩)
    (hclose : level.closing.any t.sameKind = true) :
    ∃ kind start stop inner, level.closing = some (.branch kind start stop inner) ∧
      t = .branch kind start stop inner ∧ stop.toList <+: coming ∧ n = stop.utf8ByteSize := by
  obtain ⟨b, hb, hkind⟩ : ∃ b, level.closing = some b ∧ t.kind = b.kind := by
    cases hb : level.closing with
    | none => rw [hb] at hclose; cases hclose
    | some b => rw [hb] at hclose; exact ⟨b, rfl, TokenType.sameKind_iff.mp hclose⟩
  have hmem : b ∈ level.rules := h.closing_mem b hb
  rcases next_cases hnext with ⟨ht, hfit⟩ | ⟨rfl, -⟩
  · -- both stand in one rule list, where a kind stands for one type
    obtain rfl : t = b := h.rules.eq_of_kind_eq ht hmem hkind
    have hbranch := h.closing_branch t hb
    cases t with
    | leaf kind constraint => cases hbranch
    | branch kind start stop inner =>
      -- inside of itself, so the delimiter looked for is the closing one
      obtain ⟨d, hd, hstarts, hn⟩ := TokenType.fit_branch_eq_length_iff.mp hfit
      rw [hclose] at hd
      cases hd
      exact ⟨kind, start, stop, inner, hb, rfl, hstarts, hn⟩
  · -- the kind of the catch-all type is reserved
    exact absurd hkind.symm (h.rules.kind_ne_word hmem)

end Proper
end Level
end InlineMarkup
