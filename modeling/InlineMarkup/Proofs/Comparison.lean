import InlineMarkup.Proofs.Reading

/-!
# Comparing two scans

Two hosts may answer nested scans in different ways and keep different states, and still make two
scans run alike. `Host.Follows` says what is needed: answers and states stay related as long as
nested scans are asked for where they belong, at the position in the whole text where their
interior stands. `Host.Follows.walk` concludes that the two loops give the same result and end in
related states.

The condition on positions is what makes this more than a congruence. It holds because a loop never
loses its place: whatever it emits covers a leading part of the coming text (`Decided.cut`).
-/

namespace InlineMarkup

/-! ### Places in a text -/

namespace Text

/-- `rest` is what stands at a position of the whole text. -/
def StandsAt (whole : List Char) (position : Nat) (rest : List Char) : Prop :=
  ∃ front, whole = front ++ rest ∧ position = byteLength front

theorem standsAt_zero (whole : List Char) : StandsAt whole 0 whole := ⟨[], rfl, rfl⟩

/-- Behind a leading part. -/
theorem StandsAt.advance {whole piece rest : List Char} {position : Nat}
    (h : StandsAt whole position (piece ++ rest)) :
    StandsAt whole (position + byteLength piece) rest := by
  obtain ⟨front, hwhole, hposition⟩ := h
  refine ⟨front ++ piece, ?_, ?_⟩
  · rw [hwhole, List.append_assoc]
  · rw [byteLength_append, hposition]

/-- Behind a delimiter. -/
theorem StandsAt.behind_mark {whole rest : List Char} {position : Nat} {mark : String}
    (h : StandsAt whole position (mark.toList ++ rest)) :
    StandsAt whole (position + mark.utf8ByteSize) rest := by
  rw [← byteLength_toList]
  exact h.advance

/-- The text in front of a position and the text behind it make up the whole. -/
theorem StandsAt.add_byteLength {whole rest : List Char} {position : Nat}
    (h : StandsAt whole position rest) : position + byteLength rest = byteLength whole := by
  obtain ⟨front, rfl, rfl⟩ := h
  rw [byteLength_append]

/-- **A position has one text.** -/
theorem StandsAt.unique {whole rest rest' : List Char} {position : Nat}
    (h : StandsAt whole position rest) (h' : StandsAt whole position rest') : rest = rest' := by
  obtain ⟨front, hwhole, hposition⟩ := h
  obtain ⟨front', hwhole', hposition'⟩ := h'
  have hsame : front ++ rest = front' ++ rest' := hwhole.symm.trans hwhole'
  -- of two decompositions of one text, fronts of one length are equal
  exact (append_inj_of_byteLength_eq hsame (hposition.symm.trans hposition')).2

/-- What comes in a text has one position. -/
theorem StandsAt.position_eq {whole rest : List Char} {position position' : Nat}
    (h : StandsAt whole position rest) (h' : StandsAt whole position' rest) :
    position = position' :=
  Nat.add_right_cancel (h.add_byteLength.trans h'.add_byteLength.symm)

end Text

namespace Scan

variable {σ τ : Type}

/-- **One host follows another** at a level inside a whole text: related states stay related by
records and by nested scans, and nested scans have the same answers, when they are asked for where
their interior stands. -/
structure Host.Follows (h : Host σ) (k : Host τ) (level : Level) (whole : List Char)
    (Rel : σ → τ → Prop) : Prop where
  record : ∀ r s u, Rel s u → Rel (h.record r s) (k.record r u)
  absent : h.nested = none → k.nested = none
  present : ∀ n, h.nested = some n → ∃ m, k.nested = some m ∧
    ∀ t ∈ level.rules, t.isLeaf = false → ∀ position interior,
      Text.StandsAt whole position interior → ∀ s u, Rel s u →
        (n t position interior s).1 = (m t position interior u).1 ∧
          Rel (n t position interior s).2 (m t position interior u).2

namespace Host.Follows

variable {h : Host σ} {k : Host τ} {level : Level} {whole : List Char} {Rel : σ → τ → Prop}
  {s : σ} {u : τ}

theorem records (hf : h.Follows k level whole Rel) (hrel : Rel s u) (rs : List Record) :
    Rel (rs.foldl (fun s r => h.record r s) s) (rs.foldl (fun u r => k.record r u) u) := by
  induction rs generalizing s u with
  | nil => exact hrel
  | cons r rs ih => exact ih (hf.record r s u hrel)

/-- The same branches open, and states stay related. -/
theorem openBranch (hf : h.Follows k level whole Rel) (hrel : Rel s u) {t : TokenType}
    (ht : t ∈ level.rules) (hbranch : t.isLeaf = false) {start : String} {position : Nat}
    {interior : List Char}
    (hstands : Text.StandsAt whole (position + start.utf8ByteSize) interior) :
    (Scan.openBranch h level t start position interior s).1 =
        (Scan.openBranch k level t start position interior u).1 ∧
      Rel (Scan.openBranch h level t start position interior s).2
        (Scan.openBranch k level t start position interior u).2 := by
  unfold Scan.openBranch
  -- nothing to scan behind the delimiter
  by_cases hempty : interior.isEmpty = true
  · rw [if_pos hempty, if_pos hempty]
    exact ⟨rfl, hrel⟩
  rw [if_neg hempty, if_neg hempty]
  cases hn : h.nested with
  | none =>
    -- no further level is allowed, by either host, and both record it
    rw [hf.absent hn]
    exact ⟨rfl, hf.record _ s u hrel⟩
  | some n =>
    -- the nested scan is asked for where its interior stands, so its answers are the same
    obtain ⟨m, hm, hanswer⟩ := hf.present n hn
    rw [hm]
    have hsame := hanswer t ht hbranch _ interior hstands s u hrel
    dsimp only
    generalize n t (position + start.utf8ByteSize) interior s = x at hsame
    generalize m t (position + start.utf8ByteSize) interior u = y at hsame
    obtain ⟨x, s'⟩ := x
    obtain ⟨y, u'⟩ := y
    obtain ⟨rfl, hrel'⟩ : x = y ∧ Rel s' u' := hsame
    cases x with
    | none => exact ⟨rfl, hrel'⟩
    | some closed =>
      -- an outcome without tokens is recorded and does not count
      dsimp only
      by_cases htokens : closed.tokens.isEmpty = true
      · rw [if_pos htokens, if_pos htokens]
        exact ⟨rfl, hf.record _ s' u' hrel'⟩
      · rw [if_neg htokens, if_neg htokens]
        exact ⟨rfl, hrel'⟩

/-- The same is decided at a character, and states stay related. -/
theorem act (hf : h.Follows k level whole Rel) (hrel : Rel s u) {position : Nat} {c : Char}
    {cs : List Char} (hstands : Text.StandsAt whole position (c :: cs)) (pending : Option Leaf) :
    (Scan.act h level position pending c cs (level.next (c :: cs)) s).1 =
        (Scan.act k level position pending c cs (level.next (c :: cs)) u).1 ∧
      Rel (Scan.act h level position pending c cs (level.next (c :: cs)) s).2
        (Scan.act k level position pending c cs (level.next (c :: cs)) u).2 := by
  generalize hnext : level.next (c :: cs) = found
  rcases act_cases level pending c cs found with
    ⟨action, hact⟩ | ⟨kind, start, stop, inner, htype, hforeign, hact⟩
  · -- decided without the hosts
    rw [hact, hact]
    exact ⟨rfl, hrel⟩
  · obtain ⟨_, n⟩ := found
    cases htype
    -- the interior stands behind the opening delimiter
    rw [← Level.next_branch_cut hnext hforeign] at hstands
    have hplace := hstands.behind_mark
    have hmem := Level.mem_of_next_branch hnext rfl
    obtain ⟨hfst, hsnd⟩ := hf.openBranch hrel hmem rfl hplace
    rw [hact, hact, Prod.map_fst, Prod.map_fst, hfst]
    exact ⟨rfl, hsnd⟩

/-- **Loops that run alike.** If one host follows another, whose answers are plain, then the two
loops over a text that stands in its place give the same result and end in related states. -/
theorem walk (hf : h.Follows k level whole Rel) (hlevel : level.Proper) {limit : Nat}
    (hk : k.Plain limit level) {coming : List Char} {position : Nat}
    (hstands : Text.StandsAt whole position coming) (hrel : Rel s u) (pending : Option Leaf) :
    (Scan.walk h level coming position 0 pending s).1 =
        (Scan.walk k level coming position 0 pending u).1 ∧
      Rel (Scan.walk h level coming position 0 pending s).2
        (Scan.walk k level coming position 0 pending u).2 := by
  -- the induction carries the place of what comes and the relation of the states
  induction coming using Text.induction_behind generalizing position pending s u with
  | nil =>
    -- the end of the text: a level that still has to close is recorded as unclosed
    rw [walk_nil, walk_nil]
    cases level.closing with
    | none => exact ⟨rfl, hrel⟩
    | some b => exact ⟨rfl, hf.record _ s u hrel⟩
  | cons c cs onward behind =>
    rw [walk_cons, walk_cons]
    have hrel' := hf.records hrel (level.misfits (c :: cs))
    generalize (level.misfits (c :: cs)).foldl (fun s r => h.record r s) s = s' at hrel'
    generalize (level.misfits (c :: cs)).foldl (fun u r => k.record r u) u = u' at hrel'
    have hact := hf.act hrel' hstands pending
    -- the action is the one of the plain scan, which knows what it emits
    have hdecided := decided_decision limit level pending c cs
    rw [← hk.act_fst position pending c cs u'] at hdecided
    generalize Scan.act h level position pending c cs _ s' = x at hact
    generalize Scan.act k level position pending c cs _ u' = y at hact hdecided
    obtain ⟨action, s''⟩ := x
    obtain ⟨_, u''⟩ := y
    obtain ⟨rfl, hrel''⟩ : action = _ ∧ Rel s'' u'' := hact
    cases action with
    | close =>
      -- the level closes, and nothing more is scanned
      exact ⟨rfl, hrel''⟩
    | absorb kind =>
      -- on behind one character
      have hplace : Text.StandsAt whole (position + c.utf8Size) cs :=
        (show Text.StandsAt whole position ([c] ++ cs) from hstands).advance
      obtain ⟨hfst, hsnd⟩ := onward hplace hrel'' (some (Leaf.absorb kind c pending).2)
      dsimp only [prepend]
      exact ⟨by rw [hfst], hsnd⟩
    | emit token n =>
      -- on behind the token, which covers a leading part of what comes
      obtain ⟨piece, rest, hcut, hne, rfl⟩ := hdecided.cut hlevel
      rw [hcut, ← Text.dropBytes_of_cut hcut hne] at hstands
      obtain ⟨hfst, hsnd⟩ := behind _ hstands.advance hrel'' none
      dsimp only [prepend]
      exact ⟨by rw [hfst], hsnd⟩

end Host.Follows
end Scan
end InlineMarkup
