import InlineMarkup.Proofs.Outcome

/-!
# Readings

A *reading* of a text at a level is a derivation that says, from the front of the text to its end,
which rule of scanning applies at each character: `Reads limit level pending coming tokens rest`
means that a scan with `pending` under way turns `coming` into `tokens` and stops in front of
`rest`. The constructors are the rules; a branch holds the reading of its interior.

* `exists_reads_of_resume` — what a plain scan gives has a reading.
* `Reads.resume` — what has a reading is what the plain scan gives.

So properties of the tokens of a text are proved by induction on readings, where nothing is left
of positions, records and failed attempts, except that a branch that was given up is text.
-/

namespace InlineMarkup

/-- **A level stops in front of a tail:** at the end of the whole text, or in front of the closing
delimiter of its branch. -/
def Level.Stops (level : Level) (tail : List Char) : Prop :=
  (level.closing = none ∧ tail = []) ∨
    ∃ kind start stop inner, level.closing = some (.branch kind start stop inner) ∧
      stop.toList <+: tail

namespace Scan

/-! ### Decisions -/

/-- **The outcome of opening a branch** in front of `interior`. -/
def opening (limit : Nat) (level : Level) (t : TokenType) (interior : List Char) :
    Option Closed :=
  (openBranch (quietHost limit level) level t "" 0 interior ()).1

/-- **A branch opens** if a further level is allowed and the nested scan finds tokens and the
closing delimiter. -/
theorem opening_eq_some_iff {limit : Nat} {level : Level} {t : TokenType} {interior : List Char}
    {closed : Closed} :
    opening limit level t interior = some closed ↔
      interior ≠ [] ∧ closed.tokens ≠ [] ∧
        ∃ l, limit = l + 1 ∧ outcome l (level.inside t) interior = some closed := by
  unfold opening openBranch
  by_cases hempty : interior = []
  · -- nothing to scan behind the delimiter, so neither side holds
    simp [hempty]
  rw [if_neg (by simpa using hempty)]
  cases limit with
  | zero =>
    -- no further level is allowed
    simp [plainHost]
  | succ l =>
    -- the answer of the host is the outcome, wherever the interior stands
    have hfst := scan_fst (fun _ (u : Unit) => u) l (level.inside t)
      (0 + String.utf8ByteSize "") interior ()
    simp only [plainHost]
    generalize scan _ l (level.inside t) _ interior () = x at hfst
    obtain ⟨x, u⟩ := x
    dsimp only at hfst ⊢
    simp only [Nat.add_right_cancel_iff, exists_eq_left', ← hfst, ne_eq, hempty,
      not_false_eq_true, true_and]
    cases x with
    | none => simp
    | some found =>
      -- an outcome without tokens does not count
      by_cases htokens : found.tokens = []
      · simp only [htokens, List.isEmpty_nil, if_true, reduceCtorEq, Option.some.injEq, false_iff]
        rintro ⟨h, rfl⟩
        exact h htokens
      · simp only [List.isEmpty_iff, htokens, if_false, Option.some.injEq]
        constructor
        · rintro rfl
          exact ⟨htokens, rfl⟩
        · exact And.right

/-- Without nesting no branch opens. -/
theorem opening_zero (level : Level) (t : TokenType) (interior : List Char) :
    opening 0 level t interior = none := by
  apply Option.eq_none_iff_forall_ne_some.mpr
  intro closed hopens
  obtain ⟨-, -, l, hl, -⟩ := opening_eq_some_iff.mp hopens
  cases hl

/-- **A type comes next and counts.** It is what the rules say of the coming text, the leaf under
way is of another kind, and the level is not inside of it. -/
structure Comes (level : Level) (pending : Option Leaf) (coming : List Char) (t : TokenType)
    (n : Nat) : Prop where
  next : level.next coming = ⟨t, n⟩
  fresh : (pending.any fun l => l.kind == t.kind) = false
  foreign : level.closing.any t.sameKind = false

/-- **The rules of scanning at a character** `c` with `cs` behind it. -/
inductive Decided (limit : Nat) (level : Level) (pending : Option Leaf) (c : Char)
    (cs : List Char) : Action → Prop where
  /-- The leaf under way grows. -/
  | grown {t : TokenType} {n : Nat} (next : level.next (c :: cs) = ⟨t, n⟩)
      (same : (pending.any fun l => l.kind == t.kind) = true) :
      Decided limit level pending c cs (.absorb t.kind)
  /-- The level ends: its own branch comes next. -/
  | ended {t : TokenType} {n : Nat} (next : level.next (c :: cs) = ⟨t, n⟩)
      (fresh : (pending.any fun l => l.kind == t.kind) = false)
      (own : level.closing.any t.sameKind = true) :
      Decided limit level pending c cs .close
  /-- A new leaf begins. -/
  | begun {kind : String} {constraint : Option Constraint} {n : Nat}
      (comes : Comes level pending (c :: cs) (.leaf kind constraint) n)
      (short : n ≤ c.utf8Size) :
      Decided limit level pending c cs (.absorb kind)
  /-- A leaf of more than one character stands here as a whole. -/
  | whole {kind : String} {constraint : Option Constraint} {n : Nat}
      (comes : Comes level pending (c :: cs) (.leaf kind constraint) n)
      (long : c.utf8Size < n) :
      Decided limit level pending c cs
        (.emit (.leaf kind (String.ofList (Text.takeBytes n (c :: cs)))) n)
  /-- A branch opens. -/
  | opened {kind start stop : String} {inner : Option Grammar} {n : Nat} {closed : Closed}
      (comes : Comes level pending (c :: cs) (.branch kind start stop inner) n)
      (opens : opening limit level (.branch kind start stop inner)
        (Text.dropBytes start.utf8ByteSize (c :: cs)) = some closed) :
      Decided limit level pending c cs (.emit (.branch kind closed.tokens)
        (start.utf8ByteSize + closed.consumed + stop.utf8ByteSize))
  /-- A branch is given up, and the character is text. -/
  | givenUp {kind start stop : String} {inner : Option Grammar} {n : Nat}
      (comes : Comes level pending (c :: cs) (.branch kind start stop inner) n)
      (fails : opening limit level (.branch kind start stop inner)
        (Text.dropBytes start.utf8ByteSize (c :: cs)) = none) :
      Decided limit level pending c cs (.absorb wordKind)

section Decision

variable {limit : Nat} {level : Level} {pending : Option Leaf} {c : Char} {cs : List Char}

/-- Whether a branch opens does not depend on where it stands. -/
theorem openBranch_fst_eq_opening (limit : Nat) (level : Level) (t : TokenType) (start : String)
    (position : Nat) (interior : List Char) :
    (openBranch (quietHost limit level) level t start position interior ()).1 =
      opening limit level t interior := by
  have hplain := plainHost_plain (fun _ (u : Unit) => u) limit level
  exact openBranch_fst_eq hplain hplain t start "" position 0 interior () ()

/-- The decision at a branch that comes next hangs on whether it opens. -/
theorem decision_branch {kind start stop : String} {inner : Option Grammar} {n : Nat}
    (comes : Comes level pending (c :: cs) (.branch kind start stop inner) n) :
    decision limit level pending c cs =
      match opening limit level (.branch kind start stop inner)
          (Text.dropBytes start.utf8ByteSize (c :: cs)) with
      | some closed => .emit (.branch kind closed.tokens)
          (start.utf8ByteSize + closed.consumed + stop.utf8ByteSize)
      | none => .absorb wordKind := by
  unfold decision act
  simp only [comes.next]
  rw [if_neg (Bool.eq_false_iff.mp comes.fresh), if_neg (Bool.eq_false_iff.mp comes.foreign)]
  rw [← openBranch_fst_eq_opening limit level _ start 0]
  generalize openBranch _ level _ start 0 _ () = answer
  rcases answer with ⟨_ | closed, u⟩ <;> rfl

/-- Every decision follows a rule. -/
theorem decided_decision (limit : Nat) (level : Level) (pending : Option Leaf) (c : Char)
    (cs : List Char) :
    Decided limit level pending c cs (decision limit level pending c cs) := by
  obtain ⟨t, n, hnext⟩ : ∃ t n, level.next (c :: cs) = ⟨t, n⟩ := ⟨_, _, rfl⟩
  by_cases hsame : (pending.any fun l => l.kind == t.kind) = true
  · -- the leaf under way has this kind
    unfold decision act
    simp only [hnext]
    rw [if_pos hsame]
    exact .grown hnext hsame
  by_cases hclose : level.closing.any t.sameKind = true
  · -- the level is inside of a branch of this kind
    unfold decision act
    simp only [hnext]
    rw [if_neg hsame, if_pos hclose]
    exact .ended hnext (Bool.eq_false_iff.mpr hsame) hclose
  -- the type counts; what happens now is a matter of its shape
  have hcomes : Comes level pending (c :: cs) t n :=
    ⟨hnext, Bool.eq_false_iff.mpr hsame, Bool.eq_false_iff.mpr hclose⟩
  cases t with
  | leaf kind constraint =>
    unfold decision act
    simp only [hnext]
    rw [if_neg hsame, if_neg hclose]
    by_cases hlong : n > c.utf8Size
    · simp only [if_pos hlong]
      exact .whole hcomes hlong
    · simp only [if_neg hlong]
      exact .begun hcomes (Nat.le_of_not_lt hlong)
  | branch kind start stop inner =>
    rw [decision_branch hcomes]
    cases hopen : opening limit level (.branch kind start stop inner)
        (Text.dropBytes start.utf8ByteSize (c :: cs)) with
    | none => exact .givenUp hcomes hopen
    | some closed => exact .opened hcomes hopen

/-- **The rules leave no choice:** an action that follows a rule is the decision. -/
theorem Decided.decision_eq {action : Action} (h : Decided limit level pending c cs action) :
    decision limit level pending c cs = action := by
  cases h with
  | grown next same =>
    -- each rule says how the tests turn out that lead to its action
    unfold decision act
    simp only [next]
    rw [if_pos same]
  | ended next fresh own =>
    unfold decision act
    simp only [next]
    rw [if_neg (Bool.eq_false_iff.mp fresh), if_pos own]
  | begun comes short =>
    unfold decision act
    simp only [comes.next]
    rw [if_neg (Bool.eq_false_iff.mp comes.fresh), if_neg (Bool.eq_false_iff.mp comes.foreign),
      if_neg (Nat.not_lt.mpr short)]
  | whole comes long =>
    unfold decision act
    simp only [comes.next]
    rw [if_neg (Bool.eq_false_iff.mp comes.fresh), if_neg (Bool.eq_false_iff.mp comes.foreign),
      if_pos long]
  | opened comes opens => rw [decision_branch comes, opens]
  | givenUp comes fails => rw [decision_branch comes, fails]

/-! A step of the loop, for each action that follows a rule. -/

theorem resume_of_close (h : Decided limit level pending c cs .close) :
    resume limit level pending (c :: cs) = some ⟨Leaf.finish pending, 0⟩ := by
  rw [resume_cons, h.decision_eq]

theorem resume_of_absorb {kind : String} (h : Decided limit level pending c cs (.absorb kind)) :
    resume limit level pending (c :: cs) =
      (resume limit level (some (Leaf.absorb kind c pending).2) cs).map
        (Closed.after (Leaf.absorb kind c pending).1 c.utf8Size) := by
  rw [resume_cons, h.decision_eq]

theorem resume_of_emit {token : Token} {piece rest : List Char} (hcut : c :: cs = piece ++ rest)
    (hne : piece ≠ [])
    (h : Decided limit level pending c cs (.emit token (Text.byteLength piece))) :
    resume limit level pending (c :: cs) =
      (resume limit level none rest).map
        (Closed.after (Leaf.finish pending ++ [token]) (Text.byteLength piece)) := by
  rw [resume_cons, h.decision_eq]
  dsimp only
  rw [Text.dropBytes_of_cut hcut hne]

end Decision

/-! ### Readings -/

/-- **Readings.** `Reads limit level pending coming tokens rest` says that with `limit` further
levels allowed and the leaf `pending` under way, the text `coming` of a level gives `tokens`, and
that the level ends in front of `rest`. -/
inductive Reads : Nat → Level → Option Leaf → List Char → List Token → List Char → Prop where
  /-- The whole text ends where it has no more characters. -/
  | finished {limit level pending} (top : level.closing = none) :
      Reads limit level pending [] (Leaf.finish pending) []
  /-- The interior of a branch ends in front of its closing delimiter. -/
  | ended {limit level pending c cs} (ends : Decided limit level pending c cs .close) :
      Reads limit level pending (c :: cs) (Leaf.finish pending) (c :: cs)
  /-- A character goes to the leaf under way or to a new one. -/
  | absorbed {limit level pending c cs kind tokens rest}
      (goes : Decided limit level pending c cs (.absorb kind))
      (onward : Reads limit level (some (Leaf.absorb kind c pending).2) cs tokens rest) :
      Reads limit level pending (c :: cs) ((Leaf.absorb kind c pending).1 ++ tokens) rest
  /-- A leaf of more than one character. -/
  | whole {limit level pending kind constraint text cs tokens rest}
      (comes : Comes level pending (text ++ cs) (.leaf kind constraint) (Text.byteLength text))
      (long : 1 < text.length)
      (onward : Reads limit level none cs tokens rest) :
      Reads limit level pending (text ++ cs)
        (Leaf.finish pending ++ .leaf kind (String.ofList text) :: tokens) rest
  /-- A branch, its interior read one level deeper. -/
  | branch {limit level pending kind start stop inner interior children cs tokens rest}
      (comes : Comes level pending (start.toList ++ interior) (.branch kind start stop inner)
        start.utf8ByteSize)
      (filled : children ≠ [])
      (within : Reads limit (level.inside (.branch kind start stop inner)) none interior children
        (stop.toList ++ cs))
      (onward : Reads (limit + 1) level none cs tokens rest) :
      Reads (limit + 1) level pending (start.toList ++ interior)
        (Leaf.finish pending ++ .branch kind children :: tokens) rest

namespace Reads

variable {limit : Nat} {level : Level} {pending : Option Leaf} {coming rest : List Char}
  {tokens : List Token}

/-- What a reading leaves is the end of its text. -/
theorem suffix (h : Reads limit level pending coming tokens rest) : rest <:+ coming := by
  induction h with
  | finished => exact List.suffix_rfl
  | ended => exact List.suffix_rfl
  | absorbed _ _ ih => exact ih.trans (List.suffix_cons _ _)
  | whole _ _ _ ih => exact ih.trans (List.suffix_append _ _)
  | branch _ _ _ _ ihin ihon =>
    -- the interior is read up to the delimiter, and the rest from behind it
    have hcs := (List.suffix_append _ _).trans ihin
    exact (ihon.trans hcs).trans (List.suffix_append _ _)

/-- **Where a reading ends.** The whole text is read to its end, and the interior of a branch up to
the closing delimiter of that branch. -/
theorem ends (h : Reads limit level pending coming tokens rest) (hlevel : level.Proper) :
    level.Stops rest := by
  induction h with
  | finished top => exact .inl ⟨top, rfl⟩
  | ended ends =>
    -- its own branch has come next, by its closing delimiter
    cases ends with
    | ended next fresh own =>
      obtain ⟨kind, start, stop, inner, hb, -, hstop, -⟩ := hlevel.next_closing next own
      exact .inr ⟨kind, start, stop, inner, hb, hstop⟩
  | absorbed _ _ ih => exact ih hlevel
  | whole _ _ _ ih => exact ih hlevel
  | branch _ _ _ _ _ ihon => exact ihon hlevel

/-- **The text of a branch.** Its interior is the part that its reading covers, the closing
delimiter and a tail. -/
theorem interior_eq {kind start stop : String} {inner : Option Grammar} {interior : List Char}
    (h : Reads limit (level.inside (.branch kind start stop inner)) none interior tokens rest)
    (hinside : (level.inside (.branch kind start stop inner)).Proper) {n : Nat}
    (hsize : n + Text.byteLength rest = Text.byteLength interior) :
    ∃ front tail, interior = front ++ (stop.toList ++ tail) ∧ rest = stop.toList ++ tail ∧
      n = Text.byteLength front := by
  obtain ⟨tail, rfl⟩ : stop.toList <+: rest := by
    rcases h.ends hinside with ⟨hnone, -⟩ | ⟨_, _, _, _, hb, hstop⟩
    · cases hnone
    · cases hb
      exact hstop
  obtain ⟨front, rfl⟩ := h.suffix
  refine ⟨front, tail, rfl, rfl, ?_⟩
  rw [Text.byteLength_append front] at hsize
  exact Nat.add_right_cancel hsize

end Reads

/-- **A branch in a text.** Its delimiters and what stands between them are a leading part, as large
as the three together. -/
theorem branch_cut {start stop : String} {coming front tail : List Char} (hstart : start ≠ "")
    (h : start.toList ++ (front ++ (stop.toList ++ tail)) = coming) :
    ∃ piece, coming = piece ++ tail ∧ piece ≠ [] ∧
      start.utf8ByteSize + Text.byteLength front + stop.utf8ByteSize = Text.byteLength piece := by
  refine ⟨start.toList ++ front ++ stop.toList, ?_, by simp [hstart], ?_⟩
  · rw [← h, List.append_assoc, List.append_assoc]
  · rw [Text.byteLength_append, Text.byteLength_append, Text.byteLength_toList,
      Text.byteLength_toList]

/-- A leading part of a text with more bytes than the first character has more characters. -/
theorem one_lt_length_of_utf8Size_lt {c : Char} {cs piece tail : List Char}
    (hcut : c :: cs = piece ++ tail) (h : c.utf8Size < Text.byteLength piece) :
    1 < piece.length := by
  cases piece with
  | nil => cases h
  | cons d ds =>
    obtain rfl : c = d := (List.cons.inj hcut).1
    cases ds with
    | nil => exact absurd h (Nat.lt_irrefl _)
    | cons e es => exact Nat.succ_lt_succ (Nat.succ_pos _)

section Readings

variable {limit : Nat} {level : Level} {pending : Option Leaf} {coming rest : List Char}
  {tokens : List Token}

/-- **What a scan emits is read as one token.** It covers a leading part of the coming text, and a
reading of what is behind that part is one from here on with the token in front. Of nested scans it
is enough that their outcomes have readings. -/
theorem Decided.emits {c : Char} {cs : List Char} {token : Token} {n : Nat} (hlevel : level.Proper)
    (h : Decided limit level pending c cs (.emit token n))
    (hnested : ∀ l, limit = l + 1 → ∀ {level : Level} {interior : List Char} {closed : Closed},
      level.Proper → outcome l level interior = some closed →
        ∃ rest, Reads l level none interior closed.tokens rest ∧
          closed.consumed + Text.byteLength rest = Text.byteLength interior) :
    ∃ piece tail, c :: cs = piece ++ tail ∧ piece ≠ [] ∧ n = Text.byteLength piece ∧
      ∀ {tokens : List Token} {rest : List Char}, Reads limit level none tail tokens rest →
        Reads limit level pending (c :: cs) (Leaf.finish pending ++ token :: tokens) rest := by
  cases h with
  | @whole kind constraint n comes long =>
    -- what was measured ends where a character ends, so it is a part of the text
    obtain ⟨-, hboundary⟩ := hlevel.next_boundary comes.next
    obtain ⟨piece, tail, hcut, rfl⟩ := Text.isBoundary_iff.mp hboundary
    have hlong : 1 < piece.length := one_lt_length_of_utf8Size_lt hcut long
    have hne : piece ≠ [] := List.ne_nil_of_length_pos (Nat.lt_of_succ_lt hlong)
    refine ⟨piece, tail, hcut, hne, rfl, ?_⟩
    intro tokens rest honward
    rw [hcut] at comes ⊢
    rw [Text.takeBytes_append]
    exact .whole comes hlong honward
  | @opened kind start stop inner n closed comes opens =>
    obtain ⟨⟨interior, hstart⟩, rfl⟩ := Level.next_branch comes.next comes.foreign
    have hmem := Level.mem_of_next_branch comes.next rfl
    have hstartne := (hlevel.rules.marks_ne_empty hmem).1
    have hinside := hlevel.inside hmem rfl
    rw [← hstart, Text.dropBytes_toList_append] at opens
    obtain ⟨-, hfilled, l, rfl, houtcome⟩ := opening_eq_some_iff.mp opens
    -- the nested scan has a reading of its own, which stops at the closing delimiter
    obtain ⟨behind, hwithin, hsize⟩ := hnested l rfl hinside houtcome
    obtain ⟨front, tail, rfl, rfl, hfront⟩ := hwithin.interior_eq hinside hsize
    obtain ⟨piece, hcut, hne, hpiece⟩ := branch_cut hstartne hstart
    refine ⟨piece, tail, hcut, hne, by rw [hfront, hpiece], ?_⟩
    intro tokens rest honward
    rw [← hstart] at comes ⊢
    exact .branch comes hfilled hwithin honward

/-- **What a plain scan gives has a reading,** and the bytes it has consumed are those in front of
what the reading leaves. -/
theorem exists_reads_of_resume (hlevel : level.Proper) {closed : Closed}
    (h : resume limit level pending coming = some closed) :
    ∃ rest, Reads limit level pending coming closed.tokens rest ∧
      closed.consumed + Text.byteLength rest = Text.byteLength coming := by
  -- nested scans have a lower limit; the loop of one level goes on with a shorter text
  induction limit using Nat.strongRecOn generalizing level pending coming closed with
  | ind limit ihlimit =>
  induction hlen : coming.length using Nat.strongRecOn generalizing pending coming closed with
  | ind len ihlen =>
  cases coming with
  | nil =>
    -- inside of a branch there would be no outcome at the end of the text
    rw [resume_nil] at h
    cases htop : level.closing with
    | some b => rw [htop] at h; cases h
    | none =>
      rw [htop] at h
      cases h
      exact ⟨[], .finished htop, rfl⟩
  | cons c cs =>
    have hdecided := decided_decision limit level pending c cs
    generalize decision limit level pending c cs = action at hdecided
    cases action with
    | close =>
      rw [resume_of_close hdecided] at h
      cases h
      exact ⟨c :: cs, .ended hdecided, Nat.zero_add _⟩
    | absorb kind =>
      rw [resume_of_absorb hdecided] at h
      obtain ⟨later, hlater, rfl⟩ := Option.map_eq_some_iff.mp h
      have hcs : cs.length < len := by rw [← hlen, List.length_cons]; exact Nat.lt_succ_self _
      obtain ⟨rest, hreads, hsize⟩ := ihlen _ hcs hlater rfl
      refine ⟨rest, .absorbed hdecided hreads, ?_⟩
      rw [Closed.after, Text.byteLength_cons, Nat.add_assoc, hsize]
    | emit token n =>
      -- the outcomes of nested scans have readings by induction on the limit
      obtain ⟨piece, tail, hcut, hne, rfl, hreads⟩ := hdecided.emits hlevel (by
        rintro l rfl level interior closed hinside houtcome
        rw [outcome_eq_resume] at houtcome
        exact ihlimit l (Nat.lt_succ_self l) hinside houtcome)
      rw [resume_of_emit hcut hne hdecided] at h
      obtain ⟨later, hlater, rfl⟩ := Option.map_eq_some_iff.mp h
      have htail : tail.length < len := hlen ▸ Text.length_lt_of_cut hcut hne
      obtain ⟨rest, honward, hsize⟩ := ihlen _ htail hlater rfl
      rw [Closed.after, List.append_assoc, List.singleton_append]
      refine ⟨rest, hreads honward, ?_⟩
      rw [hcut, Text.byteLength_append, Nat.add_assoc, hsize]

/-- A leaf of more than one character is emitted where it comes next. -/
theorem Decided.of_text {kind : String} {constraint : Option Constraint} {text behind : List Char}
    (comes : Comes level pending (text ++ behind) (.leaf kind constraint) (Text.byteLength text))
    (long : 1 < text.length) :
    ∃ c cs, text ++ behind = c :: cs ∧
      Decided limit level pending c cs
        (.emit (.leaf kind (String.ofList text)) (Text.byteLength text)) := by
  cases text with
  | nil => exact absurd long (Nat.not_lt_zero 1)
  | cons c text =>
    have hlong : c.utf8Size < Text.byteLength (c :: text) := by
      rw [Text.byteLength_cons]
      exact Nat.lt_add_of_pos_right (Text.byteLength_pos (List.ne_nil_of_length_pos
        (Nat.lt_of_succ_lt_succ long)))
    have hdecided : Decided limit level pending c (text ++ behind) (.emit
        (.leaf kind (String.ofList (Text.takeBytes (Text.byteLength (c :: text))
          (c :: text ++ behind)))) (Text.byteLength (c :: text))) := .whole comes hlong
    rw [Text.takeBytes_append] at hdecided
    exact ⟨c, text ++ behind, rfl, hdecided⟩

/-- A branch is emitted where it comes next and its interior is scanned up to the closing
delimiter. -/
theorem Decided.of_resume {kind start stop : String} {inner : Option Grammar}
    {interior behind : List Char} {children : List Token} {n : Nat} (hlevel : level.Proper)
    (comes : Comes level pending (start.toList ++ interior) (.branch kind start stop inner)
      start.utf8ByteSize)
    (filled : children ≠ [])
    (nested : Scan.resume limit (level.inside (.branch kind start stop inner)) none interior =
      some ⟨children, n⟩)
    (hsize : n + Text.byteLength (stop.toList ++ behind) = Text.byteLength interior)
    (hsuffix : stop.toList ++ behind <:+ interior) :
    ∃ c cs piece, start.toList ++ interior = c :: cs ∧ c :: cs = piece ++ behind ∧ piece ≠ [] ∧
      Decided (limit + 1) level pending c cs
        (.emit (.branch kind children) (Text.byteLength piece)) := by
  have hmem := Level.mem_of_next_branch comes.next rfl
  obtain ⟨hstartne, hstopne⟩ := hlevel.rules.marks_ne_empty hmem
  obtain ⟨front, rfl⟩ := hsuffix
  obtain ⟨c, cs, hcons⟩ : ∃ c cs, start.toList ++ (front ++ (stop.toList ++ behind)) = c :: cs :=
    List.exists_cons_of_ne_nil (by simp [hstartne])
  -- the nested scan has found tokens, so the branch opens
  have hopens : opening (limit + 1) level (.branch kind start stop inner)
      (Text.dropBytes start.utf8ByteSize (c :: cs)) = some ⟨children, n⟩ := by
    rw [← hcons, Text.dropBytes_toList_append, opening_eq_some_iff]
    refine ⟨by simp [hstopne], filled, limit, rfl, ?_⟩
    rw [outcome_eq_resume, nested]
  obtain ⟨piece, hcut, hne, hpiece⟩ := branch_cut hstartne hcons
  -- and what it covers is as large as the leading part that ends behind the closing delimiter
  obtain rfl : n = Text.byteLength front := by
    rw [Text.byteLength_append front] at hsize
    exact Nat.add_right_cancel hsize
  rw [hcons] at comes
  have hdecided := Decided.opened comes hopens
  dsimp only at hdecided
  rw [hpiece] at hdecided
  exact ⟨c, cs, piece, hcons, hcut, hne, hdecided⟩

/-- **What has a reading is what the plain scan gives.** -/
theorem Reads.resume (h : Reads limit level pending coming tokens rest) (hlevel : level.Proper) :
    ∃ n, Scan.resume limit level pending coming = some ⟨tokens, n⟩ ∧
      n + Text.byteLength rest = Text.byteLength coming := by
  induction h with
  | @finished limit level pending top =>
    refine ⟨0, ?_, rfl⟩
    rw [resume_nil, top]
  | ended ends => exact ⟨0, resume_of_close ends, Nat.zero_add _⟩
  | @absorbed limit level pending c cs kind tokens rest goes onward ih =>
    obtain ⟨n, hresume, hsize⟩ := ih hlevel
    refine ⟨c.utf8Size + n, ?_, ?_⟩
    · rw [resume_of_absorb goes, hresume]
      rfl
    · rw [Text.byteLength_cons, Nat.add_assoc, hsize]
  | @whole limit level pending kind constraint text cs tokens rest comes long onward ih =>
    obtain ⟨n, hresume, hsize⟩ := ih hlevel
    obtain ⟨c, cs', hcons, hdecided⟩ := Decided.of_text comes long
    have hne : text ≠ [] := List.ne_nil_of_length_pos (Nat.lt_of_succ_lt long)
    refine ⟨Text.byteLength text + n, ?_, ?_⟩
    · rw [hcons, resume_of_emit hcons.symm hne hdecided, hresume]
      simp [Closed.after]
    · rw [Text.byteLength_append, Nat.add_assoc, hsize]
  | @branch l level pending kind start stop inner interior children cs tokens rest comes filled
      within onward ihin ihon =>
    have hmem := Level.mem_of_next_branch comes.next rfl
    -- the reading of the interior gives the outcome of the nested scan, so the branch opens
    obtain ⟨m, hnested, hinsize⟩ := ihin (hlevel.inside hmem rfl)
    obtain ⟨n, hresume, hsize⟩ := ihon hlevel
    obtain ⟨c, cs', piece, hcons, hcut, hne, hdecided⟩ :=
      Decided.of_resume hlevel comes filled hnested hinsize within.suffix
    rw [hcons, resume_of_emit hcut hne hdecided, hresume]
    refine ⟨Text.byteLength piece + n, ?_, ?_⟩
    · simp [Closed.after]
    · rw [hcut, Text.byteLength_append, Nat.add_assoc, hsize]

/-- **A nested scan ends in front of the closing delimiter,** and has consumed what stands before
it. -/
theorem interior_eq_of_outcome {kind start stop : String} {inner : Option Grammar}
    {interior : List Char} {closed : Closed}
    (hinside : (level.inside (.branch kind start stop inner)).Proper)
    (h : outcome limit (level.inside (.branch kind start stop inner)) interior = some closed) :
    ∃ front tail, interior = front ++ (stop.toList ++ tail) ∧
      closed.consumed = Text.byteLength front := by
  rw [outcome_eq_resume] at h
  obtain ⟨behind, hwithin, hsize⟩ := exists_reads_of_resume hinside h
  obtain ⟨front, tail, hinterior, -, hfront⟩ := hwithin.interior_eq hinside hsize
  exact ⟨front, tail, hinterior, hfront⟩

/-- **What a scan emits covers a leading part of the coming text.** A leaf covers what was measured,
a branch its two delimiters and what its nested scan has consumed. -/
theorem Decided.cut {c : Char} {cs : List Char} {token : Token} {n : Nat} (hlevel : level.Proper)
    (h : Decided limit level pending c cs (.emit token n)) :
    ∃ piece tail, c :: cs = piece ++ tail ∧ piece ≠ [] ∧ n = Text.byteLength piece := by
  obtain ⟨piece, tail, hcut, hne, hsize, -⟩ := h.emits hlevel (by
    intro l _ level interior closed hinside houtcome
    rw [outcome_eq_resume] at houtcome
    exact exists_reads_of_resume hinside houtcome)
  exact ⟨piece, tail, hcut, hne, hsize⟩

end Readings

end Scan
end InlineMarkup
