import InlineMarkup.Proofs.Tokenizing
import InlineMarkup.Proofs.Writing

/-!
# Reading and writing back

The tokens of a text, written with the grammar they were read with, give the text back. Nothing is
lost on the way: no leaf is empty, and no branch.

Both are read off a reading. `Reads.writeAll` says that a writer which knows the rules of the level
adds what the reading covers, together with what the leaf under way holds; the induction goes into
the interiors of branches, where the writer has entered their scopes. `Reads.filled` says that a
reading makes no empty token unless the leaf under way is empty, which never happens; it is a case
of `Reads.forall_walkList`, which goes through all visits to the tokens of a reading.
-/

namespace InlineMarkup

/-! ### Walks -/

namespace Token

/-- The walk of two forests in turn. -/
theorem walkList_append (depth : Nat) (xs ys : List Token) :
    walkList depth (xs ++ ys) = walkList depth xs ++ walkList depth ys := by
  induction xs with
  | nil => rfl
  | cons x xs ih => rw [List.cons_append, walkList, walkList, ih, List.append_assoc]

/-- The walks of the roots in turn are the walk of the forest. -/
theorem flatMap_walk (ts : List Token) : ts.flatMap walk = walkList 0 ts := by
  induction ts with
  | nil => rfl
  | cons t ts ih => rw [List.flatMap_cons, ih, walk, walkList]

/-- No empty token is met if there is none. -/
theorem firstEmpty?_eq_none_iff {ts : List Token} :
    firstEmpty? ts = none ↔ ∀ v ∈ walkList 0 ts, v.token.isEmpty = false := by
  rw [firstEmpty?, flatMap_walk, List.find?_eq_none]
  simp only [Bool.not_eq_true]

end Token

namespace Scan

/-! ### Leaves under way -/

namespace Leaf

/-- The text of the leaf under way, none being under way counting as empty. -/
def held (pending : Option Leaf) : String := (pending.map Leaf.text).getD ""

/-- A finished leaf is written as its text. -/
theorem writeAll_finish (w : Writer) (pending : Option Leaf) (tokens : List Token) :
    w.writeAll (finish pending ++ tokens) = (w.put (held pending)).writeAll tokens := by
  cases pending with
  | none =>
    have hput : w.put (held none) = w := w.put_empty
    rw [hput]
    rfl
  | some l =>
    have hput : w.write l.token = w.put l.text := by rw [token, Writer.write]
    rw [Writer.writeAll_append, finish]
    simp only [Option.map_some, Option.toList_some, Writer.writeAll_cons, hput, held,
      Option.getD_some]
    rw [Writer.writeAll]

/-- **A character that is absorbed** goes behind what the leaf under way holds, whether that leaf
grows by it or ends in front of it. -/
theorem absorb_held (kind : String) (c : Char) (pending : Option Leaf) :
    ∃ done, (done = none ∨ done = pending) ∧ (absorb kind c pending).1 = finish done ∧
      held done ++ (absorb kind c pending).2.text = held pending ++ String.singleton c := by
  cases pending with
  | none =>
    -- a leaf begins
    exact ⟨none, .inl rfl, rfl, rfl⟩
  | some l =>
    unfold absorb
    by_cases hsame : l.kind = kind
    · -- it grows: nothing is finished
      refine ⟨none, .inl rfl, ?_, ?_⟩
      · simp only [if_pos hsame]
        rfl
      · simp only [if_pos hsame, held, Option.map_none, Option.map_some, Option.getD_none,
          Option.getD_some, String.empty_append, String.push_eq_append]
    · -- it ends: the new leaf holds the character alone
      refine ⟨some l, .inr rfl, ?_, ?_⟩
      · simp only [if_neg hsame]
        rfl
      · simp only [if_neg hsame]
        rfl

/-- The leaf that a character goes to is not empty. -/
theorem absorb_text_ne_empty (kind : String) (c : Char) (pending : Option Leaf) :
    (absorb kind c pending).2.text ≠ "" := by
  have hsingle : c.toString ≠ "" := by simp [Char.toString]
  cases pending with
  | none => exact hsingle
  | some l =>
    unfold absorb
    by_cases hsame : l.kind = kind
    · -- the leaf that is there grows
      simp only [if_pos hsame]
      exact String.push_ne_empty
    · -- a leaf begins with the character
      simp only [if_neg hsame]
      exact hsingle

end Leaf

namespace Reads

variable {limit : Nat} {level : Level} {pending : Option Leaf} {coming rest : List Char}
  {tokens : List Token}

/-! ### Nothing changes -/

/-- **A reading is written back as the text it covers,** by a writer that knows the rules of the
level. -/
theorem writeAll (h : Reads limit level pending coming tokens rest) (hlevel : level.Proper)
    {w : Writer} (hknows : w.Knows level.rules) :
    ∃ front, coming = front ++ rest ∧
      w.writeAll tokens = w.put (Leaf.held pending ++ String.ofList front) := by
  -- one case for each rule of scanning; a branch uses both hypotheses, the one for its interior
  -- with a writer that has entered the branch
  induction h generalizing w with
  | @finished limit level pending top =>
    -- nothing is covered: the leaf under way is written
    refine ⟨[], rfl, ?_⟩
    have hwritten := Leaf.writeAll_finish w pending []
    rw [List.append_nil] at hwritten
    rw [hwritten, Writer.writeAll, String.ofList_nil, String.append_empty]
  | @ended limit level pending c cs ends =>
    -- in front of the closing delimiter, too
    refine ⟨[], rfl, ?_⟩
    have hwritten := Leaf.writeAll_finish w pending []
    rw [List.append_nil] at hwritten
    rw [hwritten, Writer.writeAll, String.ofList_nil, String.append_empty]
  | @absorbed limit level pending c cs kind tokens rest goes onward ih =>
    -- what the character ends is written first; the leaf under way then holds the character
    obtain ⟨done, -, hdone, hheld⟩ := Leaf.absorb_held kind c pending
    obtain ⟨front, rfl, hwritten⟩ := ih hlevel (hknows.put (Leaf.held done))
    refine ⟨c :: front, rfl, ?_⟩
    have htext : Leaf.held (some (Leaf.absorb kind c pending).2) =
        (Leaf.absorb kind c pending).2.text := rfl
    rw [hdone, Leaf.writeAll_finish, hwritten, Writer.put_put, htext, ← String.append_assoc, hheld,
      String.append_assoc, String.ofList_cons]
  | @whole limit level pending kind constraint text cs tokens rest comes long onward ih =>
    -- the leaf under way, the match, and what stands behind it
    obtain ⟨front, rfl, hwritten⟩ := ih hlevel
      (hknows.put (Leaf.held pending ++ String.ofList text))
    refine ⟨text ++ front, (List.append_assoc _ _ _).symm, ?_⟩
    have hnone : Leaf.held none = "" := rfl
    rw [hnone, String.empty_append] at hwritten
    rw [Leaf.writeAll_finish, Writer.writeAll_cons, Writer.write, Writer.put_put, hwritten,
      Writer.put_put, String.ofList_append, String.append_assoc]
  | @branch limit level pending kind start stop inner interior children cs tokens rest comes filled
      within onward ihin ihon =>
    have hmem := Level.mem_of_next_branch comes.next rfl
    have hinside := hlevel.inside hmem rfl
    have hnone : Leaf.held none = "" := rfl
    -- the interior, written in the scope of the branch
    have hentered := ((hknows.put (Leaf.held pending)).put start).enter hlevel.rules hmem
    obtain ⟨middle, rfl, hwithin⟩ := ihin hinside hentered
    rw [hnone, String.empty_append] at hwithin
    -- the branch, and what stands behind it
    have hbranch := (hknows.put (Leaf.held pending)).write_branch hmem hwithin
    obtain ⟨front, rfl, hwritten⟩ := ihon hlevel
      (hknows.put (Leaf.held pending ++ (start ++ String.ofList middle ++ stop)))
    rw [hnone, String.empty_append] at hwritten
    refine ⟨start.toList ++ middle ++ stop.toList ++ front, ?_, ?_⟩
    · simp only [List.append_assoc]
    · rw [Leaf.writeAll_finish, Writer.writeAll_cons, hbranch, Writer.put_put, hwritten,
        Writer.put_put]
      simp only [String.ofList_append, String.ofList_toList, String.append_assoc]

/-! ### Nothing is empty -/

/-- What holds of all leaves with text holds of a finished leaf. -/
theorem forall_walkList_finish {P : Token.Visit → Prop} {depth : Nat}
    (leaf : ∀ kind text, text ≠ "" → P ⟨depth, .leaf kind text⟩)
    (hpending : ∀ l, pending = some l → l.text ≠ "") :
    ∀ v ∈ Token.walkList depth (Leaf.finish pending), P v := by
  cases pending with
  | none =>
    -- there is no leaf
    intro v hv
    cases hv
  | some l =>
    intro v hv
    obtain rfl : v = ⟨depth, l.token⟩ := by
      simpa [Leaf.finish, Leaf.token, Token.walkList, Token.walkFrom] using hv
    exact leaf l.kind l.text (hpending l rfl)

/-- **What a reading makes, visit by visit.** `P limit depth v` is to say something of a visit below
a level at `depth` where `limit` further levels are allowed. It holds of all visits if it holds of
the leaves and branches of a level, none of which is empty, and goes over from the level inside a
branch to the level of the branch. -/
theorem forall_walkList {P : Nat → Nat → Token.Visit → Prop}
    (leaf : ∀ limit depth kind text, text ≠ "" → P limit depth ⟨depth, .leaf kind text⟩)
    (branch : ∀ limit depth kind children, children ≠ [] →
      P (limit + 1) depth ⟨depth, .branch kind children⟩)
    (inside : ∀ limit depth v, P limit (depth + 1) v → P (limit + 1) depth v)
    (h : Reads limit level pending coming tokens rest)
    (hpending : ∀ l, pending = some l → l.text ≠ "") (depth : Nat) :
    ∀ v ∈ Token.walkList depth tokens, P limit depth v := by
  induction h generalizing depth with
  | finished => exact forall_walkList_finish (leaf _ depth) hpending
  | ended => exact forall_walkList_finish (leaf _ depth) hpending
  | @absorbed limit level pending c cs kind tokens rest goes onward ih =>
    obtain ⟨done, hdone, hfinish, -⟩ := Leaf.absorb_held kind c pending
    intro v hv
    rw [hfinish, Token.walkList_append] at hv
    rcases List.mem_append.mp hv with hv | hv
    · -- the leaf that ends is the one under way, if one ends
      refine forall_walkList_finish (leaf limit depth) ?_ v hv
      intro l hl
      rcases hdone with rfl | rfl
      · cases hl
      · exact hpending l hl
    · -- the leaf that grows holds the character
      refine ih ?_ depth v hv
      intro l hl
      cases hl
      exact Leaf.absorb_text_ne_empty kind c pending
  | @whole limit level pending kind constraint text cs tokens rest comes long onward ih =>
    intro v hv
    rw [Token.walkList_append, Token.walkList, Token.walkFrom] at hv
    rcases List.mem_append.mp hv with hv | hv
    · exact forall_walkList_finish (leaf limit depth) hpending v hv
    rcases List.mem_append.mp hv with hv | hv
    · obtain rfl : v = ⟨depth, .leaf kind (String.ofList text)⟩ := List.mem_singleton.mp hv
      -- the match is longer than one character
      have htext : text ≠ [] := List.ne_nil_of_length_pos (Nat.lt_of_succ_lt long)
      exact leaf limit depth kind _ (by simpa using htext)
    · exact ih (by rintro l ⟨⟩) depth v hv
  | @branch limit level pending kind start stop inner interior children cs tokens rest comes filled
      within onward ihin ihon =>
    intro v hv
    rw [Token.walkList_append, Token.walkList, Token.walkFrom] at hv
    rcases List.mem_append.mp hv with hv | hv
    · exact forall_walkList_finish (leaf _ depth) hpending v hv
    rcases List.mem_append.mp hv with hv | hv
    · rcases List.mem_cons.mp hv with rfl | hv
      · -- the branch itself, and what is inside
        exact branch limit depth kind children filled
      · exact inside limit depth v (ihin (by rintro l ⟨⟩) (depth + 1) v hv)
    · exact ihon (by rintro l ⟨⟩) depth v hv

/-- **No token of a reading is empty,** however deep it stands, if the leaf under way is not. -/
theorem filled (h : Reads limit level pending coming tokens rest)
    (hpending : ∀ l, pending = some l → l.text ≠ "") (depth : Nat) :
    ∀ v ∈ Token.walkList depth tokens, v.token.isEmpty = false := by
  refine forall_walkList (P := fun _ _ v => v.token.isEmpty = false) ?_ ?_ ?_ h hpending depth
  · intro limit depth kind text htext
    simpa [Token.isEmpty] using htext
  · intro limit depth kind children hchildren
    simpa [Token.isEmpty] using hchildren
  · exact fun _ _ _ hv => hv

end Reads
end Scan

/-! ### Texts -/

namespace Tokenizer

/-- **The round trip.** With a valid grammar, whatever its constraints measure and however little
nesting is allowed, the tokens of a text are written back as that text. No branch is written
without its delimiters, and no token is empty; so a round trip succeeds and returns the tokens. -/
theorem source_tokenize (t : Tokenizer) (hg : t.grammar.Valid) (text : String) :
    t.grammar.source (t.tokenize text) = text ∧
      (t.grammar.written (t.tokenize text)).records = #[] ∧
      (∀ v ∈ Token.walkList 0 (t.tokenize text), v.token.isEmpty = false) ∧
      t.roundTrip text = (.ok (t.tokenize text), (t.run text).2) := by
  have hreads := reads_tokenize hg text
  have hknows : (Writer.start t.grammar).Knows (Level.top t.grammar).rules :=
    Writer.knows_start hg.isRuleList
  obtain ⟨front, hfront, hwritten⟩ := hreads.writeAll (Level.proper_top hg) hknows
  have hfilled := hreads.filled (fun _ => nofun) 0
  -- the whole text has been read, so the writer has added all of it and nothing else
  obtain rfl : front = text.toList := by rw [hfront, List.append_nil]
  have hwhole : t.grammar.written (t.tokenize text) = (Writer.start t.grammar).put text := by
    rw [Grammar.written, hwritten, String.ofList_toList]
    exact congrArg _ String.empty_append
  have hsource : t.grammar.source (t.tokenize text) = text := by
    rw [Grammar.source, hwhole]
    exact String.empty_append
  have hrecords : (t.grammar.written (t.tokenize text)).records = #[] := by rw [hwhole]; rfl
  refine ⟨hsource, hrecords, hfilled, ?_⟩
  have hempty := Token.firstEmpty?_eq_none_iff.mpr hfilled
  unfold Grammar.source tokenize at hsource
  unfold tokenize at hrecords hempty
  unfold roundTrip tokenize
  dsimp only
  rw [if_pos hsource, hempty, hrecords]
  simp

/-- A fence, whose interior is verbatim, and a bold branch that is given up at the limit. -/
theorem source_tokenize_fence :
    let t : Tokenizer := ⟨Grammar.stock, 1⟩
    Grammar.stock.Valid ∧
      Grammar.stock.source (t.tokenize "```*é*```_*a*_") = "```*é*```_*a*_" ∧
      (Grammar.stock.written (t.tokenize "```*é*```_*a*_")).records = #[] ∧
      (∀ v ∈ Token.walkList 0 (t.tokenize "```*é*```_*a*_"), v.token.isEmpty = false) ∧
      t.roundTrip "```*é*```_*a*_" =
        (.ok (t.tokenize "```*é*```_*a*_"), (t.run "```*é*```_*a*_").2) :=
  ⟨Grammar.valid_stock,
    source_tokenize ⟨Grammar.stock, 1⟩ Grammar.valid_stock "```*é*```_*a*_"⟩

end Tokenizer
end InlineMarkup
