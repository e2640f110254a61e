import InlineMarkup.Pattern.Reading
import InlineMarkup.Proofs.Pattern.LocalClasses

/-!
# A pattern inside a group

A pattern that is put into a group is read there as it is read by itself: the parts are the same,
and the frame of the group lies under the frames of all groups that the pattern opens. The
parenthesis behind the pattern closes the group, unless the pattern ends in a comment, which takes
it; the group stays open then. This needs a pattern that can be read by itself. Any other text may
close the group where it likes, or take the parenthesis into something that it has begun.

* `Reader.under` — a reader with one more group around all that it reads.
* `readOne?_under` — one part is read the same inside the group.
* `readAll?_under` — all parts are, and the group is closed behind them or not at all.
-/

namespace InlineMarkup.Pattern

variable {flags : Flags} {spaced : Bool} {c : Char} {cs cs' rest : List Char} {r r' : Reader}
  {frame : GroupFrame}

/-! ### Counts -/

theorem Remains.dropWhile_isSpace (h : Remains cs cs') :
    Remains (cs.dropWhile Unicode.isSpace) (cs'.dropWhile Unicode.isSpace) := by
  obtain rfl | ⟨rfl, rfl⟩ := h
  · have hspace : Unicode.isSpace ')' = false := by decide
    rw [List.dropWhile_append]
    split
    · -- spaces to the end: the parenthesis is left
      next hnil =>
      rw [List.isEmpty_iff.mp hnil]
      exact .inl (List.dropWhile_cons_of_neg (by simp [hspace]))
    · exact .inl rfl
  · exact .inr ⟨rfl, rfl⟩

theorem remains_readCount? (h : Remains cs cs') (spaced : Bool) :
    (readCount? spaced cs').1 = (readCount? spaced cs).1 ∧
      Remains (readCount? spaced cs).2 (readCount? spaced cs').2 := by
  obtain rfl | ⟨rfl, rfl⟩ := h
  · have hremains : Remains cs (cs ++ [')']) := .inl rfl
    replace hremains := hremains.dropWhile_isSpace
    unfold readCount?
    generalize cs.dropWhile Unicode.isSpace = cs₁ at hremains ⊢
    generalize (cs ++ [')']).dropWhile Unicode.isSpace = cs₁' at hremains ⊢
    -- the parenthesis is no digit, so the count is the same
    obtain rfl | ⟨rfl, rfl⟩ := hremains
    · obtain ⟨tail, htail, hsig⟩ := significant_append spaced false cs₁
      dsimp only
      rw [hsig, takeWhile_closed Char.isDigit (by decide) htail]
      constructor
      · rw [List.isEmpty_map, List.foldl_map]
        rfl
      · rw [List.getLast?_map]
        cases ((significant spaced false cs₁).takeWhile fun p => p.1.isDigit).getLast? with
        | none =>
          -- what is left begins where the spaces end, or behind the last digit
          exact (Remains.dropWhile_isSpace (.inl rfl)).skipBlank spaced
        | some p => exact (remains_skipBlank spaced false p.2).dropWhile_isSpace.skipBlank spaced
    · -- nothing is left of either text
      exact ⟨rfl, .inr ⟨rfl, rfl⟩⟩
  · exact ⟨rfl, .inr ⟨rfl, rfl⟩⟩

theorem local_readCounts? : Local (readCounts? spaced) := by
  intro cs y h
  unfold readCounts? at h ⊢
  split at h
  next least cs₁ heq =>
  split
  next least' cs₁' heq' =>
  -- the least count, and what is left behind it
  obtain ⟨rfl, h₁⟩ : least' = least ∧ Remains cs₁ cs₁' := by
    have hremains := remains_readCount? (remains_skipBlank spaced false cs) spaced
    rwa [heq, heq'] at hremains
  obtain ⟨n, hn, hcounts⟩ := Option.bind_eq_some_iff.mp h
  clear h
  refine Option.bind_eq_some_iff.mpr ⟨n, hn, ?_⟩
  -- the counts are complete only if a brace follows
  generalize hclose : (fun __x : (Nat × Option Nat) × List Char => _ :
    (Nat × Option Nat) × List Char → Option ((Nat × Option Nat) × List Char)) = close at hcounts ⊢
  have closing : ∀ {counts cs cs'}, Remains cs cs' → close (counts, cs) = some y →
      close (counts, cs') = some (closed y) := by
    subst hclose
    intro counts cs cs' hremains hc
    rcases cs with _ | ⟨c, r⟩
    · cases hc
    rw [hremains.of_cons]
    -- the brace stands in the text, and the counts are in their order
    by_cases hbrace : c = '\x7d'
    · subst hbrace
      simp only at hc ⊢
      split at hc
      · cases hc
      · next hle =>
        rw [if_neg hle]
        cases hc
        rfl
    · simp [hbrace] at hc
  clear hclose
  dsimp only at hcounts ⊢
  -- one count, if no comma follows; a comma may be followed by a greatest count
  rcases cs₁ with _ | ⟨c, r⟩
  · obtain rfl | ⟨-, rfl⟩ := h₁
    · exact closing (.inl rfl) hcounts
    · exact closing (.inr ⟨rfl, rfl⟩) hcounts
  rw [h₁.of_cons]
  by_cases hc : c = ','
  · subst hc
    simp only at hcounts ⊢
    rcases hr : skipBlank spaced false r with _ | ⟨d, r'⟩
    · rw [hr] at hcounts
      cases hcounts
    rw [hr] at hcounts
    rw [skipBlank_append_of_cons hr]
    -- no greatest count, or one that is read in what is left
    by_cases hd : d = '\x7d'
    · subst hd
      exact closing (.inl rfl) hcounts
    · simp [hd] at hcounts ⊢
      have hbehind : Remains (d :: r') (d :: r' ++ [')']) := .inl rfl
      obtain ⟨hmost, hremains⟩ := remains_readCount? hbehind spaced
      obtain ⟨p, hp, hcounts⟩ := Option.bind_eq_some_iff.mp hcounts
      obtain ⟨most, hm, rfl⟩ := Option.map_eq_some_iff.mp hp
      rw [← List.cons_append, hmost, hm]
      exact closing hremains hcounts
  · simp [hc] at hcounts ⊢
    exact closing (.inl rfl) hcounts

theorem readEager_append (cs : List Char) : readEager (cs ++ [')']) = closed (readEager cs) := by
  rcases cs with _ | ⟨c, cs⟩
  · rfl
  by_cases hc : c = '?'
  · subst hc
    rfl
  · simp [readEager, hc, closed]

/-! ### Names -/

theorem local_readName? : Local readName? := by
  intro cs y h
  unfold readName? at h ⊢
  extract_lets name at h
  extract_lets name'
  split at h
  · next c more after hname hdrop =>
    -- the name ends at a mark that stands in the text, so it is the same name
    obtain ⟨htake, hdrop'⟩ := takeWhile_append_of_stop _ [')'] hdrop
    have hname' : name' = c :: more := htake.trans hname
    have hafter : (cs ++ [')']).drop name'.length = '>' :: (after ++ [')']) := by
      rw [← hdrop', hname', ← hname]
    rw [hafter, hname']
    rw [hname] at h
    simp only
    split at h
    · next hok =>
      rw [if_pos hok]
      cases h
      rfl
    · cases h
  · cases h

theorem isPrefixOf_append {w : List Char} (hw : ')' ∉ w) :
    w.isPrefixOf (cs ++ [')']) = w.isPrefixOf cs := by
  rw [Bool.eq_iff_iff, List.isPrefixOf_iff_prefix, List.isPrefixOf_iff_prefix,
    List.prefix_concat_iff]
  -- a word that reaches to the parenthesis would hold it
  refine or_iff_right ?_
  rintro rfl
  exact hw (by simp)

theorem afterWord?_append {w : String} (hw : ')' ∉ w.toList) :
    afterWord? w (cs ++ [')']) = (afterWord? w cs).map (· ++ [')']) := by
  rw [afterWord?, afterWord?, isPrefixOf_append hw]
  split
  · -- the word stands in the text, so dropping it leaves the parenthesis where it is
    next hprefix =>
    have hle := (List.isPrefixOf_iff_prefix.mp hprefix).length_le
    rw [String.length_toList] at hle
    rw [List.drop_append_of_le_length hle]
    rfl
  · rfl

/-! ### One more group -/

namespace Reader

/-- **The reader with one more group** around all that it reads. -/
def under (frame : GroupFrame) (r : Reader) : Reader := { r with stack := r.stack ++ [frame] }

@[simp] theorem under_flags : (r.under frame).flags = r.flags := rfl

theorem repeatLast?_under {min : Nat} {max : Option Nat} {eager : Bool} :
    (r.under frame).repeatLast? min max eager =
      (r.repeatLast? min max eager).map (under frame) := by
  have hparts : (r.under frame).parts = r.parts := rfl
  unfold repeatLast?
  rw [hparts]
  cases r.parts with
  | nil => rfl
  | cons p parts =>
    dsimp only
    split <;> rfl

theorem primitive?_under {p : Primitive} :
    (r.under frame).primitive? p = (r.primitive? p).map (under frame) := by
  cases p with
  | literal l =>
    rw [primitive?, primitive?, Option.map_map]
    rfl
  | «class» s => rfl
  | look l => rfl

/-- A group that the pattern has opened is closed before the one around it. -/
theorem closeGroup?_under (h : r.closeGroup? = some r') :
    (r.under frame).closeGroup? = some (r'.under frame) := by
  unfold closeGroup? at h ⊢
  cases hstack : r.stack with
  | nil =>
    -- the pattern has opened no group, so by itself it closes none
    rw [hstack] at h
    cases h
  | cons f stack =>
    have hunder : (r.under frame).stack = f :: (stack ++ [frame]) := by
      rw [under, hstack, List.cons_append]
    rw [hstack] at h
    rw [hunder]
    cases h
    rfl

end Reader

/-- **What is read inside the group** for what is read by itself, where that is anything. -/
def ReadsUnder (frame : GroupFrame) (o o' : Option (Reader × List Char)) : Prop :=
  ∀ r rest, o = some (r, rest) →
    ∃ rest', o' = some (r.under frame, rest') ∧ Remains rest rest'

theorem readsUnder_some (h : Remains cs cs') :
    ReadsUnder frame (some (r, cs)) (some (r.under frame, cs')) := by
  rintro _ _ ⟨⟩
  exact ⟨cs', rfl, h⟩

theorem readsUnder_map (o : Option Reader) (h : Remains cs cs') :
    ReadsUnder frame (o.map fun r => (r, cs)) ((o.map (.under frame)).map fun r => (r, cs')) := by
  cases o with
  | none => rintro _ _ ⟨⟩
  | some r => exact readsUnder_some h

/-! ### Groups -/

theorem readGroup?_under (r : Reader) (cs : List Char) :
    ReadsUnder frame (readGroup? r cs) (readGroup? (r.under frame) (cs ++ [')'])) := by
  have hremains := remains_skipBlank r.flags.spaced false cs
  unfold readGroup?
  rw [Reader.under_flags]
  generalize skipBlank r.flags.spaced false cs = cs₁ at hremains ⊢
  generalize skipBlank r.flags.spaced false (cs ++ [')']) = cs₁' at hremains ⊢
  obtain rfl | ⟨rfl, rfl⟩ := hremains
  · simp (disch := decide) only [List.any_cons, List.any_nil, isPrefixOf_append, afterWord?_append,
      ← Option.map_or]
    -- what looks around is not read
    split
    · rintro _ _ ⟨⟩
    cases hname : (afterWord? "?P<" cs₁).or (afterWord? "?<" cs₁) with
    | some inside =>
      -- a name, which ends within the text
      dsimp only [Option.map_some]
      intro r' rest h
      obtain ⟨⟨name, behind⟩, hread, h⟩ := Option.bind_eq_some_iff.mp h
      rw [local_readName? hread]
      dsimp only [Option.bind_some, closed_mk] at h ⊢
      change ∃ rest', (if r.names.contains name then none else _) = _ ∧ _
      split at h
      · cases h
      · -- the group around it has no name that could be there already
        next hnew =>
        cases h
        rw [if_neg hnew]
        exact ⟨_, rfl, .inl rfl⟩
    | none =>
      dsimp only [Option.map_none]
      split
      · -- settings, up to a mark that stands in the text
        next inside _ =>
        rw [List.cons_append]
        simp only
        rcases hdrop : inside.drop (inside.takeWhile fun c => c ≠ ':' ∧ c ≠ ')').length with
          _ | ⟨d, behind⟩
        · -- without one nothing is read
          intro r' rest h
          split at h
          · cases h
          · split at h
            · next heq => cases heq
            · next heq => cases heq
            · cases h
        obtain ⟨htake, hdrop'⟩ := takeWhile_append_of_stop _ [')'] hdrop
        rw [htake, hdrop']
        split
        · rintro _ _ ⟨⟩
        cases hset : r.flags.setAll? true (inside.takeWhile fun c => c ≠ ':' ∧ c ≠ ')') with
        | none => rintro _ _ ⟨⟩
        | some flags =>
          intro r' rest h
          split at h
          · next heq heq' =>
            -- a colon: they hold in a group that is not counted
            cases heq
            cases heq'
            cases h
            exact ⟨_, rfl, .inl rfl⟩
          · next heq heq' =>
            -- a parenthesis: they hold for what follows
            cases heq
            cases heq'
            simp only
            split at h
            · cases h
            · next hletters =>
              rw [if_neg hletters]
              cases h
              exact ⟨_, rfl, .inl rfl⟩
          · cases h
      · -- a group that is counted
        next hplain =>
        -- the parenthesis is no question mark, so it makes no other group of it
        split
        · next heq =>
          obtain ⟨inside, rfl⟩ := eq_cons_of_append heq (by decide)
          exact absurd rfl (hplain inside)
        · exact readsUnder_some (.inl rfl)
  · -- nothing is left of either text
    exact readsUnder_some (.inr ⟨rfl, rfl⟩)

/-! ### Parts -/

/-- A repetition whose eagerness is read from the text. -/
theorem repeatLast?_readEager {min : Nat} {max : Option Nat} (h : Remains cs cs') :
    ReadsUnder frame ((r.repeatLast? min max (readEager cs).1).map fun r => (r, (readEager cs).2))
      (((r.under frame).repeatLast? min max (readEager cs').1).map
        fun r => (r, (readEager cs').2)) := by
  rw [Reader.repeatLast?_under]
  obtain rfl | ⟨rfl, rfl⟩ := h
  · rw [readEager_append, closed]
    exact readsUnder_map _ (.inl rfl)
  · exact readsUnder_map _ (.inr ⟨rfl, rfl⟩)

/-- **One part of a pattern** is read inside the group as it is by itself. -/
theorem readOne?_under (frame : GroupFrame) (r : Reader) (c : Char) (cs : List Char) :
    ReadsUnder frame (readOne? r c cs) (readOne? (r.under frame) c (cs ++ [')'])) := by
  have behind : Remains cs (cs ++ [')']) := .inl rfl
  unfold readOne?
  split
  · -- a group is opened, or closed, or goes on with another branch
    exact readGroup?_under r cs
  · intro r' rest h
    obtain ⟨r₁, hr₁, ⟨⟩⟩ := Option.map_eq_some_iff.mp h
    rw [Reader.closeGroup?_under hr₁]
    exact ⟨_, rfl, behind⟩
  · exact readsUnder_some behind
  · -- a class in brackets
    intro r' rest h
    obtain ⟨⟨⟨s, depth⟩, rest⟩, hclass, ⟨⟩⟩ := Option.map_eq_some_iff.mp h
    rw [Reader.under_flags, local_readClass? hclass]
    exact ⟨_, rfl, .inl rfl⟩
  · -- the repetitions, by a mark or by counts
    exact repeatLast?_readEager behind
  · exact repeatLast?_readEager behind
  · exact repeatLast?_readEager behind
  · intro r' rest h
    obtain ⟨⟨⟨min, max⟩, rest⟩, hcounts, h⟩ := Option.bind_eq_some_iff.mp h
    rw [Reader.under_flags, local_readCounts? hcounts]
    exact repeatLast?_readEager (remains_skipBlank _ _ _) _ _ h
  · -- the dot and the two ends of a text
    rw [Reader.under_flags]
    cases dot? r.flags with
    | none => rintro _ _ ⟨⟩
    | some s => exact readsUnder_some behind
  · exact readsUnder_some behind
  · exact readsUnder_some behind
  · -- an escape
    intro r' rest h
    obtain ⟨⟨p, rest⟩, hescape, h⟩ := Option.bind_eq_some_iff.mp h
    rw [Reader.under_flags, local_readEscape? hescape]
    dsimp only [Option.bind_some, closed_mk]
    rw [Reader.primitive?_under]
    exact readsUnder_map _ (.inl rfl) _ _ h
  · -- a character that stands for itself
    rw [Reader.primitive?_under]
    exact readsUnder_map _ behind

/-! ### Patterns -/

theorem readAll?_under_end {fuel : Nat} (hnil : skipBlank r.flags.spaced false cs = [])
    (hremains : Remains cs cs') :
    readAll? (fuel + 1) (r.under frame) cs' = (r.under frame).closeGroup? ∨
      readAll? (fuel + 1) (r.under frame) cs' = some (r.under frame) := by
  have hskipped := hremains.skipBlank r.flags.spaced
  rw [hnil] at hskipped
  unfold readAll?
  rw [Reader.under_flags]
  -- the parenthesis is left and closes the group, or a comment has taken it in
  obtain heq | ⟨-, heq⟩ := hskipped
  · rw [heq]
    refine .inl ?_
    have hone : readOne? (r.under frame) ')' [] =
        (r.under frame).closeGroup?.map fun r => (r, []) := rfl
    dsimp only [List.nil_append]
    rw [hone]
    cases (r.under frame).closeGroup? with
    | none => rfl
    | some r₁ => cases fuel <;> rfl
  · rw [heq]
    exact .inr rfl

theorem readAll?_under (frame : GroupFrame) {fuel fuel' : Nat} (hfuel : fuel < fuel')
    (h : readAll? fuel r cs = some r') (hremains : Remains cs cs') :
    readAll? fuel' (r.under frame) cs' = (r'.under frame).closeGroup? ∨
      readAll? fuel' (r.under frame) cs' = some (r'.under frame) := by
  induction fuel generalizing fuel' r cs cs' with
  | zero =>
    -- without fuel the text is at its end
    obtain ⟨fuel', rfl⟩ := Nat.exists_eq_add_of_lt hfuel
    unfold readAll? at h
    rcases hcs : skipBlank r.flags.spaced false cs with _ | ⟨c, rest⟩
    · rw [hcs] at h
      cases h
      exact readAll?_under_end hcs hremains
    · rw [hcs] at h
      cases h
  | succ fuel ih =>
    obtain ⟨fuel', rfl⟩ := Nat.exists_eq_add_of_lt (Nat.zero_lt_of_lt hfuel)
    rw [Nat.zero_add] at hfuel ⊢
    unfold readAll? at h
    rcases hcs : skipBlank r.flags.spaced false cs with _ | ⟨c, rest⟩
    · rw [hcs] at h
      cases h
      exact readAll?_under_end hcs hremains
    · rw [hcs] at h
      have hcs' := hremains.skipBlank r.flags.spaced
      rw [hcs] at hcs'
      dsimp only at h
      cases hone : readOne? r c rest with
      | none =>
        rw [hone] at h
        cases h
      | some p =>
        rw [hone] at h
        -- one part is read the same, and what is left goes on with the fuel that is left
        obtain ⟨rest', hone', hremains'⟩ := readOne?_under frame r c rest _ _ hone
        unfold readAll?
        rw [Reader.under_flags, hcs'.of_cons]
        dsimp only
        rw [hone']
        exact ih (by omega) h hremains'

end InlineMarkup.Pattern
