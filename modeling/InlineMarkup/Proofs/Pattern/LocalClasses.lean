import InlineMarkup.Pattern.Bracketed
import InlineMarkup.Proofs.Pattern.Locality

/-!
# A parenthesis behind a class

Inside brackets a parenthesis is a character like others. A class that is closed within a text is
therefore read the same with a parenthesis behind the text, part by part: a part is only read where
something follows it, and what follows stands in the text.

* `local_openBracket?`, `readAscii?_append`, `local_readRange?` — the parts of a class.
* `classStep?_append`, `classLoop?_append` — one part, and by induction all of them.
* `local_readClass?` — a class.
-/

namespace InlineMarkup.Pattern

open Unicode (CharSet)

variable {flags : Flags} {cs cs' : List Char}

/-! ### Opening -/

theorem remains_leadingHyphens (h : Remains cs cs') (spaced : Bool) :
    (leadingHyphens spaced cs').1 = (leadingHyphens spaced cs).1 ∧
      Remains (leadingHyphens spaced cs).2 (leadingHyphens spaced cs').2 := by
  obtain rfl | ⟨rfl, rfl⟩ := h
  · -- the parenthesis is no hyphen, so it ends the hyphens if nothing else does
    obtain ⟨tail, htail, hsig⟩ := significant_append spaced false cs
    unfold leadingHyphens
    dsimp only
    rw [hsig, takeWhile_closed (fun c => decide (c = '-')) (by decide) htail, List.getLast?_map]
    cases ((significant spaced false cs).takeWhile fun p => decide (p.1 = '-')).getLast? with
    | none => exact ⟨rfl, .inl rfl⟩
    | some p => exact ⟨List.length_map .., remains_skipBlank spaced false p.2⟩
  · exact ⟨rfl, .inr ⟨rfl, rfl⟩⟩

theorem local_openBracket? : Local (openBracket? flags) := by
  intro cs y h
  unfold openBracket? at h ⊢
  extract_lets cs₁ at h
  extract_lets cs₁'
  have h₁ : Remains cs₁ cs₁' := remains_skipBlank _ _ _
  -- the negation mark
  split at h
  next negated cs₂ heq =>
  split
  next negated' cs₂' heq' =>
  obtain ⟨rfl, h₂⟩ : negated' = negated ∧ Remains cs₂ cs₂' := by
    rcases hcs₁ : cs₁ with _ | ⟨c, r⟩
    · -- nothing stands there, and a parenthesis is no mark
      rw [hcs₁] at h₁ heq
      cases heq
      obtain h₁ | ⟨-, h₁⟩ := h₁ <;> rw [h₁] at heq' <;> cases heq'
      · exact ⟨rfl, .inl rfl⟩
      · exact ⟨rfl, .inr ⟨rfl, rfl⟩⟩
    · -- a character stands there, in both texts the same
      rw [hcs₁] at h₁ heq
      rw [h₁.of_cons] at heq'
      by_cases hc : c = '^'
      · subst hc
        cases heq
        cases heq'
        exact ⟨rfl, remains_skipBlank _ _ _⟩
      · simp [hc] at heq heq'
        obtain ⟨rfl, rfl⟩ := heq
        obtain ⟨rfl, rfl⟩ := heq'
        exact ⟨rfl, .inl rfl⟩
  -- hyphens that stand for themselves
  split at h
  next hyphens cs₃ heq =>
  split
  next hyphens' cs₃' heq' =>
  obtain ⟨rfl, h₃⟩ : hyphens' = hyphens ∧ Remains cs₃ cs₃' := by
    have hremains := remains_leadingHyphens h₂ flags.spaced
    rwa [heq, heq'] at hremains
  -- the first part, which the text has
  extract_lets parts at h
  rcases cs₃ with _ | ⟨c, r⟩
  · cases h
  rw [h₃.of_cons]
  -- a closing bracket that comes first stands for itself, unless hyphens do already
  by_cases hc : c = ']'
  · subst hc
    simp only at h ⊢
    split at h
    · next hnone =>
      rw [if_pos hnone]
      rcases hr : skipBlank flags.spaced false r with _ | ⟨d, r'⟩
      · rw [hr] at h
        cases h
      · rw [hr] at h
        rw [skipBlank_append_of_cons hr]
        cases h
        rfl
    · next hsome =>
      rw [if_neg hsome]
      cases h
      rfl
  · simp [hc] at h ⊢
    exact h ▸ rfl

/-! ### Parts -/

/-- **A named class** is one with a parenthesis behind the text, and nothing else becomes one. -/
theorem readAscii?_append (cs : List Char) :
    readAscii? flags (cs ++ [')']) = (readAscii? flags cs).map closed := by
  rcases cs with _ | ⟨c, cs⟩
  · rfl
  by_cases hc : c = ':'
  · subst hc
    generalize hread : readAscii? flags (':' :: cs) = read
    rw [List.cons_append]
    unfold readAscii? at hread ⊢
    split at hread
    · next heq =>
      cases heq
      -- the negation mark
      split at hread
      next negated cs₁ heq =>
      split
      next negated' cs₁' heq' =>
      obtain ⟨rfl, rfl⟩ : negated' = negated ∧ cs₁' = cs₁ ++ [')'] := by
        rcases cs with _ | ⟨d, cs⟩
        · cases heq
          cases heq'
          exact ⟨rfl, rfl⟩
        · by_cases hd : d = '^'
          · subst hd
            cases heq
            cases heq'
            exact ⟨rfl, rfl⟩
          · simp [hd] at heq heq'
            obtain ⟨rfl, rfl⟩ := heq
            obtain ⟨rfl, rfl⟩ := heq'
            exact ⟨rfl, rfl⟩
      dsimp only at hread ⊢
      rcases hdrop : cs₁.drop (cs₁.takeWhile fun c => decide (c ≠ ':')).length with _ | ⟨d, r⟩
      · -- the name does not end within the text, nor does it end behind
        rw [hdrop] at hread
        subst hread
        rw [drop_takeWhile_append _ hdrop (by simp)]
        rfl
      · -- the name ends at a colon within the text, and the closing bracket has to be next to it
        obtain ⟨htake, hdrop'⟩ := takeWhile_append_of_stop _ [')'] hdrop
        rw [htake, hdrop']
        rw [hdrop] at hread
        subst hread
        rcases r with _ | ⟨e, r⟩
        · simp
        · by_cases hend : d = ':' ∧ e = ']'
          · obtain ⟨rfl, rfl⟩ := hend
            simp only [List.cons_append, Option.map_map]
            rfl
          · rw [not_and] at hend
            by_cases hd : d = ':'
            · subst hd
              simp [hend rfl]
            · simp [hd]
    · next hno => exact absurd rfl (hno cs)
  · -- no named class begins here
    simp [readAscii?, hc]

theorem local_readPart? : Local (readPart? flags) := by
  intro cs y h
  rcases cs with _ | ⟨c, cs⟩
  · cases h
  rw [List.cons_append]
  by_cases hc : c = '\\'
  · -- an escape
    subst hc
    exact local_readEscape? h
  · -- a character that stands for itself
    simp [readPart?] at h ⊢
    exact h ▸ rfl

theorem local_readRange? : Local (readRange? flags) := by
  intro cs y h
  -- how both cases without a range end
  have alone : ∀ {o : Option CharSet} {rest : List Char},
      (o.bind fun s => some (s, rest)) = some y →
        (o.bind fun s => some (s, rest ++ [')'])) = some (closed y) := by
    intro o rest h
    obtain ⟨s, rfl, ⟨⟩⟩ := Option.bind_eq_some_iff.mp h
    rfl
  -- the first part, and something behind it, for the class is not closed yet
  obtain ⟨⟨p, cs₁⟩, hp, h⟩ := Option.bind_eq_some_iff.mp h
  refine Option.bind_eq_some_iff.mpr ⟨_, local_readPart? hp, ?_⟩
  rw [closed_mk]
  dsimp only at h ⊢
  rcases hcs₁ : skipBlank flags.spaced false cs₁ with _ | ⟨c, r⟩
  · rw [hcs₁] at h
    cases h
  rw [hcs₁] at h
  rw [skipBlank_append_of_cons hcs₁]
  -- a hyphen may make a range of the part, if another part is behind it
  by_cases hc : c = '-'
  · subst hc
    simp only at h ⊢
    rcases hr : skipBlank flags.spaced false r with _ | ⟨d, after⟩
    · rw [hr] at h
      cases h
    rw [hr] at h
    rw [skipBlank_append_of_cons hr]
    simp only at h ⊢
    split at h
    · -- the hyphen begins an operator or ends the class, so the part is alone
      next hd =>
      rw [if_pos hd]
      exact alone h
    · next hd =>
      -- a range, whose end is read like its beginning
      rw [if_neg hd]
      obtain ⟨⟨q, cs₂⟩, hq, h⟩ := Option.bind_eq_some_iff.mp h
      refine Option.bind_eq_some_iff.mpr ⟨_, local_readPart? hq, ?_⟩
      rw [closed_mk]
      revert h
      simp only
      split
      · -- both parts are characters, in their order
        intro h
        obtain ⟨a, ha, h⟩ := Option.bind_eq_some_iff.mp h
        obtain ⟨b, hb, h⟩ := Option.bind_eq_some_iff.mp h
        refine Option.bind_eq_some_iff.mpr ⟨a, ha, Option.bind_eq_some_iff.mpr ⟨b, hb, ?_⟩⟩
        split at h
        · next hab =>
          rw [if_pos hab]
          cases h
          rfl
        · cases h
      · rintro ⟨⟩
  · -- no hyphen, so the part is alone
    simp [hc] at h ⊢
    exact alone h

/-! ### Classes -/

/-- What one part of a class leads to, with a parenthesis behind the text. -/
def ClassStep.closed : ClassStep → ClassStep
  | goOn stack rest => goOn stack (rest ++ [')'])
  | done set depth rest => done set depth (rest ++ [')'])

theorem classStep?_append {stack : List Bracket} {step : ClassStep}
    (h : classStep? flags stack cs = some step) :
    classStep? flags stack (cs ++ [')']) = some step.closed := by
  rcases stack with _ | ⟨b, stack⟩
  · cases h
  -- nothing is read at the end of the text, for a bracket is still open
  rcases hcs : skipBlank flags.spaced false cs with _ | ⟨c, r⟩
  · unfold classStep? at h
    rw [hcs] at h
    cases h
  revert h
  unfold classStep?
  rw [hcs, skipBlank_append_of_cons hcs]
  dsimp only
  split
  · -- an opening bracket: a named class, or else one more bracket
    rw [readAscii?_append]
    cases hascii : readAscii? flags r with
    | some p =>
      intro h
      obtain ⟨s, hs, rfl⟩ := Option.map_eq_some_iff.mp h
      dsimp only [Option.map_some]
      rw [Pattern.closed, hs]
      rfl
    | none =>
      intro h
      obtain ⟨p, hp, rfl⟩ := Option.map_eq_some_iff.mp h
      dsimp only [Option.map_none]
      rw [local_openBracket? hp]
      rfl
  · -- a closing bracket: of one inside, or of the class
    intro h
    obtain ⟨p, hp, rfl⟩ := Option.map_eq_some_iff.mp h
    rw [hp]
    cases stack <;> rfl
  -- the three operators, which take their two characters
  · rintro ⟨⟩; rfl
  · rintro ⟨⟩; rfl
  · rintro ⟨⟩; rfl
  · next hopen hclosed hinter hdiff hsymm =>
    -- a part: the parenthesis is not the second character of an operator
    intro h
    obtain ⟨p, hp, rfl⟩ := Option.map_eq_some_iff.mp h
    have hp' := local_readRange? hp
    split
    · exact absurd rfl hopen
    · exact absurd rfl hclosed
    · next heq =>
      obtain ⟨r', rfl⟩ := eq_cons_of_append heq (by decide)
      exact absurd rfl (hinter r' rfl)
    · next heq =>
      obtain ⟨r', rfl⟩ := eq_cons_of_append heq (by decide)
      exact absurd rfl (hdiff r' rfl)
    · next heq =>
      obtain ⟨r', rfl⟩ := eq_cons_of_append heq (by decide)
      exact absurd rfl (hsymm r' rfl)
    · rw [List.cons_append] at hp'
      rw [hp']
      rfl

/-- **The parts of a class,** by induction on the fuel. There is more of it, since the text has one
more character. -/
theorem classLoop?_append {fuel fuel' : Nat} (hfuel : fuel ≤ fuel') {stack : List Bracket}
    {y : (CharSet × Nat) × List Char} (h : classLoop? flags fuel stack cs = some y) :
    classLoop? flags fuel' stack (cs ++ [')']) = some (closed y) := by
  induction fuel generalizing fuel' stack cs with
  | zero => cases h
  | succ fuel ih =>
    -- one step is the same, and the rest has fuel left
    obtain ⟨fuel', rfl⟩ := Nat.exists_eq_add_of_lt hfuel
    rw [classLoop?] at h ⊢
    cases hstep : classStep? flags stack cs with
    | none =>
      rw [hstep] at h
      cases h
    | some step =>
      rw [hstep] at h
      rw [classStep?_append hstep]
      cases step with
      | goOn stack rest => exact ih (by omega) h
      | done set depth rest =>
        cases h
        rfl

/-- **A bracketed class** is read the same. -/
theorem local_readClass? : Local (readClass? flags) := by
  intro cs y h
  obtain ⟨⟨b, rest⟩, hopen, h⟩ := Option.bind_eq_some_iff.mp h
  refine Option.bind_eq_some_iff.mpr ⟨_, local_openBracket? hopen, ?_⟩
  exact classLoop?_append (by simp) h

end InlineMarkup.Pattern
