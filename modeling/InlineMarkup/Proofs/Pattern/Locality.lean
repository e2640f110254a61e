import Mathlib.Data.List.TakeWhile
import InlineMarkup.Pattern.Literal

/-!
# A parenthesis behind the text

A reader of a small part of a pattern looks no further than it takes: where the text goes on behind
the part, it reads the same, and what it leaves goes on likewise. This is shown for a closing
parenthesis behind the text, which is what an enclosing group puts there. Nothing follows where a
reader fails, since an unfinished escape may take the parenthesis.

Where white space and comments stand for nothing, a reader may leave a text that ends in a comment.
The parenthesis is part of the comment then, and so is not left.

* `Local` — a reader that reads the same with a parenthesis behind the text.
* `Remains` — what is left behind blanks, which the parenthesis may be one of.
* `takeWhile_append_of_stop` — names and digits up to a mark in the text end where they ended.
* `local_readEscape?` — what follows a backslash.
-/

namespace InlineMarkup.Pattern

open Unicode (CharSet)

/-- What has been read, with a parenthesis behind the text that is left. -/
def closed {α : Type} (p : α × List Char) : α × List Char := (p.1, p.2 ++ [')'])

theorem closed_mk {α : Type} (x : α) (cs : List Char) : closed (x, cs) = (x, cs ++ [')']) := rfl

variable {α β : Type} {flags : Flags} {spaced comment : Bool} {c : Char} {cs cs' rest : List Char}

/-! ### Local readers -/

/-- **A local reader** reads the same if a parenthesis follows the text. -/
def Local (read : List Char → Option (α × List Char)) : Prop :=
  ∀ {cs y}, read cs = some y → read (cs ++ [')']) = some (closed y)

theorem Local.map {read : List Char → Option (β × List Char)} (h : Local read) (f : β → α) :
    Local fun cs => (read cs).map fun p => (f p.1, p.2) := by
  intro cs y hy
  obtain ⟨p, hp, rfl⟩ := Option.map_eq_some_iff.mp hy
  dsimp only
  rw [h hp]
  rfl

/-- A reader that leaves the whole text is local, whatever it reads. -/
theorem local_const (o : Option β) (f : β → α) : Local fun cs => o.map fun x => (f x, cs) := by
  intro cs y h
  obtain ⟨x, rfl, rfl⟩ := Option.map_eq_some_iff.mp h
  rfl

/-- What begins a text with a parenthesis behind it begins the text, unless it is the
parenthesis. -/
theorem eq_cons_of_append (h : cs ++ [')'] = c :: rest) (hc : c ≠ ')') :
    ∃ rest', cs = c :: rest' := by
  cases cs with
  | nil =>
    cases h
    exact absurd rfl hc
  | cons d cs =>
    cases h
    exact ⟨cs, rfl⟩

/-! ### Blanks -/

/-- **What counts** in a text counts with a parenthesis behind it. The parenthesis counts too,
unless a comment goes on to the end. -/
theorem significant_append (spaced comment : Bool) (cs : List Char) :
    ∃ tail, (tail = [] ∨ tail = [(')', [])]) ∧
      significant spaced comment (cs ++ [')']) =
        (significant spaced comment cs).map closed ++ tail := by
  induction cs generalizing comment with
  | nil =>
    cases comment with
    | true =>
      -- a comment that is open takes the parenthesis in
      exact ⟨[], .inl rfl, rfl⟩
    | false =>
      have hspace : Unicode.isSpace ')' = false := by decide
      exact ⟨[(')', [])], .inr rfl, by simp [significant, hspace]⟩
  | cons c cs ih =>
    cases comment with
    | true => exact ih _
    | false =>
      simp only [List.cons_append, significant]
      -- a blank and the mark of a comment are passed over, another character counts
      split
      · exact ih _
      · split
        · exact ih _
        · obtain ⟨tail, htail, h⟩ := ih false
          exact ⟨tail, htail, by rw [h]; rfl⟩

/-- The text behind blanks begins with the first character that counts. -/
theorem skipBlank_eq (spaced comment : Bool) (cs : List Char) :
    skipBlank spaced comment cs = match significant spaced comment cs with
      | [] => []
      | (c, rest) :: _ => c :: rest := by
  induction cs generalizing comment with
  | nil => cases comment <;> rfl
  | cons c cs ih =>
    cases comment with
    | true => exact ih _
    | false =>
      simp only [skipBlank, significant]
      split
      · exact ih _
      · split
        · exact ih _
        · rfl

/-- **What is left** of a text that has a parenthesis behind it, against what is left without: the
parenthesis stands behind it, or nothing is left of either. -/
def Remains (rest rest' : List Char) : Prop := rest' = rest ++ [')'] ∨ rest = [] ∧ rest' = []

theorem Remains.of_cons (h : Remains (c :: rest) cs') : cs' = c :: (rest ++ [')']) := by
  obtain h | ⟨⟨⟩, -⟩ := h
  exact h

theorem remains_skipBlank (spaced comment : Bool) (cs : List Char) :
    Remains (skipBlank spaced comment cs) (skipBlank spaced comment (cs ++ [')'])) := by
  obtain ⟨tail, htail, h⟩ := significant_append spaced comment cs
  rw [skipBlank_eq, skipBlank_eq, h]
  cases significant spaced comment cs with
  | nil =>
    obtain rfl | rfl := htail
    · -- nothing counts: the parenthesis is left if it counts itself
      exact .inr ⟨rfl, rfl⟩
    · exact .inl rfl
  | cons p ps => exact .inl rfl

theorem Remains.skipBlank (h : Remains cs cs') (spaced : Bool) :
    Remains (skipBlank spaced false cs) (skipBlank spaced false cs') := by
  obtain rfl | ⟨rfl, rfl⟩ := h
  · exact remains_skipBlank spaced false cs
  · exact .inr ⟨rfl, rfl⟩

theorem skipBlank_append_of_cons (h : skipBlank spaced comment cs = c :: rest) :
    skipBlank spaced comment (cs ++ [')']) = c :: (rest ++ [')']) := by
  have hremains := remains_skipBlank spaced comment cs
  rw [h] at hremains
  exact hremains.of_cons

/-! ### Up to a mark -/

/-- **Elements up to one that stands in the list** are the same with more behind the list. -/
theorem takeWhile_append_of_stop (q : β → Bool) (tail : List β) {xs more : List β} {x : β}
    (h : xs.drop (xs.takeWhile q).length = x :: more) :
    (xs ++ tail).takeWhile q = xs.takeWhile q ∧
      (xs ++ tail).drop (xs.takeWhile q).length = x :: (more ++ tail) := by
  -- the elements do not fill the list, so what is behind it is not looked at
  have hlt : (xs.takeWhile q).length < xs.length := by
    refine Nat.lt_of_not_le fun hle => ?_
    rw [List.drop_eq_nil_of_le hle] at h
    cases h
  constructor
  · rw [List.takeWhile_append, if_neg (Nat.ne_of_lt hlt)]
  · rw [List.drop_append_of_le_length (Nat.le_of_lt hlt), h, List.cons_append]

/-- Elements up to the end of the list go on behind it. -/
theorem drop_takeWhile_append (q : β → Bool) {tail xs : List β}
    (h : xs.drop (xs.takeWhile q).length = []) (htail : ∀ x ∈ tail, q x = true) :
    (xs ++ tail).drop ((xs ++ tail).takeWhile q).length = [] := by
  have hxs : xs.takeWhile q = xs :=
    (List.takeWhile_prefix q).eq_of_length_le (List.drop_eq_nil_iff.mp h)
  -- all of the list is taken, and all that is behind
  have hall : (xs ++ tail).takeWhile q = xs ++ tail := by
    rw [List.takeWhile_append, hxs, if_pos rfl, List.takeWhile_eq_self_iff.mpr htail]
  rw [hall, List.drop_length]

variable {ps more tail : List (Char × List Char)} {p : Char × List Char}

theorem takeWhile_map_closed (q : Char → Bool) :
    ((ps.map closed).takeWhile fun p => q p.1) = (ps.takeWhile fun p => q p.1).map closed :=
  List.takeWhile_map ..

/-- Characters up to one that stands in the text. -/
theorem takeWhile_closed_of_stop (q : Char → Bool) (tail : List (Char × List Char))
    (h : ps.drop (ps.takeWhile fun p => q p.1).length = p :: more) :
    ((ps.map closed ++ tail).takeWhile fun p => q p.1) =
        (ps.takeWhile fun p => q p.1).map closed ∧
      (ps.map closed ++ tail).drop (ps.takeWhile fun p => q p.1).length =
        closed p :: (more.map closed ++ tail) := by
  -- as many characters are taken from the one as from the other
  have hlength : (ps.takeWhile fun p => q p.1).length =
      ((ps.map closed).takeWhile fun p => q p.1).length := by
    rw [takeWhile_map_closed, List.length_map]
  have hstop : (ps.map closed).drop ((ps.map closed).takeWhile fun p => q p.1).length =
      closed p :: more.map closed := by
    rw [← hlength, ← List.map_drop, h, List.map_cons]
  rw [hlength, ← takeWhile_map_closed]
  exact takeWhile_append_of_stop _ tail hstop

/-- Characters up to one that the parenthesis is like. -/
theorem takeWhile_closed (q : Char → Bool) (hq : q ')' = false)
    (htail : tail = [] ∨ tail = [(')', [])]) :
    ((ps.map closed ++ tail).takeWhile fun p => q p.1) =
      (ps.takeWhile fun p => q p.1).map closed := by
  have hnone : (tail.takeWhile fun p => q p.1) = [] := by
    obtain rfl | rfl := htail
    · rfl
    · exact List.takeWhile_cons_of_neg (by simp [hq])
  rw [List.takeWhile_append, takeWhile_map_closed, hnone, List.append_nil, List.length_map,
    List.length_map]
  split
  · next hlength => rw [(List.takeWhile_prefix _).eq_of_length hlength]
  · rfl

/-! ### Numbers and names -/

/-- What stands first in a text that has a character is the same with a parenthesis behind it. -/
theorem eq_cons_of_map_closed (h : ps.map closed ++ tail = (c, rest) :: more) (hne : ps ≠ []) :
    ∃ rest' more', ps = (c, rest') :: more' := by
  cases ps with
  | nil => exact absurd rfl hne
  | cons p ps =>
    obtain ⟨d, r⟩ := p
    rw [List.map_cons, List.cons_append, closed_mk] at h
    cases h
    exact ⟨r, ps, rfl⟩

theorem local_readHex? {count : Nat} {isByte : Bool} : Local (readHex? spaced count isByte) := by
  intro cs y h
  obtain ⟨tail, -, hsig⟩ := significant_append spaced false cs
  unfold readHex? at h ⊢
  rw [hsig]
  split at h
  · -- in braces, which are closed within the text
    next r ps heq =>
    rw [heq, List.map_cons, List.cons_append, closed_mk]
    split
    · next heq' =>
      cases heq'
      dsimp only at h ⊢
      split at h
      · cases h
      · next c after more hdrop =>
        obtain ⟨htake, hdrop'⟩ := takeWhile_closed_of_stop (· ≠ '\x7d') tail hdrop
        rw [htake, List.length_map, hdrop', closed_mk]
        dsimp only
        -- at least one digit stands between the braces
        split at h
        · cases h
        · next hne =>
          rw [List.isEmpty_map, if_neg hne, List.map_map]
          exact local_const _ _ h
    · next hbrace => exact absurd rfl (hbrace _ _)
  · -- as many as are asked for, which the text has
    next hbrace =>
    dsimp only at h
    split at h
    · cases h
    · next c after hlast =>
      split at h
      · cases h
      · next hle =>
        split
        · next hbrace' =>
          obtain ⟨r, more, heq⟩ := eq_cons_of_map_closed hbrace'
            (by rintro hnil; simp [hnil] at hlast)
          exact absurd heq (hbrace r more)
        · have htake : ((significant spaced false cs).map closed ++ tail).take count =
              ((significant spaced false cs).take count).map closed := by
            rw [List.take_append_of_le_length, List.map_take]
            rw [List.length_take] at hle
            rw [List.length_map]
            omega
          dsimp only
          rw [htake, List.getLast?_map, hlast, List.map_map, List.length_map]
          dsimp only [Option.map, closed_mk]
          rw [if_neg hle]
          exact local_const _ _ h

theorem local_readProperty? {negated : Bool} : Local (readProperty? flags negated) := by
  intro cs y h
  obtain ⟨tail, -, hsig⟩ := significant_append flags.spaced false cs
  unfold readProperty? at h ⊢
  rw [hsig]
  -- what is done with the name leaves the text behind it alone
  generalize hnamed : (fun __x : List Char × List Char => _ :
    List Char × List Char → Option (CharSet × List Char)) = named at h ⊢
  have behind : ∀ {name after}, named (name, after) = some y →
      named (name, after ++ [')']) = some (closed y) := by
    have onward : ∀ {o : Option (CharSet × Bool)} {f : CharSet × Bool → CharSet}
        {after : List Char}, (o.bind fun x => some (f x, after)) = some y →
          (o.bind fun x => some (f x, after ++ [')'])) = some (closed y) := by
      intro o f after h
      obtain ⟨x, rfl, ⟨⟩⟩ := Option.bind_eq_some_iff.mp h
      rfl
    rintro name after
    subst hnamed
    dsimp only
    split
    · rintro ⟨⟩
    · split
      · exact onward
      · split
        · exact onward
        · rintro ⟨⟩
      · exact onward
  clear hnamed
  dsimp only at h ⊢
  -- something has to follow, in the text
  split at h
  · cases h
  · -- a name in braces
    next r ps heq =>
    rw [heq, List.map_cons, List.cons_append, closed_mk]
    split
    · next heq' => cases heq'
    · next heq' =>
      cases heq'
      split at h
      · cases h
      · next c after more hdrop =>
        obtain ⟨htake, hdrop'⟩ := takeWhile_closed_of_stop (· ≠ '\x7d') tail hdrop
        rw [htake, List.length_map, hdrop', closed_mk, List.map_map]
        exact behind h
    · next hbrace heq' =>
      cases heq'
      exact absurd rfl hbrace
  · -- one letter
    next c after more hbrace heq =>
    rw [heq, List.map_cons, List.cons_append, closed_mk]
    split
    · next heq' => cases heq'
    · next heq' =>
      cases heq'
      exact absurd rfl hbrace
    · next heq' =>
      cases heq'
      split at h
      · cases h
      · next hback =>
        rw [if_neg hback]
        exact behind h

/-! ### Escapes -/

theorem local_readWordEdge? : Local (readWordEdge? flags) := by
  intro cs y h
  unfold readWordEdge? at h ⊢
  split at h
  · -- a brace follows
    next inside =>
    obtain ⟨tail, -, hsig⟩ := significant_append flags.spaced false inside
    rw [List.cons_append]
    split
    · next heq =>
      cases heq
      dsimp only at h ⊢
      -- a name that ends within the text ends at the same place
      have hstop := fun p more h => takeWhile_closed_of_stop (fun c => c.isAlpha || c == '-') tail
        (h : (significant flags.spaced false inside).drop _ = p :: more)
      rw [hsig]
      generalize (significant flags.spaced false inside).takeWhile _ = name at h hstop
      rcases hdrop : (significant flags.spaced false inside).drop name.length with
        _ | ⟨⟨d, after⟩, more⟩
      · -- it goes on to the end, where nothing is read
        rw [hdrop] at h
        cases name <;> cases h
      · obtain ⟨htake, hdrop'⟩ := hstop _ _ hdrop
        rw [htake, List.length_map, hdrop', closed_mk, List.map_map]
        rw [hdrop] at h
        cases name with
        | nil =>
          -- the braces are left to a repetition
          cases h
          rfl
        | cons n ns =>
          -- a name has to end at a closing brace
          by_cases hend : d = '\x7d'
          · subst hend
            have hnames : (n :: ns).map ((fun p => p.1) ∘ closed) =
                (n :: ns).map fun p => p.1 := rfl
            rw [hnames]
            simp only [List.map_cons] at h ⊢
            revert h
            split <;> rintro ⟨⟩ <;> rfl
          · split at h
            · cases h
            · next heq _ => cases heq
            · next heq _ =>
              cases heq
              exact absurd rfl hend
            · cases h
    · next hbrace => exact absurd rfl (hbrace (inside ++ [')']))
  · next hbrace =>
    -- no brace follows, nor is the parenthesis one
    cases h
    split
    · next inside heq =>
      obtain ⟨rest, rfl⟩ := eq_cons_of_append heq (by decide)
      exact absurd rfl (hbrace rest)
    · rfl

/-- **What follows a backslash** is read the same. -/
theorem local_readEscape? : Local (readEscape? flags) := by
  intro cs y
  rcases cs with _ | ⟨c, cs⟩
  · rintro ⟨⟩
  rw [List.cons_append]
  unfold readEscape?
  dsimp only
  split
  · -- by the number of a character
    exact fun h => local_readHex?.map _ h
  · exact fun h => local_readHex?.map _ h
  · exact fun h => local_readHex?.map _ h
  · -- by a property
    exact fun h => local_readProperty?.map _ h
  · exact fun h => local_readProperty?.map _ h
  · exact fun h => local_const (some _) id h
  · exact fun h => local_const (some _) id h
  · -- the edge of a word
    exact fun h => local_readWordEdge?.map _ h
  · exact fun h => local_const (some _) id h
  · exact fun h => local_const (some _) id h
  · exact fun h => local_const (some _) id h
  · -- a class of one letter, a character that stands for itself, or a control character
    split
    · exact fun h => local_const _ _ h
    · split
      · exact fun h => local_const (some _) id h
      · exact fun h => local_const _ _ h

end InlineMarkup.Pattern
