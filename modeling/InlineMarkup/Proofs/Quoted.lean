import Mathlib.Data.List.Basic
import InlineMarkup.Text.Quoted

/-!
# Reading quoted text

A quoted text says which text it is the quoted form of, and where it stands.

* `Text.Written` — the three ways in which a character is written between quotation marks.
* `Text.Written.unique` — no way of writing a character is the beginning of another one.
* `Text.quoted_inj` — texts with the same quoted form are the same.
* `Text.append_quoted_inj` — a quoted text behind a blank is found at the end of a line, whatever
  stands in front of it. In between its quotation marks there may be blanks and quotation marks, but
  a quotation mark has a backslash in front of it (`Text.exists_backslash`).
-/

namespace InlineMarkup.Text

/-- A mark that does not occur in front of it shows where a text is divided. -/
theorem append_cons_inj {mark : Char} {xs ys front back : List Char} (hxs : mark ∉ xs)
    (hys : mark ∉ ys) (h : xs ++ mark :: front = ys ++ mark :: back) : xs = ys ∧ front = back := by
  rcases List.append_eq_append_iff.mp h with ⟨as, rfl, hcut⟩ | ⟨as, rfl, hcut⟩
  · cases as with
    | nil => exact ⟨(List.append_nil xs).symm, (List.cons.inj hcut).2⟩
    | cons a as =>
      -- the mark in the one would stand within the other
      obtain rfl := (List.cons.inj hcut).1
      exact absurd (List.mem_append_right xs List.mem_cons_self) hys
  · cases as with
    | nil => exact ⟨List.append_nil ys, (List.cons.inj hcut).2.symm⟩
    | cons a as =>
      obtain rfl := (List.cons.inj hcut).1
      exact absurd (List.mem_append_right ys List.mem_cons_self) hxs

/-! ### Digits -/

theorem mem_hexDigits {n : Nat} {c : Char} (h : c ∈ hexDigits n) :
    ∃ d < 16, c = Nat.digitChar d := by
  induction n using Nat.strongRecOn with
  | ind n ih =>
  rw [hexDigits, Nat.toDigits_eq_if (by decide)] at h
  split at h
  · next hsmall => exact ⟨n, hsmall, List.mem_singleton.mp h⟩
  · -- the digits of a sixteenth, and one more
    next hlarge =>
    rcases List.mem_append.mp h with h | h
    · exact ih (n / 16) (by omega) h
    · exact ⟨n % 16, Nat.mod_lt n (by decide), List.mem_singleton.mp h⟩

theorem digitChar_inj : ∀ m < 16, ∀ n < 16, Nat.digitChar m = Nat.digitChar n → m = n := by decide

/-- **Numbers with the same digits** are the same. -/
theorem hexDigits_inj {m n : Nat} (h : hexDigits m = hexDigits n) : m = n := by
  -- a number of two digits or more is none of one digit
  have hlong : ∀ (k : Nat) (x y : Char), Nat.toDigits 16 k ++ [x] ≠ [y] := by
    intro k x y hone
    have hlength := congrArg List.length hone
    have hpos : 0 < (Nat.toDigits 16 k).length := Nat.length_toDigits_pos
    rw [List.length_append, List.length_singleton, List.length_singleton] at hlength
    omega
  -- the last digits agree, and so do the numbers that the others are the digits of
  induction m using Nat.strongRecOn generalizing n with
  | ind m ih =>
  unfold hexDigits at h ih
  rw [Nat.toDigits_eq_if (by decide), Nat.toDigits_eq_if (n := n) (by decide)] at h
  split at h <;> split at h
  · next hm hn => exact digitChar_inj m hm n hn (List.singleton_inj.mp h)
  · exact absurd h.symm (hlong _ _ _)
  · exact absurd h (hlong _ _ _)
  · obtain ⟨hfront, hlast⟩ := List.append_inj' h rfl
    have hdiv : m / 16 = n / 16 := ih (m / 16) (by omega) hfront
    have hmod : m % 16 = n % 16 := digitChar_inj _ (Nat.mod_lt m (by decide)) _
      (Nat.mod_lt n (by decide)) (List.singleton_inj.mp hlast)
    omega

/-! ### Characters -/

/-- The characters that a letter behind a backslash stands for. -/
def letters : List (Char × Char) :=
  [('"', '"'), ('\\', '\\'), ('\n', 'n'), ('\r', 'r'), ('\t', 't'), ('\x00', '0')]

/-- **How a character is written** in a quoted text. -/
inductive Written : Char → List Char → Prop where
  | letter {c l : Char} (mem : (c, l) ∈ letters) : Written c ['\\', l]
  | plain {c : Char} (quote : c ≠ '"') (backslash : c ≠ '\\') (line : c ≠ '\n') : Written c [c]
  | number (c : Char) : Written c (numbered c)

theorem written_quotedChar (c : Char) : Written c (quotedChar c) := by
  unfold quotedChar
  split
  iterate 6 exact .letter (by decide)
  next hquote hbackslash hline _ _ _ =>
    split
    · exact .plain hquote hbackslash hline
    · exact .number c

/-- Of the characters of a number none ends a line, and none is a quotation mark. -/
theorem mem_numbered {c d : Char} (h : d ∈ numbered c) : d ≠ '\n' ∧ d ≠ '"' := by
  simp only [numbered, List.cons_append, List.mem_cons, List.mem_append, List.not_mem_nil,
    or_false] at h
  rcases h with rfl | rfl | rfl | h | rfl
  iterate 3 decide
  · obtain ⟨n, hn, rfl⟩ := mem_hexDigits h
    exact (by decide : ∀ n < 16, Nat.digitChar n ≠ '\n' ∧ Nat.digitChar n ≠ '"') n hn
  · decide

namespace Written

variable {c d : Char} {xs ys front back : List Char}

theorem ne_nil (h : Written c xs) : xs ≠ [] := by
  cases h <;> simp [numbered]

/-- **Writing is a prefix code:** what a character is written as tells the character, and where the
next one begins. -/
theorem unique (h : Written c xs) (h' : Written d ys) (hsame : xs ++ front = ys ++ back) :
    c = d ∧ front = back := by
  -- a letter behind a backslash is for one character, and u is for numbers
  have hletter : ∀ p ∈ letters, ∀ q ∈ letters, p.2 = q.2 → p.1 = q.1 := by decide
  have hnumber : ∀ p ∈ letters, p.2 ≠ 'u' := by decide
  cases h with
  | letter mem =>
    cases h' with
    | letter mem' =>
      obtain ⟨hl, hrest⟩ : _ = _ ∧ front = back := by simpa using hsame
      exact ⟨hletter _ mem _ mem' hl, hrest⟩
    | plain _ backslash => exact absurd (List.cons.inj hsame).1.symm backslash
    | number => exact absurd (List.cons.inj (List.cons.inj hsame).2).1 (hnumber _ mem)
  | plain _ backslash =>
    cases h' with
    | letter => exact absurd (List.cons.inj hsame).1 backslash
    | plain => exact List.cons.inj hsame
    | number => exact absurd (List.cons.inj hsame).1 backslash
  | number =>
    cases h' with
    | letter mem => exact absurd (List.cons.inj (List.cons.inj hsame).2).1.symm (hnumber _ mem)
    | plain _ backslash => exact absurd (List.cons.inj hsame).1.symm backslash
    | number =>
      -- the digits end with the brace
      have hbrace : ∀ n, '\x7d' ∉ hexDigits n := by
        intro n hmem
        obtain ⟨k, hk, heq⟩ := mem_hexDigits hmem
        exact (by decide : ∀ k < 16, '\x7d' ≠ Nat.digitChar k) k hk heq
      have hdigits : hexDigits c.toNat ++ '\x7d' :: front =
          hexDigits d.toNat ++ '\x7d' :: back := by
        simpa [numbered] using hsame
      obtain ⟨hnumbers, hrest⟩ := append_cons_inj (hbrace _) (hbrace _) hdigits
      exact ⟨Char.toNat_inj.mp (hexDigits_inj hnumbers), hrest⟩

/-- A quotation mark is written behind a backslash. -/
theorem backslash (h : Written c xs) (hxs : xs = front ++ '"' :: back) : front = ['\\'] := by
  cases h with
  | letter =>
    cases front with
    | nil => cases hxs
    | cons a front =>
      -- only the letter can be the mark, and a backslash is in front of it
      obtain ⟨rfl, hrest⟩ := List.cons.inj hxs
      cases front with
      | nil => rfl
      | cons b front => simp at hrest
  | plain quote =>
    cases front with
    | nil => exact absurd (List.cons.inj hxs).1 quote
    | cons a front => simp at hxs
  | number =>
    have hmem : '"' ∈ numbered c := by simp [hxs]
    exact absurd rfl (mem_numbered hmem).2

/-- No line is ended. -/
theorem line (h : Written c xs) : '\n' ∉ xs := by
  cases h with
  | letter mem =>
    have hletters : ∀ p ∈ letters, '\n' ∉ ['\\', p.2] := by decide
    exact hletters _ mem
  | plain _ _ line => simpa using line.symm
  | number => exact fun hmem => (mem_numbered hmem).1 rfl

end Written

/-! ### Texts -/

variable {xs ys front back : List Char} {s t : String}

/-- What is in between quotation marks tells the characters. -/
theorem flatMap_quotedChar_inj (h : xs.flatMap quotedChar = ys.flatMap quotedChar) : xs = ys := by
  induction xs generalizing ys with
  | nil =>
    cases ys with
    | nil => rfl
    | cons y ys =>
      rw [List.flatMap_cons] at h
      exact absurd (List.append_eq_nil_iff.mp h.symm).1 (written_quotedChar y).ne_nil
  | cons x xs ih =>
    cases ys with
    | nil =>
      rw [List.flatMap_cons] at h
      exact absurd (List.append_eq_nil_iff.mp h).1 (written_quotedChar x).ne_nil
    | cons y ys =>
      rw [List.flatMap_cons, List.flatMap_cons] at h
      obtain ⟨rfl, hrest⟩ := (written_quotedChar x).unique (written_quotedChar y) h
      rw [ih hrest]

/-- **In between quotation marks** a quotation mark has a backslash in front of it. -/
theorem exists_backslash (h : xs.flatMap quotedChar = front ++ '"' :: back) :
    ∃ before, front = before ++ ['\\'] := by
  -- the characters are gone through until the one that the quotation mark belongs to
  induction xs generalizing front with
  | nil => simp at h
  | cons x xs ih =>
    rw [List.flatMap_cons] at h
    -- the quotation mark belongs to the first character or to the others
    rcases List.append_eq_append_iff.mp h with ⟨as, rfl, hothers⟩ | ⟨as, hfirst, hothers⟩
    · obtain ⟨before, rfl⟩ := ih hothers
      exact ⟨quotedChar x ++ before, (List.append_assoc _ _ _).symm⟩
    · cases as with
      | nil =>
        obtain ⟨before, hnil⟩ := ih (hothers.symm.trans (List.nil_append _).symm)
        simp at hnil
      | cons a as =>
        obtain rfl := (List.cons.inj hothers).1
        exact ⟨[], (written_quotedChar x).backslash hfirst⟩

theorem toList_quoted (s : String) :
    (quoted s).toList = '"' :: (s.toList.flatMap quotedChar ++ ['"']) := by
  rw [quoted, String.toList_ofList, List.cons_append]

/-- **A quoted text is one line.** -/
theorem line_quoted (s : String) : '\n' ∉ (quoted s).toList := by
  rw [toList_quoted]
  simp only [List.mem_cons, List.mem_append, List.mem_flatMap, List.not_mem_nil, or_false, not_or,
    not_exists, not_and]
  exact ⟨by decide, fun c _ => (written_quotedChar c).line, by decide⟩

/-- **Texts with the same quoted form** are the same. -/
theorem quoted_inj (h : quoted s = quoted t) : s = t := by
  rw [← String.toList_inj, toList_quoted, toList_quoted] at h
  exact String.toList_inj.mp (flatMap_quotedChar_inj (List.append_cancel_right (List.cons.inj h).2))

/-- Behind a blank and a quoted text there is no other way to see these. -/
theorem eq_nil_of_quoted (h : ' ' :: (quoted s).toList = front ++ ' ' :: (quoted t).toList) :
    front = [] := by
  rw [toList_quoted, toList_quoted] at h
  -- the other blank would be the quotation mark or stand behind it
  match front, h with
  | [], _ => rfl
  | [a], h =>
    -- a blank is no quotation mark
    have hmark := (List.cons.inj (List.cons.inj h).2).1
    exact absurd hmark (by decide)
  | a :: b :: front, h =>
    obtain ⟨-, hinside⟩ := List.cons.inj (List.cons.inj h).2
    have hmarks : s.toList.flatMap quotedChar ++ ['"'] =
        (front ++ [' ']) ++ '"' :: t.toList.flatMap quotedChar ++ ['"'] := by simpa using hinside
    -- the quotation mark behind the blank would be inside the other quoted text
    obtain ⟨before, hbefore⟩ := exists_backslash (List.append_cancel_right hmarks)
    exact absurd (List.append_inj' hbefore rfl).2 (by decide)

/-- **A quoted text behind a blank** is found at the end of a line, and what is in front of them. -/
theorem append_quoted_inj (h : xs ++ ' ' :: (quoted s).toList = ys ++ ' ' :: (quoted t).toList) :
    xs = ys ∧ s = t := by
  have hxs : xs = ys := by
    rcases List.append_eq_append_iff.mp h with ⟨as, rfl, hcut⟩ | ⟨as, rfl, hcut⟩
    · rw [eq_nil_of_quoted hcut, List.append_nil]
    · rw [eq_nil_of_quoted hcut, List.append_nil]
  subst hxs
  exact ⟨rfl, quoted_inj (String.toList_inj.mp (List.cons.inj (List.append_cancel_left h)).2)⟩

end InlineMarkup.Text
