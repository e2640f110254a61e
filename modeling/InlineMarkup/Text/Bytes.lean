/-!
# Measuring and cutting text in bytes

Positions and lengths in this library count the bytes of a text's UTF-8 form, while a text
itself is a list of characters. This module holds the functions that cross over:

* `byteLength cs` is the size of a text.
* `takeBytes n cs` and `dropBytes n cs` cut a text after `n` bytes. Both are total: a cut in the
  middle of a character moves to that character's end, so the two halves always make up the text
  (`takeBytes_append_dropBytes`).
* `isBoundary n cs` says that `n` bytes are a whole number of leading characters; there, and only
  there, a cut has exactly the requested size (`byteLength_takeBytes`). The boundaries of a text
  are the ends of its leading parts (`isBoundary_iff`).
-/

namespace InlineMarkup.Text

/-- **The size of a text** in bytes. -/
def byteLength : List Char → Nat
  | [] => 0
  | c :: cs => c.utf8Size + byteLength cs

/-- The leading characters of a text that begin within its first `n` bytes. -/
def takeBytes : Nat → List Char → List Char
  | 0, _ => []
  | _ + 1, [] => []
  | n + 1, c :: cs => c :: takeBytes (n + 1 - c.utf8Size) cs

/-- What `takeBytes n` leaves of a text. -/
def dropBytes : Nat → List Char → List Char
  | 0, cs => cs
  | _ + 1, [] => []
  | n + 1, _c :: cs => dropBytes (n + 1 - _c.utf8Size) cs

/-- **Boundaries.** The first `n` bytes of the text exist and end where a character ends. -/
def isBoundary : Nat → List Char → Bool
  | 0, _ => true
  | _ + 1, [] => false
  | n + 1, c :: cs => decide (c.utf8Size ≤ n + 1) && isBoundary (n + 1 - c.utf8Size) cs

@[simp] theorem byteLength_nil : byteLength [] = 0 := rfl

@[simp] theorem byteLength_cons (c : Char) (cs : List Char) :
    byteLength (c :: cs) = c.utf8Size + byteLength cs := rfl

@[simp] theorem byteLength_append (xs ys : List Char) :
    byteLength (xs ++ ys) = byteLength xs + byteLength ys := by
  induction xs with
  | nil => simp
  | cons c xs ih => simp [ih, Nat.add_assoc]

@[simp] theorem takeBytes_zero (cs : List Char) : takeBytes 0 cs = [] := by
  simp [takeBytes]

@[simp] theorem dropBytes_zero (cs : List Char) : dropBytes 0 cs = cs := by
  simp [dropBytes]

/-- A cut loses nothing, wherever it falls. -/
theorem takeBytes_append_dropBytes (n : Nat) (cs : List Char) :
    takeBytes n cs ++ dropBytes n cs = cs := by
  fun_induction takeBytes n cs with
  | case1 => simp
  | case2 => simp [dropBytes]
  | case3 n c cs ih => simp [dropBytes, ih]

/-- What a cut leaves is no longer than the text. -/
theorem length_dropBytes_le (n : Nat) (cs : List Char) : (dropBytes n cs).length ≤ cs.length := by
  have h := congrArg List.length (takeBytes_append_dropBytes n cs)
  rw [List.length_append] at h
  omega

/-- **Induction along a text.** What is left behind the first character, or any number of bytes
further on, may be assumed; a loop that passes over tokens comes to such places only. -/
@[elab_as_elim]
theorem induction_behind {P : List Char → Prop} (nil : P [])
    (cons : ∀ c cs, P cs → (∀ n, P (dropBytes n cs)) → P (c :: cs)) (text : List Char) :
    P text := by
  induction hlen : text.length using Nat.strongRecOn generalizing text with
  | ind len ih =>
    cases text with
    | nil => exact nil
    | cons c cs =>
      have hshorter : ∀ n, (dropBytes n cs).length < len := by
        intro n
        rw [← hlen, List.length_cons]
        exact Nat.lt_succ_of_le (length_dropBytes_le n cs)
      have hbehind : ∀ n, P (dropBytes n cs) := fun n => ih _ (hshorter n) _ rfl
      exact cons c cs (by simpa using hbehind 0) hbehind

/-- Nor does it have more bytes. -/
theorem byteLength_dropBytes_le (n : Nat) (cs : List Char) :
    byteLength (dropBytes n cs) ≤ byteLength cs := by
  have h := congrArg byteLength (takeBytes_append_dropBytes n cs)
  rw [byteLength_append] at h
  omega

/-- At a boundary the front part has exactly the requested size. -/
theorem byteLength_takeBytes {n : Nat} {cs : List Char} (h : isBoundary n cs = true) :
    byteLength (takeBytes n cs) = n := by
  fun_induction isBoundary n cs with
  | case1 => simp
  | case2 => simp at h
  | case3 n c cs ih =>
    simp only [Bool.and_eq_true, decide_eq_true_eq] at h
    simp [takeBytes, ih h.2, Nat.add_sub_cancel' h.1]

/-! ### Parts and their ends -/

/-- A string made of characters has their size. -/
theorem byteLength_ofList (cs : List Char) : (String.ofList cs).utf8ByteSize = byteLength cs := by
  induction cs with
  | nil => rfl
  | cons c cs ih =>
    rw [← List.singleton_append, String.ofList_append, String.utf8ByteSize_append, ih]
    simp

/-- The byte length of a string's characters is the size of the string. -/
@[simp] theorem byteLength_toList (s : String) : byteLength s.toList = s.utf8ByteSize := by
  rw [← byteLength_ofList, String.ofList_toList]

/-- Only the empty text has no bytes. -/
theorem byteLength_pos {cs : List Char} (h : cs ≠ []) : 0 < byteLength cs := by
  cases cs with
  | nil => exact absurd rfl h
  | cons c cs => exact Nat.add_pos_left c.utf8Size_pos _

/-- A cut in front of a character that is passed over. -/
theorem takeBytes_cons {n : Nat} (h : 0 < n) (c : Char) (cs : List Char) :
    takeBytes n (c :: cs) = c :: takeBytes (n - c.utf8Size) cs := by
  obtain ⟨m, rfl⟩ := Nat.exists_eq_add_of_lt h
  simp [takeBytes]

/-- The other half of `takeBytes_cons`. -/
theorem dropBytes_cons {n : Nat} (h : 0 < n) (c : Char) (cs : List Char) :
    dropBytes n (c :: cs) = dropBytes (n - c.utf8Size) cs := by
  obtain ⟨m, rfl⟩ := Nat.exists_eq_add_of_lt h
  simp [dropBytes]

/-- A cut where a part ends gives that part. -/
theorem takeBytes_append (xs ys : List Char) : takeBytes (byteLength xs) (xs ++ ys) = xs := by
  induction xs with
  | nil => simp
  | cons c xs ih =>
    rw [List.cons_append, takeBytes_cons (byteLength_pos (List.cons_ne_nil c xs)), byteLength_cons,
      Nat.add_sub_cancel_left, ih]

/-- A cut where a part ends leaves what follows it. -/
theorem dropBytes_append (xs ys : List Char) : dropBytes (byteLength xs) (xs ++ ys) = ys := by
  induction xs with
  | nil => simp
  | cons c xs ih =>
    rw [List.cons_append, dropBytes_cons (byteLength_pos (List.cons_ne_nil c xs)), byteLength_cons,
      Nat.add_sub_cancel_left, ih]

/-- Where the first character of a part has been passed over, a cut behind the others leaves what
follows the part. -/
theorem dropBytes_of_cut {c : Char} {cs piece rest : List Char} (h : c :: cs = piece ++ rest)
    (hne : piece ≠ []) : dropBytes (byteLength piece - c.utf8Size) cs = rest := by
  rw [← dropBytes_cons (byteLength_pos hne), h, dropBytes_append]

/-- A cut behind a string leaves what follows it. -/
theorem dropBytes_toList_append (s : String) (cs : List Char) :
    dropBytes s.utf8ByteSize (s.toList ++ cs) = cs := by
  rw [← byteLength_toList, dropBytes_append]

/-- What follows a part that is not empty is shorter than the whole. -/
theorem length_lt_of_cut {whole piece rest : List Char} (h : whole = piece ++ rest)
    (hne : piece ≠ []) : rest.length < whole.length := by
  rw [h, List.length_append]
  exact Nat.lt_add_of_pos_left (List.length_pos_iff.mpr hne)

/-- A part ends at a boundary. -/
theorem isBoundary_append (xs ys : List Char) : isBoundary (byteLength xs) (xs ++ ys) = true := by
  induction xs with
  | nil => simp [isBoundary]
  | cons c xs ih =>
    obtain ⟨m, hm⟩ := Nat.exists_eq_succ_of_ne_zero (Nat.ne_of_gt c.utf8Size_pos)
    have hn : byteLength (c :: xs) = m + byteLength xs + 1 := by
      rw [byteLength_cons, hm]; omega
    rw [List.cons_append, hn, isBoundary, hm]
    simp only [Nat.succ_eq_add_one, Bool.and_eq_true, decide_eq_true_eq]
    refine ⟨by omega, ?_⟩
    rwa [show m + byteLength xs + 1 - (m + 1) = byteLength xs by omega]

/-- **Boundaries are the ends of leading parts.** -/
theorem isBoundary_iff {n : Nat} {cs : List Char} :
    isBoundary n cs = true ↔ ∃ xs ys, cs = xs ++ ys ∧ n = byteLength xs := by
  constructor
  · intro h
    exact ⟨takeBytes n cs, dropBytes n cs, (takeBytes_append_dropBytes n cs).symm,
      (byteLength_takeBytes h).symm⟩
  · rintro ⟨xs, ys, rfl, rfl⟩
    exact isBoundary_append xs ys

/-- Leading parts of one text are told apart by their sizes. -/
theorem append_inj_of_byteLength_eq {xs ys xs' ys' : List Char} (h : xs ++ ys = xs' ++ ys')
    (hn : byteLength xs = byteLength xs') : xs = xs' ∧ ys = ys' := by
  have hx : xs = xs' := by
    rw [← takeBytes_append xs ys, ← takeBytes_append xs' ys', h, hn]
  subst hx
  exact ⟨rfl, List.append_cancel_left h⟩

end InlineMarkup.Text
