import Mathlib.Data.List.TakeWhile
import InlineMarkup.Constraint

/-!
# The length of a web address

The constraint for web addresses takes each part of an address as far as it goes before it looks at
the next one, and does not come back. That it measures the longest address is not plain from there:
a shorter host might leave room for a port or a path. It does not, because of what the parts begin
with. A part that ends too early ends in front of a character that it could have taken, and no such
character begins one of the later parts.

* `Constraint.Address` — addresses, by their parts.
* `Constraint.run_cut`, `Constraint.Port.cut`, `Constraint.Path.le` — a part of an address, against
  the length that is measured for it: it has this length, or it is shorter and what follows it
  begins no later part.
* `Constraint.url_measures_longest` — the conclusion.

A search for the pattern of web addresses finds the same length (`Constraint.search_urlPattern`).
-/

namespace InlineMarkup
namespace Constraint

/-! ### Addresses -/

/-- A port with its colon, or nothing. -/
def Port (cs : List Char) : Prop :=
  cs = [] ∨ ∃ digits, cs = ':' :: digits ∧ digits ≠ [] ∧ ∀ c ∈ digits, c.isDigit = true

/-- A path with the slash that it begins with, or nothing. -/
def Path (cs : List Char) : Prop :=
  cs = [] ∨ ∃ more, cs = '/' :: more ∧ ∀ c ∈ more, isPathChar c = true

/-- **An address:** `http` or `https`, `://`, a host, perhaps a port, and perhaps a path. -/
inductive Address : List Char → Prop where
  | intro {scheme : String} {host port path : List Char}
      (known : scheme = "http" ∨ scheme = "https")
      (host_ne : host ≠ []) (host_chars : ∀ c ∈ host, isHostChar c = true)
      (port_shape : Port port) (path_shape : Path path) :
      Address (scheme.toList ++ "://".toList ++ host ++ port ++ path)

/-- **The longest address** that a text begins with has `n` bytes. -/
structure LongestAddress (text : List Char) (n : Nat) : Prop where
  exists_address : ∃ piece, piece <+: text ∧ Address piece ∧ Text.byteLength piece = n
  le : ∀ piece, piece <+: text → Address piece → Text.byteLength piece ≤ n

theorem LongestAddress.unique {text : List Char} {m n : Nat} (hm : LongestAddress text m)
    (hn : LongestAddress text n) : m = n := by
  obtain ⟨piece, hpiece, haddress, rfl⟩ := hm.exists_address
  obtain ⟨piece', hpiece', haddress', rfl⟩ := hn.exists_address
  exact Nat.le_antisymm (hn.le piece hpiece haddress) (hm.le piece' hpiece' haddress')

/-! ### Runs -/

variable {p : Char → Bool} {cs xs ys : List Char}

theorem dropBytes_runLength (p : Char → Bool) (cs : List Char) :
    Text.dropBytes (runLength p cs) cs = cs.dropWhile p := by
  have h := Text.dropBytes_append (cs.takeWhile p) (cs.dropWhile p)
  rwa [List.takeWhile_append_dropWhile] at h

/-- **A run is as long as measured,** or it is shorter and stops in front of a character that it
could have taken. -/
theorem run_cut (h : ∀ c ∈ xs, p c = true) (ys : List Char) :
    Text.byteLength xs = runLength p (xs ++ ys) ∨
      Text.byteLength xs < runLength p (xs ++ ys) ∧ ∃ c ys', ys = c :: ys' ∧ p c = true := by
  rw [runLength, List.takeWhile_append_of_pos h, Text.byteLength_append]
  cases ys with
  | nil => exact .inl rfl
  | cons c ys =>
    by_cases hc : p c = true
    · rw [List.takeWhile_cons_of_pos hc]
      refine .inr ⟨?_, c, ys, rfl, hc⟩
      exact Nat.lt_add_of_pos_right (Text.byteLength_pos (List.cons_ne_nil _ _))
    · rw [List.takeWhile_cons_of_neg hc]
      exact .inl rfl

/-- What is measured of a run is the length of a run. -/
theorem exists_run (p : Char → Bool) (cs : List Char) :
    ∃ xs ys, cs = xs ++ ys ∧ (∀ c ∈ xs, p c = true) ∧ Text.byteLength xs = runLength p cs ∧
      ys = cs.dropWhile p :=
  ⟨cs.takeWhile p, cs.dropWhile p, (List.takeWhile_append_dropWhile).symm,
    fun _ hc => List.mem_takeWhile_imp hc, rfl, rfl⟩

/-! ### Ports and paths -/

theorem portLength_colon (cs : List Char) :
    portLength (':' :: cs) =
      if runLength Char.isDigit cs = 0 then 0 else 1 + runLength Char.isDigit cs := by
  rw [portLength]
  cases runLength Char.isDigit cs <;> rfl

/-- **A port has the measured length,** or it is shorter and no slash follows. -/
theorem Port.cut (h : Port xs) (ys : List Char) :
    Text.byteLength xs = portLength (xs ++ ys) ∨
      Text.byteLength xs < portLength (xs ++ ys) ∧ ys.head? ≠ some '/' := by
  rcases h with rfl | ⟨digits, rfl, hne, hdigits⟩
  · -- no port was taken: if there is one, its colon follows
    rw [List.nil_append, Text.byteLength_nil]
    by_cases hcolon : ys.head? = some ':'
    · obtain ⟨c, ys, rfl⟩ : ∃ c ys', ys = c :: ys' := by
        cases ys with
        | nil => cases hcolon
        | cons c ys => exact ⟨c, ys, rfl⟩
      cases hcolon
      -- a colon alone is no port, and is not measured
      rcases Nat.eq_zero_or_pos (portLength (':' :: ys)) with hzero | hpos
      · exact .inl hzero.symm
      · exact .inr ⟨hpos, by simp⟩
    · refine .inl ?_
      cases ys with
      | nil => rfl
      | cons c ys =>
        rw [List.head?_cons, Option.some.injEq] at hcolon
        rw [portLength]
        rintro cs ⟨⟩
        exact hcolon rfl
  · -- a colon and digits: these are the measured run or the beginning of it
    rw [List.cons_append, portLength_colon, Text.byteLength_cons]
    have hpos : 0 < Text.byteLength digits := Text.byteLength_pos hne
    have hcolon : Char.utf8Size ':' = 1 := rfl
    rcases run_cut hdigits ys with heq | ⟨hlt, c, ys', rfl, hc⟩
    · rw [← heq, if_neg (Nat.ne_of_gt hpos), hcolon]
      exact .inl rfl
    · -- the digits go on
      rw [if_neg (by omega), hcolon]
      refine .inr ⟨by omega, ?_⟩
      rintro ⟨⟩
      exact absurd hc (by decide)

/-- What is measured of a port is the length of a port. -/
theorem exists_port (cs : List Char) :
    ∃ xs ys, cs = xs ++ ys ∧ Port xs ∧ Text.byteLength xs = portLength cs := by
  by_cases hpos : portLength cs = 0
  · exact ⟨[], cs, rfl, .inl rfl, hpos.symm⟩
  · -- a colon and digits behind it
    obtain ⟨ds, rfl⟩ : ∃ ds, cs = ':' :: ds := by
      unfold portLength at hpos
      split at hpos
      · exact ⟨_, rfl⟩
      · exact absurd rfl hpos
    rw [portLength_colon] at hpos ⊢
    have hdigits : runLength Char.isDigit ds ≠ 0 := fun hzero => hpos (if_pos hzero)
    obtain ⟨xs, ys, hcut, hall, hlength, -⟩ := exists_run Char.isDigit ds
    rw [if_neg hdigits, ← hlength]
    refine ⟨':' :: xs, ys, by rw [hcut, List.cons_append], .inr ⟨xs, rfl, ?_, hall⟩, rfl⟩
    rintro rfl
    exact hdigits hlength.symm

/-- **A path is no longer than measured.** -/
theorem Path.le (h : Path xs) : Text.byteLength xs ≤ pathLength (xs ++ ys) := by
  rcases h with rfl | ⟨more, rfl, hmore⟩
  · exact Nat.zero_le _
  · rw [List.cons_append, pathLength, Text.byteLength_cons]
    have hslash : Char.utf8Size '/' = 1 := rfl
    rw [hslash]
    rcases run_cut hmore ys with heq | ⟨hlt, -⟩
    · exact Nat.le_of_eq (congrArg (1 + ·) heq)
    · exact Nat.add_le_add_left (Nat.le_of_lt hlt) 1

/-- What is measured of a path is the length of a path. -/
theorem exists_path (cs : List Char) :
    ∃ xs ys, cs = xs ++ ys ∧ Path xs ∧ Text.byteLength xs = pathLength cs := by
  unfold pathLength
  split
  · next ds =>
    obtain ⟨xs, ys, hcut, hmore, hlength, -⟩ := exists_run isPathChar ds
    exact ⟨'/' :: xs, ys, by rw [hcut, List.cons_append], .inr ⟨xs, rfl, hmore⟩,
      congrArg (1 + ·) hlength⟩
  · exact ⟨[], _, rfl, .inl rfl, rfl⟩

/-! ### Measuring -/

theorem after?_append (w : String) (cs : List Char) : after? w (w.toList ++ cs) = some cs := by
  rw [after?, if_pos (List.isPrefixOf_iff_prefix.mpr (List.prefix_append _ _)),
    ← String.length_toList, List.drop_left]

/-- **What is measured behind a scheme:** each part as far as it goes. -/
theorem url_measure_eq {scheme : String} (known : scheme = "http" ∨ scheme = "https")
    (cs : List Char) :
    url.measure (scheme.toList ++ "://".toList ++ cs) =
      if runLength isHostChar cs = 0 then none
      else some (scheme.utf8ByteSize + 3 + runLength isHostChar cs +
        portLength (cs.dropWhile isHostChar) +
        pathLength (Text.dropBytes (portLength (cs.dropWhile isHostChar))
          (cs.dropWhile isHostChar))) := by
  -- a text that begins with the one scheme does not begin with the other
  have hpicked : (if "https://".toList.isPrefixOf ((scheme ++ "://").toList ++ cs) then "https://"
      else "http://") = scheme ++ "://" := by
    rcases known with rfl | rfl <;> simp [List.isPrefixOf]
  have hsize : (scheme ++ "://").utf8ByteSize = scheme.utf8ByteSize + 3 :=
    String.utf8ByteSize_append
  rw [← String.toList_append]
  simp only [url, hpicked, after?_append, hsize, ← dropBytes_runLength]
  cases runLength isHostChar cs <;> rfl

/-- Without a scheme nothing is measured. -/
theorem url_measure_eq_none {text : List Char}
    (h : ∀ scheme : String, scheme = "http" ∨ scheme = "https" →
      ¬ scheme.toList ++ "://".toList <+: text) : url.measure text = none := by
  have hhttp : "http://".toList.isPrefixOf text = false :=
    Bool.eq_false_iff.mpr fun hp => h "http" (.inl rfl) (List.isPrefixOf_iff_prefix.mp hp)
  have hhttps : "https://".toList.isPrefixOf text = false :=
    Bool.eq_false_iff.mpr fun hp => h "https" (.inr rfl) (List.isPrefixOf_iff_prefix.mp hp)
  simp only [url, after?, hhttp, hhttps, Bool.false_eq_true, if_false]

/-- The scheme of a text is known from its beginning. -/
theorem scheme_unique {scheme scheme' : String} (known : scheme = "http" ∨ scheme = "https")
    (known' : scheme' = "http" ∨ scheme' = "https")
    (h : scheme.toList ++ "://".toList ++ xs = scheme'.toList ++ "://".toList ++ ys) :
    scheme = scheme' ∧ xs = ys := by
  rcases known with rfl | rfl <;> rcases known' with rfl | rfl <;> simp at h ⊢
  · exact h
  · exact h

/-- **An address is no longer than what is measured** behind its scheme. -/
theorem Address.le {scheme : String} (known : scheme = "http" ∨ scheme = "https")
    {piece : List Char} (h : Address piece)
    (hpiece : piece <+: scheme.toList ++ "://".toList ++ cs) :
    0 < runLength isHostChar cs ∧ Text.byteLength piece ≤
      scheme.utf8ByteSize + 3 + runLength isHostChar cs + portLength (cs.dropWhile isHostChar) +
        pathLength (Text.dropBytes (portLength (cs.dropWhile isHostChar))
          (cs.dropWhile isHostChar)) := by
  obtain ⟨rest, hrest⟩ := hpiece
  obtain @⟨scheme', host, port, path, known', host_ne, host_chars, hport, hpath⟩ := h
  simp only [List.append_assoc] at hrest
  -- the address begins with the scheme that the text begins with
  obtain ⟨rfl, rfl⟩ := scheme_unique known' known (by simpa only [List.append_assoc] using hrest)
  have hsize : Text.byteLength (scheme'.toList ++ "://".toList ++ host ++ port ++ path) =
      scheme'.utf8ByteSize + 3 + Text.byteLength host + Text.byteLength port +
        Text.byteLength path := by
    simp only [Text.byteLength_append, Text.byteLength_toList]
    rfl
  have hpos : 0 < Text.byteLength host := Text.byteLength_pos host_ne
  rw [hsize]
  rcases run_cut host_chars (port ++ (path ++ rest)) with hhost | ⟨hhost, c, ys, hys, hc⟩
  · -- the host is the whole run, so port and path begin where they are measured
    refine ⟨hhost ▸ hpos, ?_⟩
    have hdrop : (host ++ (port ++ (path ++ rest))).dropWhile isHostChar =
        port ++ (path ++ rest) := by
      rw [← dropBytes_runLength, ← hhost, Text.dropBytes_append]
    rw [hdrop, hhost]
    rcases hport.cut (path ++ rest) with hport | ⟨hport, hslash⟩
    · rw [← hport, Text.dropBytes_append]
      exact Nat.add_le_add_left hpath.le _
    · -- the port goes on, and no path follows
      rcases hpath with rfl | ⟨more, rfl, -⟩
      · rw [Text.byteLength_nil]
        omega
      · exact absurd rfl hslash
  · -- the host goes on, so neither a port nor a path follows
    refine ⟨by omega, ?_⟩
    rcases hport with rfl | ⟨digits, rfl, -⟩
    · rcases hpath with rfl | ⟨more, rfl, -⟩
      · rw [Text.byteLength_nil]
        omega
      · cases hys
        exact absurd hc (by decide)
    · cases hys
      exact absurd hc (by decide)

/-- **What is measured is an address.** -/
theorem exists_address {scheme : String} (known : scheme = "http" ∨ scheme = "https")
    (hhost : runLength isHostChar cs ≠ 0) :
    ∃ piece, piece <+: scheme.toList ++ "://".toList ++ cs ∧ Address piece ∧
      Text.byteLength piece =
        scheme.utf8ByteSize + 3 + runLength isHostChar cs + portLength (cs.dropWhile isHostChar) +
          pathLength (Text.dropBytes (portLength (cs.dropWhile isHostChar))
            (cs.dropWhile isHostChar)) := by
  -- part by part, each as long as measured and in front of the next one
  obtain ⟨host, behind, hcs, hchars, hlength, hbehind⟩ := exists_run isHostChar cs
  rw [← hbehind]
  obtain ⟨port, behind', hcut, hport, hportlen⟩ := exists_port behind
  have hdrop : Text.dropBytes (portLength behind) behind = behind' := by
    rw [← hportlen, hcut, Text.dropBytes_append]
  obtain ⟨path, rest, hcut', hpath, hpathlen⟩ := exists_path behind'
  have hne : host ≠ [] := by
    rintro rfl
    exact hhost hlength.symm
  refine ⟨_, ?_, .intro known hne hchars hport hpath, ?_⟩
  · rw [hcs, hcut, hcut']
    exact ⟨rest, by simp only [List.append_assoc]⟩
  · rw [hdrop, ← hlength, ← hportlen, ← hpathlen]
    simp only [Text.byteLength_append, Text.byteLength_toList]
    rfl

/-- **The constraint for web addresses measures the longest one** that a text begins with, and
nothing if the text begins with none. -/
theorem url_measures_longest (text : List Char) :
    (∀ n, url.measure text = some n ↔ LongestAddress text n) ∧
      (url.measure text = none ↔ ∀ piece, piece <+: text → ¬ Address piece) := by
  -- either the longest address is measured, or there is none and nothing is measured
  have hcases : (∃ n, url.measure text = some n ∧ LongestAddress text n) ∨
      url.measure text = none ∧ ∀ piece, piece <+: text → ¬ Address piece := by
    by_cases hscheme : ∃ scheme : String, (scheme = "http" ∨ scheme = "https") ∧
        scheme.toList ++ "://".toList <+: text
    · obtain ⟨scheme, known, cs, rfl⟩ := hscheme
      rw [url_measure_eq known]
      -- behind a scheme an address needs a host
      by_cases hhost : runLength isHostChar cs = 0
      · rw [if_pos hhost]
        refine .inr ⟨rfl, fun piece hpiece haddress => ?_⟩
        exact absurd hhost (Nat.ne_of_gt (haddress.le known hpiece).1)
      · rw [if_neg hhost]
        exact .inl ⟨_, rfl, exists_address known hhost,
          fun piece hpiece haddress => (haddress.le known hpiece).2⟩
    · refine .inr ⟨url_measure_eq_none fun scheme known h => hscheme ⟨scheme, known, h⟩, ?_⟩
      -- an address has a scheme in front
      rintro piece ⟨rest, rfl⟩ haddress
      obtain @⟨scheme, host, port, path, known, -, -, -, -⟩ := haddress
      refine hscheme ⟨scheme, known, host ++ port ++ path ++ rest, ?_⟩
      simp only [List.append_assoc]
  rcases hcases with ⟨n, hmeasure, hlongest⟩ | ⟨hmeasure, hnone⟩
  · rw [hmeasure]
    refine ⟨fun m => ?_, ?_⟩
    · rw [Option.some.injEq]
      exact ⟨fun h => h ▸ hlongest, fun h => hlongest.unique h⟩
    · -- the longest address is one
      obtain ⟨piece, hpiece, haddress, -⟩ := hlongest.exists_address
      exact iff_of_false (Option.some_ne_none n) fun h => h piece hpiece haddress
  · rw [hmeasure]
    refine ⟨fun m => ?_, iff_of_true rfl hnone⟩
    refine iff_of_false (fun h => by cases h) fun hlongest => ?_
    obtain ⟨piece, hpiece, haddress, -⟩ := hlongest.exists_address
    exact hnone piece hpiece haddress

/-- A port needs digits: the address ends in front of the second colon. -/
example : url.measure "https://a.b:80:/c".toList = some 14 := by decide +kernel

end Constraint
end InlineMarkup
