import Mathlib
import InlineMarkup.Pattern
import InlineMarkup.Proofs.Pattern.Search
import InlineMarkup.Proofs.WebAddress

/-!
# The pattern of web addresses

Web addresses are what a pattern describes, and `Constraint.url` measures them without a search.
This module shows that a search for the pattern finds the same in every text: it takes each part of
an address as far as it goes, and does not come back.

A search follows several ways at once. Inside of a host it may go on with the host, begin a port or
a path, or be at the end, in this order of preference. No character leads on along two of these
ways, so at any time the run stands at one place of the pattern. What it finds from there is known
for each place, from the last one to the first.

* `Program.Stands` — where a run stands: the ways that it follows.
* `Constraint.run_loop`, `Constraint.run_once` — runs through a class that is repeated.
* `Constraint.run_path`, `Constraint.run_port`, `Constraint.run_host` — runs from inside of a part.
* `Constraint.search_urlPattern` — the search for the pattern finds what is measured.
-/

namespace InlineMarkup

open Pattern (Node Program Point Around)

/-! ### Standing in a program -/

namespace Pattern.Program

variable {p : Program} {i offset : Nat} {starts starts' live ends is : List Nat} {c : Char}
  {cs text : List Char} {before : Option Char} {best : Option Nat}

/-- **Where a run stands** that goes on from the given addresses: it may consume a character at
those of the first list, in their order, and accept with lower preference at those of the second
one, whatever the characters around are. -/
structure Stands (p : Program) (starts live ends : List Nat) : Prop where
  closure : ∀ around, p.closure around starts = live ++ ends
  live : ∀ i ∈ live, p.accepts i = false
  ends : ∀ i ∈ ends, p.accepts i = true

/-- The end to fall back to from where a run stands. -/
def fallBack (ends : List Nat) (offset : Nat) (best : Option Nat) : Option Nat :=
  if ends = [] then best else some offset

theorem Stands.run_nil (h : p.Stands starts live ends) :
    p.run [] before offset starts best = fallBack ends offset best := by
  have hlive : live.any p.accepts = false := by simpa using h.live
  rw [run, h.closure, List.any_append, hlive, Bool.false_or, fallBack]
  cases ends with
  | nil => rfl
  | cons i ends => simp [h.ends i List.mem_cons_self]

/-- A run depends on where it stands, not on how it came there. -/
theorem Stands.run_eq (h : p.Stands starts live ends) (h' : p.Stands starts' live ends) :
    p.run cs before offset starts best = p.run cs before offset starts' best := by
  cases cs <;> simp only [run, h.closure, h'.closure]

theorem Stands.run_cons (h : p.Stands starts live ends) :
    p.run (c :: cs) before offset starts best =
      if live.filterMap (p.after? c) = [] then fallBack ends offset best
      else p.run cs (some c) (offset + c.utf8Size) (live.filterMap (p.after? c))
        (fallBack ends offset best) := by
  have htake : (live ++ ends).takeWhile (fun i => !p.accepts i) = live := by
    rw [List.takeWhile_append_of_pos (by simpa using h.live)]
    cases ends with
    | nil => simp
    | cons i ends => simp [h.ends i List.mem_cons_self]
  have hshort : live.length < (live ++ ends).length ↔ ends ≠ [] := by
    rw [List.length_append, Nat.lt_add_right_iff_pos, List.length_pos_iff]
  rw [run, h.closure, htake]
  simp only [hshort, fallBack, ite_not]
  cases live.filterMap (p.after? c) <;> rfl

/-- **A character that leads on** is taken. -/
theorem Stands.takes (h : p.Stands starts live ends)
    (hnext : live.filterMap (p.after? c) = i :: is) :
    p.run (c :: cs) before offset starts best =
      p.run cs (some c) (offset + c.utf8Size) (i :: is) (fallBack ends offset best) := by
  rw [h.run_cons, hnext, if_neg (List.cons_ne_nil i is)]

/-- **A character that leads nowhere** ends the run. -/
theorem Stands.stops (h : p.Stands starts live ends) (hnext : live.filterMap (p.after? c) = []) :
    p.run (c :: cs) before offset starts best = fallBack ends offset best := by
  rw [h.run_cons, hnext, if_pos rfl]

/-- A search that is bound to the start of the text is one run. -/
theorem search_of_anchored (h : p.anchored = true) :
    p.search text = p.run text none 0 [0] none := by
  cases text with
  | nil => rfl
  | cons c cs =>
    rw [search, searchFrom, h]
    cases p.run (c :: cs) none 0 [0] none <;> rfl

end Pattern.Program

namespace Constraint

open Unicode (CharSet)

/-! ### The program -/

/-- **The pattern of web addresses.** -/
def urlPattern : String := "^https?://[A-Za-z0-9.-]+(?::[0-9]+)?(?:/[A-Za-z0-9._~%/?#=&+-]*)?"

/-- The class of characters of a host name. -/
def hostSet : CharSet := ⟨[(45, 46), (48, 57), (65, 90), (97, 122)]⟩

/-- The class of digits. -/
def digitSet : CharSet := ⟨[(48, 57)]⟩

/-- The class of characters of a path. -/
def pathSet : CharSet :=
  ⟨[(35, 35), (37, 38), (43, 43), (45, 57), (61, 61), (63, 63), (65, 90), (95, 95), (97, 122),
    (126, 126)]⟩

/-- The tree of the pattern. -/
def urlTree : Node :=
  .seq (.look .textStart) <|
  .seq (.literal "http".toList) <|
  .seq (.repeat (.literal ['s']) 0 (some 1) true) <|
  .seq (.literal "://".toList) <|
  .seq (.repeat (.set hostSet false) 1 none true) <|
  .seq (.repeat (.seq (.literal [':']) (.repeat (.set digitSet false) 1 none true)) 0 (some 1) true)
    (.repeat (.seq (.literal ['/']) (.repeat (.set pathSet false) 0 none true)) 0 (some 1) true)

theorem ofText?_urlPattern : Node.ofText? urlPattern.toList = some urlTree := by cbv

/-- The program of the pattern. -/
def urlProgram : Program := .ofNode urlTree

section Steps

variable (c : Char)

theorem contains_hostSet : hostSet.contains c = isHostChar c := by
  rw [Bool.eq_iff_iff]
  simp [hostSet, CharSet.contains, Unicode.inRanges, isHostChar, Char.isAlphanum, Char.isAlpha,
    Char.isUpper, Char.isLower, Char.isDigit, ← Char.toNat_inj, UInt32.le_iff_toNat_le]
  omega

theorem contains_digitSet : digitSet.contains c = c.isDigit := by
  rw [Bool.eq_iff_iff]
  simp [digitSet, CharSet.contains, Unicode.inRanges, Char.isDigit, UInt32.le_iff_toNat_le]

theorem contains_pathSet : pathSet.contains c = isPathChar c := by
  rw [Bool.eq_iff_iff]
  simp [pathSet, CharSet.contains, Unicode.inRanges, isPathChar, Char.isAlphanum, Char.isAlpha,
    Char.isUpper, Char.isLower, Char.isDigit, ← Char.toNat_inj, UInt32.le_iff_toNat_le]
  omega

theorem after?_host : urlProgram.after? c 12 = if isHostChar c then some 13 else none := by
  rw [← contains_hostSet]
  rfl

theorem after?_colon : urlProgram.after? c 16 = if c = ':' then some 17 else none := by
  simp only [← CharSet.contains_single]
  rfl

theorem after?_digit : urlProgram.after? c 17 = if c.isDigit then some 18 else none := by
  rw [← contains_digitSet]
  rfl

theorem after?_slash : urlProgram.after? c 22 = if c = '/' then some 23 else none := by
  simp only [← CharSet.contains_single]
  rfl

theorem after?_path : urlProgram.after? c 24 = if isPathChar c then some 25 else none := by
  rw [← contains_pathSet]
  rfl

end Steps

/-! ### Parts -/

/-- Behind a slash. -/
theorem stands_slash : urlProgram.Stands [23] [24] [27] := ⟨fun _ => rfl, by decide, by decide⟩

/-- Inside of a path. -/
theorem stands_path : urlProgram.Stands [25] [24] [27] := ⟨fun _ => rfl, by decide, by decide⟩

/-- Behind the colon of a port. -/
theorem stands_colon : urlProgram.Stands [17] [17] [] := ⟨fun _ => rfl, by decide, by decide⟩

/-- Inside of a port. -/
theorem stands_port : urlProgram.Stands [18] [17, 22] [27] :=
  ⟨fun _ => rfl, by decide, by decide⟩

/-- Behind the scheme. -/
theorem stands_scheme : urlProgram.Stands [12] [12] [] := ⟨fun _ => rfl, by decide, by decide⟩

/-- Inside of a host. -/
theorem stands_host : urlProgram.Stands [13] [12, 16, 22] [27] :=
  ⟨fun _ => rfl, by decide, by decide⟩

/-! ### Runs -/

variable {p : Program} {q : Char → Bool} {f : List Char → Nat} {starts live : List Nat} {i : Nat}
  {cs : List Char} {before : Option Char} {offset : Nat} {best : Option Nat}

theorem runLength_cons (q : Char → Bool) (c : Char) (cs : List Char) :
    runLength q (c :: cs) = if q c then c.utf8Size + runLength q cs else 0 := by
  rw [runLength, List.takeWhile_cons]
  split <;> simp [runLength]

/-- **A run inside of a class that is repeated** takes all characters of the class. What it takes
behind them is known from texts that begin with none. -/
theorem run_loop (h : p.Stands [i] live [27])
    (hloop : ∀ c, q c = true → live.filterMap (p.after? c) = [i])
    (hbehind : ∀ {cs before offset best}, (∀ c ∈ cs.head?, q c = false) →
      p.run cs before offset [i] best = some (offset + f cs)) :
    p.run cs before offset [i] best = some (offset + (runLength q cs + f (cs.dropWhile q))) := by
  induction cs generalizing before offset best with
  | nil =>
    -- nothing is left to take
    rw [hbehind (by rintro _ ⟨⟩)]
    exact congrArg (fun n => some (offset + n)) (Nat.zero_add _).symm
  | cons c cs ih =>
    rw [runLength_cons, List.dropWhile_cons]
    by_cases hc : q c = true
    · rw [h.takes (hloop c hc), ih, if_pos hc, if_pos hc, Nat.add_assoc, Nat.add_assoc]
    · -- the class ends here, so what is behind it is known
      have hhead : ∀ d ∈ (c :: cs).head?, q d = false := by
        rintro _ ⟨⟩
        exact Bool.eq_false_iff.mpr hc
      rw [hbehind hhead, if_neg hc, if_neg hc, Nat.zero_add]

/-- **A run in front of such a class** needs one of its characters. -/
theorem run_once (h : p.Stands starts live [])
    (hloop : ∀ c, q c = true → live.filterMap (p.after? c) = [i])
    (hstop : ∀ c, q c = false → live.filterMap (p.after? c) = [])
    (hrun : ∀ {cs before offset best}, p.run cs before offset [i] best =
      some (offset + (runLength q cs + f (cs.dropWhile q)))) :
    p.run cs before offset starts best =
      if runLength q cs = 0 then best
      else some (offset + (runLength q cs + f (cs.dropWhile q))) := by
  cases cs with
  | nil => exact h.run_nil
  | cons c cs =>
    rw [runLength_cons, List.dropWhile_cons]
    by_cases hc : q c = true
    · -- the first character is one of the class, so the length is not zero
      have hpos : c.utf8Size + runLength q cs ≠ 0 :=
        Nat.ne_of_gt (Nat.add_pos_left c.utf8Size_pos _)
      rw [h.takes (hloop c hc), hrun, if_pos hc, if_pos hc, if_neg hpos, Nat.add_assoc,
        Nat.add_assoc]
    · rw [h.stops (hstop c (Bool.eq_false_iff.mpr hc)), if_neg hc, if_pos rfl]
      rfl

/-- **In a path** the run takes the path to its end. -/
theorem run_path :
    urlProgram.run cs before offset [25] best = some (offset + runLength isPathChar cs) := by
  refine run_loop stands_path (f := fun _ => 0) (fun c hc => by simp [after?_path, hc]) ?_
  intro cs before offset best hbehind
  cases cs with
  | nil => exact stands_path.run_nil
  | cons c cs => exact stands_path.stops (by simp [after?_path, hbehind c rfl])

/-- Where a path may begin and nothing else, the run takes the path that is there. -/
theorem run_pathLength (h : urlProgram.Stands [i] live [27])
    (hslash : live.filterMap (urlProgram.after? '/') = [23])
    (hstop : ∀ c ∈ cs.head?, c ≠ '/' → live.filterMap (urlProgram.after? c) = []) :
    urlProgram.run cs before offset [i] best = some (offset + pathLength cs) := by
  cases cs with
  | nil => exact h.run_nil
  | cons c cs =>
    by_cases hc : c = '/'
    · subst hc
      rw [h.takes hslash, stands_slash.run_eq stands_path, run_path, Nat.add_assoc]
      rfl
    · rw [h.stops (hstop c rfl hc), pathLength]
      · rfl
      · rintro ds ⟨⟩
        exact hc rfl

/-- **In a port** the run takes the digits and a path behind them. -/
theorem run_port :
    urlProgram.run cs before offset [18] best =
      some (offset + (runLength Char.isDigit cs + pathLength (cs.dropWhile Char.isDigit))) := by
  refine run_loop stands_port (fun c hc => ?_) fun hbehind => ?_
  · have hslash : c ≠ '/' := by
      rintro rfl
      exact absurd hc (by decide)
    simp [after?_digit, after?_slash, hc, hslash]
  · refine run_pathLength stands_port rfl fun c hc hslash => ?_
    simp [after?_digit, after?_slash, hbehind c hc, hslash]

/-- Behind the colon of a port the run needs a digit. -/
theorem run_colon :
    urlProgram.run cs before offset [17] best =
      if runLength Char.isDigit cs = 0 then best
      else some (offset + (runLength Char.isDigit cs + pathLength (cs.dropWhile Char.isDigit))) :=
  run_once stands_colon (fun c hc => by simp [after?_digit, hc])
    (fun c hc => by simp [after?_digit, hc]) run_port

/-- The length of what follows a host: a port and a path. -/
def behindHost (cs : List Char) : Nat :=
  portLength cs + pathLength (Text.dropBytes (portLength cs) cs)

theorem behindHost_colon (cs : List Char) :
    behindHost (':' :: cs) =
      if runLength Char.isDigit cs = 0 then 0
      else 1 + (runLength Char.isDigit cs + pathLength (cs.dropWhile Char.isDigit)) := by
  rw [behindHost, portLength_colon]
  split
  · rw [Text.dropBytes_zero]
    rfl
  · have hdrop : Text.dropBytes (1 + runLength Char.isDigit cs) (':' :: cs) =
        cs.dropWhile Char.isDigit := by
      rw [← dropBytes_runLength, Text.dropBytes_cons (by omega)]
      exact congrArg (Text.dropBytes · cs) (Nat.add_sub_cancel_left 1 _)
    rw [hdrop, Nat.add_assoc]

theorem behindHost_of_ne (h : cs.head? ≠ some ':') : behindHost cs = pathLength cs := by
  have hport : portLength cs = 0 := by
    unfold portLength
    split
    · exact absurd rfl h
    · rfl
  rw [behindHost, hport, Text.dropBytes_zero, Nat.zero_add]

/-- **In a host** the run takes the host, and a port and a path behind it. A colon without a digit
ends the address in front of the colon. -/
theorem run_host :
    urlProgram.run cs before offset [13] best =
      some (offset + (runLength isHostChar cs + behindHost (cs.dropWhile isHostChar))) := by
  -- a character of a host is neither a colon nor a slash, so no other thread takes it
  refine run_loop stands_host (fun c hc => ?_) fun {cs before offset best} hbehind => ?_
  · have hcolon : c ≠ ':' := by
      rintro rfl
      exact absurd hc (by decide)
    have hslash : c ≠ '/' := by
      rintro rfl
      exact absurd hc (by decide)
    simp [after?_host, after?_colon, after?_slash, hc, hcolon, hslash]
  -- behind the host: a colon, which a port begins with, or where a path may begin
  by_cases hport : cs.head? = some ':'
  · obtain ⟨ds, rfl⟩ := List.head?_eq_some_iff.mp hport
    have hnext : [12, 16, 22].filterMap (urlProgram.after? ':') = [17] := rfl
    rw [stands_host.takes hnext, run_colon, behindHost_colon]
    split
    · rfl
    · rw [Nat.add_assoc]
      rfl
  · rw [behindHost_of_ne hport]
    refine run_pathLength stands_host rfl fun c hc hslash => ?_
    have hcolon : c ≠ ':' := by
      rintro rfl
      exact hport hc
    simp [after?_host, after?_colon, after?_slash, hbehind c hc, hcolon, hslash]

/-- Behind the scheme the run needs a host. -/
theorem run_scheme :
    urlProgram.run cs before offset [12] best =
      if runLength isHostChar cs = 0 then best
      else some (offset + (runLength isHostChar cs + behindHost (cs.dropWhile isHostChar))) :=
  run_once stands_scheme (fun c hc => by simp [after?_host, hc])
    (fun c hc => by simp [after?_host, hc]) run_host

/-! ### Searches -/

/-- Behind a scheme the search finds what is measured. -/
theorem search_scheme {scheme : String} (known : scheme = "http" ∨ scheme = "https")
    (cs : List Char) :
    urlProgram.search (scheme.toList ++ "://".toList ++ cs) =
      url.measure (scheme.toList ++ "://".toList ++ cs) := by
  have hrun : urlProgram.run (scheme.toList ++ "://".toList ++ cs) none 0 [0] none =
      urlProgram.run cs (some '/') (scheme.utf8ByteSize + 3) [12] none := by
    obtain rfl | rfl := known <;> rfl
  rw [Program.search_of_anchored rfl, hrun, run_scheme, url_measure_eq known]
  simp only [behindHost, Nat.add_assoc]

/-- What the search finds begins with a scheme. -/
theorem exists_scheme_of_search {text : List Char} {n : Nat} (h : urlProgram.search text = some n) :
    ∃ scheme : String, (scheme = "http" ∨ scheme = "https") ∧
      scheme.toList ++ "://".toList <+: text := by
  obtain ⟨front, piece, a, z, hfront, -, -, hspans⟩ := Program.exists_of_search h
  obtain ⟨_, ⟨hstart, rfl⟩, b, hhttp, c, ⟨k, -, hk, hs⟩, d, hmark, -⟩ := hspans
  -- nothing is in front of the start
  obtain rfl : front = [] := hfront.eq_nil_of_before (Option.isNone_iff_eq_none.mp hstart)
  obtain rfl : (⟨none, text⟩ : Point) = a := hfront
  have htext : text = "http".toList ++ b.coming := hhttp.coming_eq
  have hmark : c.coming = "://".toList ++ d.coming := hmark.coming_eq
  have hk : k ≤ 1 := hk 1 rfl
  interval_cases k
  · obtain rfl : b = c := hs
    exact ⟨"http", .inl rfl, d.coming, by rw [htext, hmark, List.append_assoc]⟩
  · have hs : b.coming = ['s'] ++ c.coming := (Pattern.times_one.mp hs).coming_eq
    exact ⟨"https", .inr rfl, d.coming, by rw [htext, hs, hmark]; rfl⟩

/-- **The search for the pattern finds what is measured,** in every text. -/
theorem search_urlPattern :
    ∃ program, Program.ofText? urlPattern.toList = some program ∧
      ∀ text, program.search text = url.measure text := by
  have hfits : urlTree.fits = true := by decide +kernel
  refine ⟨urlProgram, ?_, fun text => ?_⟩
  · rw [Program.ofText?, ofText?_urlPattern, Option.bind_some, if_pos hfits]
    rfl
  by_cases hscheme : ∃ scheme : String, (scheme = "http" ∨ scheme = "https") ∧
      scheme.toList ++ "://".toList <+: text
  · obtain ⟨scheme, known, cs, rfl⟩ := hscheme
    exact search_scheme known cs
  · rw [url_measure_eq_none fun scheme known h => hscheme ⟨scheme, known, h⟩]
    exact Option.eq_none_iff_forall_ne_some.mpr fun n h => hscheme (exists_scheme_of_search h)

end Constraint
end InlineMarkup
