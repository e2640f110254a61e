import InlineMarkup.Pattern.Node

/-!
# What patterns match

The meaning of a pattern's tree, apart from any way to find matches: between which points of a text
it lies. Preferences among matches have no part in it.

* `Node.Spans` — a tree lies between two points.
* `Node.MatchesTo` — a tree matches the first bytes of a text.
* `Node.spans_seqs` — sequences mean what they were put together from, whatever the plain form makes
  of them.
* `Node.alts_seqs_look` — a sequence that begins with a condition is one alternative as it is.
-/

namespace InlineMarkup.Pattern

/-! ### Points -/

/-- **A point of a text:** the character before it and the text that comes. -/
structure Point where
  before : Option Char
  coming : List Char

namespace Point

/-- What conditions look at. -/
def around (a : Point) : Around := ⟨a.before, a.coming.head?⟩

/-- **One character** lies between two points. -/
structure Takes (c : Char) (a b : Point) : Prop where
  coming : a.coming = c :: b.coming
  before : b.before = some c

/-- **A piece of the text** lies between two points. -/
def Reads : List Char → Point → Point → Prop
  | [], a, b => a = b
  | c :: cs, a, b => ∃ m, Takes c a m ∧ Reads cs m b

theorem reads_append {xs ys : List Char} {a b : Point} :
    Reads (xs ++ ys) a b ↔ ∃ m, Reads xs a m ∧ Reads ys m b := by
  induction xs generalizing a with
  | nil => exact ⟨fun h => ⟨a, rfl, h⟩, by rintro ⟨_, rfl, h⟩; exact h⟩
  | cons c xs ih =>
    constructor
    · rintro ⟨m, hc, h⟩
      obtain ⟨m', hxs, hys⟩ := ih.mp h
      exact ⟨m', ⟨m, hc, hxs⟩, hys⟩
    · rintro ⟨m', ⟨m, hc, hxs⟩, hys⟩
      exact ⟨m, hc, ih.mpr ⟨m', hxs, hys⟩⟩

/-- What has been read stood in front. -/
theorem Reads.coming_eq {cs : List Char} {a b : Point} (h : Reads cs a b) :
    a.coming = cs ++ b.coming := by
  induction cs generalizing a with
  | nil => exact congrArg coming h
  | cons c cs ih =>
    obtain ⟨m, hc, h⟩ := h
    rw [hc.coming, ih h, List.cons_append]

/-- Behind text that has been read there is a character. -/
theorem Reads.eq_nil_of_before {cs : List Char} {a b : Point} (h : Reads cs a b)
    (hbefore : b.before = none) : cs = [] := by
  induction cs generalizing a with
  | nil => rfl
  | cons c cs ih =>
    obtain ⟨m, hc, h⟩ := h
    obtain rfl := ih h
    obtain rfl : m = b := h
    cases hc.before.symm.trans hbefore

end Point

/-- A relation of points, a number of times in a row. -/
def Times (R : Point → Point → Prop) : Nat → Point → Point → Prop
  | 0, a, b => a = b
  | k + 1, a, b => ∃ m, R a m ∧ Times R k m b

theorem Times.add {R : Point → Point → Prop} {i j : Nat} {a m b : Point} (h : Times R i a m)
    (h' : Times R j m b) : Times R (i + j) a b := by
  induction i generalizing a with
  | zero =>
    obtain rfl : a = m := h
    rwa [Nat.zero_add]
  | succ i ih =>
    obtain ⟨x, hx, h⟩ := h
    rw [Nat.succ_add]
    exact ⟨x, hx, ih h⟩

theorem times_one {R : Point → Point → Prop} {a b : Point} : Times R 1 a b ↔ R a b :=
  ⟨by rintro ⟨_, h, rfl⟩; exact h, fun h => ⟨b, h, rfl⟩⟩

namespace Node

/-! ### Trees -/

/-- **A tree lies between two points.** A greatest number of times below the least one counts as the
least one; no text is read as such a repetition. -/
def Spans : Node → Point → Point → Prop
  | empty, a, b => a = b
  | literal cs, a, b => Point.Reads cs a b
  | set s _, a, b => ∃ c, s.contains c = true ∧ Point.Takes c a b
  | look l, a, b => l.holds a.around = true ∧ a = b
  | seq x y, a, b => ∃ m, x.Spans a m ∧ y.Spans m b
  | alt x y, a, b => x.Spans a b ∨ y.Spans a b
  | group _ x, a, b => x.Spans a b
  | «repeat» x min max _, a, b =>
    ∃ k, min ≤ k ∧ (∀ m ∈ max, k ≤ Nat.max min m) ∧ Times x.Spans k a b

/-- **A match of a text's first bytes:** one that begins at the start and has the given length. -/
def MatchesTo (n : Node) (text : List Char) (length : Nat) : Prop :=
  ∃ piece stop, Point.Reads piece ⟨none, text⟩ stop ∧ n.Spans ⟨none, text⟩ stop ∧
    Text.byteLength piece = length

/-! ### Sequences -/

/-- Trees lie between two points, one after another. -/
def SpansAll : List Node → Point → Point → Prop
  | [], a, b => a = b
  | n :: ns, a, b => ∃ m, n.Spans a m ∧ SpansAll ns m b

variable {a b : Point} {l : Look} {n : Node} {ns ms : List Node}

theorem spansAll_append :
    SpansAll (ns ++ ms) a b ↔ ∃ m, SpansAll ns a m ∧ SpansAll ms m b := by
  induction ns generalizing a with
  | nil => exact ⟨fun h => ⟨a, rfl, h⟩, by rintro ⟨_, rfl, h⟩; exact h⟩
  | cons n ns ih =>
    constructor
    · rintro ⟨m, hn, h⟩
      obtain ⟨m', hns, hms⟩ := ih.mp h
      exact ⟨m', ⟨m, hn, hns⟩, hms⟩
    · rintro ⟨m', ⟨m, hn, hns⟩, hms⟩
      exact ⟨m, hn, ih.mpr ⟨m', hns, hms⟩⟩

theorem spansAll_singleton : SpansAll [n] a b ↔ n.Spans a b :=
  ⟨by rintro ⟨_, h, rfl⟩; exact h, fun h => ⟨b, h, rfl⟩⟩

theorem spans_chain : (chain ns).Spans a b ↔ SpansAll ns a b := by
  induction ns generalizing a with
  | nil => exact Iff.rfl
  | cons n ns ih =>
    cases ns with
    | nil => exact spansAll_singleton.symm
    | cons n' ns =>
      exact exists_congr fun m => and_congr_right fun _ => ih

theorem spansAll_parts : SpansAll n.parts a b ↔ n.Spans a b := by
  induction n generalizing a with
  | empty => exact Iff.rfl
  | seq x y _ ihy =>
    exact exists_congr fun m => and_congr_right fun _ => ihy
  | literal | set | look | alt | group | «repeat» => exact spansAll_singleton

/-- **Literals beside each other** mean the same as the literal that they are joined to. -/
theorem spansAll_joinLiterals : SpansAll (joinLiterals ns) a b ↔ SpansAll ns a b := by
  induction ns generalizing a with
  | nil => exact Iff.rfl
  | cons n ns ih =>
    unfold joinLiterals
    split
    · next cs ds rest hjoined =>
      -- the two literals are read in a row
      calc SpansAll (literal (cs ++ ds) :: rest) a b
        _ ↔ ∃ m, Point.Reads cs a m ∧ SpansAll (literal ds :: rest) m b := by
          simp only [SpansAll, Spans, Point.reads_append]
          constructor
          · rintro ⟨m', ⟨m, hcs, hds⟩, hrest⟩
            exact ⟨m, hcs, m', hds, hrest⟩
          · rintro ⟨m, hcs, m', hds, hrest⟩
            exact ⟨m', ⟨m, hcs, hds⟩, hrest⟩
        _ ↔ ∃ m, Point.Reads cs a m ∧ SpansAll ns m b := by simp only [← hjoined, ih]
    · exact exists_congr fun m => and_congr_right fun _ => ih

theorem spansAll_flatMap_parts : SpansAll (ns.flatMap parts) a b ↔ SpansAll ns a b := by
  induction ns generalizing a with
  | nil => exact Iff.rfl
  | cons n ns ih =>
    rw [List.flatMap_cons, spansAll_append]
    simp only [spansAll_parts, ih, SpansAll]

/-- **A sequence lies where its parts do,** one after another. -/
theorem spans_seqs : (seqs ns).Spans a b ↔ SpansAll ns a b := by
  rw [seqs, spans_chain, spansAll_joinLiterals, spansAll_flatMap_parts]

/-! ### Behind a condition -/

theorem joinLiterals_look : joinLiterals (look l :: ns) = look l :: joinLiterals ns := by
  rw [joinLiterals]
  rintro cs ds rest ⟨⟩

/-- A sequence that begins with a condition is no choice between alternatives. -/
theorem branches_seqs_look : (seqs (look l :: ns)).branches = [seqs (look l :: ns)] := by
  have hseqs : seqs (look l :: ns) = chain (look l :: joinLiterals (ns.flatMap parts)) := by
    rw [seqs, List.flatMap_cons]
    exact congrArg chain joinLiterals_look
  rw [hseqs]
  cases joinLiterals (ns.flatMap parts) <;> rfl

/-- **A sequence that begins with a condition** is kept as it is when it is the only alternative. -/
theorem alts_seqs_look : alts [seqs (look l :: ns)] = seqs (look l :: ns) := by
  rw [alts, List.foldl_cons, List.foldl_nil, Nat.add_comm, altsWithin, List.flatMap_cons,
    List.flatMap_nil, List.append_nil, branches_seqs_look]
  exact if_pos (Nat.le_refl 1)

end Node
end InlineMarkup.Pattern
