import InlineMarkup.Proofs.Places
import InlineMarkup.Proofs.RoundTrip
import InlineMarkup.Proofs.Settings.Acceptance

/-!
# Tokens as slices of a text

A token that is taken out of its forest has lost the scopes that it stood in. When it is written by
itself its delimiters are looked up in the grammar of the whole text, where the same kind may stand
for other delimiters. With a grammar from settings that does not happen. The kinds in the grammar of
an entry stand for earlier entries, so what is inside a branch is made of types of the whole
grammar, which has one type for each kind.

* `Grammar.SelfContained` — what such a grammar is like. A writer that has just begun knows all the
  rules that a scan can come to with it (`Grammar.SelfContained.knows`).
* `Settings.valid_of_grammar_eq_ok`, `Settings.selfContained_of_grammar_eq_ok` — grammars from
  settings are valid and self-contained.
* `Scan.Covers.write` — a token is written as the piece of the text that it covers.
* `Settings.source_eq_slice` — every token of a text, written by itself, is a slice of the text.
-/

namespace InlineMarkup

/-! ### Self-contained grammars -/

namespace Grammar

/-- **A self-contained grammar.** The grammars inside it are made of its own types. -/
def SelfContained (g : Grammar) : Prop :=
  ∀ t ∈ g, ∀ inner, t.inner? = some inner → ∀ u ∈ inner, u ∈ g

variable {g rules : Grammar}

/-- The rules that a scan can come to are types of the grammar. -/
theorem SelfContained.mem_of_usable (h : g.SelfContained) (husable : g.Usable rules) :
    ∀ t ∈ rules, t ∈ g := by
  induction husable with
  | top => exact fun _ => id
  | inside around mem inner ih =>
    intro u hu
    rcases List.mem_cons.mp hu with rfl | hu
    · exact ih _ mem
    · exact h _ (ih _ mem) _ inner u hu

/-- **A writer that has just begun** knows all rules that a scan can come to. -/
theorem SelfContained.knows (h : g.SelfContained) (hg : g.IsRuleList) (husable : g.Usable rules) :
    (Writer.start g).Knows rules :=
  fun t ht => Writer.knows_start hg t (h.mem_of_usable husable t ht)

end Grammar

/-! ### Grammars from settings -/

namespace Entry

variable {declared ts : List TokenType} {es : List Entry} {e : Entry} {t : TokenType}
  {inner : Grammar}

/-- What an entry puts inside a branch are earlier types. -/
theorem Describes.mem_earlier (h : e.Describes declared t) (hinner : t.inner? = some inner) :
    ∀ u ∈ inner, u ∈ declared := by
  cases h with
  | leaf => cases hinner
  | branch _ hinterior =>
    cases hinner
    cases hinterior with
    | verbatim => exact fun _ => nofun
    | listed _ _ hearlier => exact hearlier

/-- None of them stands there twice. -/
theorem Describes.nodup_inner (h : e.Describes declared t)
    (honce : ∀ kinds, e.grammar = some kinds → kinds.Nodup) (hinner : t.inner? = some inner) :
    (inner.map TokenType.kind).Nodup := by
  cases h with
  | leaf => cases hinner
  | branch _ hinterior =>
    cases hinner
    cases hinterior with
    | verbatim => exact List.nodup_nil
    | listed hgrammar _ _ => exact honce _ hgrammar

/-- **What is inside the types of entries** is valid, and made of the types up to there, if that is
so of what was declared before. -/
theorem InTurn.valid_inside (h : InTurn Builds declared es ts)
    (haccepted : Grammar.ofTypes (declared ++ ts) = .ok (declared ++ ts))
    (hdeclared : ∀ t ∈ declared, ∀ inner, t.inner? = some inner → inner.Valid) :
    ∀ t ∈ ts, ∀ inner, t.inner? = some inner → inner.Valid ∧ ∀ u ∈ inner, u ∈ declared ++ ts := by
  induction h with
  | nil => exact fun _ => nofun
  | @cons declared ts e es t hbuilds hturn ih =>
    -- what the new type has inside of it is made of the types before it
    have hfirst : ∀ inner, t.inner? = some inner →
        inner.Valid ∧ ∀ u ∈ inner, u ∈ declared := by
      intro inner hinner
      have hearlier := Grammar.accepted_of_append haccepted
      obtain ⟨hdescribes, honce⟩ := (build_eq_ok_iff hearlier).mp hbuilds
      have hmem := hdescribes.mem_earlier hinner
      have hnodup := hdescribes.nodup_inner honce hinner
      obtain ⟨-, hfaultless, -⟩ := Grammar.ofTypes_eq_ok_iff.mp hearlier
      have hinside : Grammar.ofTypes inner = .ok inner :=
        Grammar.ofTypes_eq_ok_iff.mpr ⟨rfl, fun u hu => hfaultless u (hmem u hu), hnodup⟩
      exact ⟨.intro hinside fun u hu => hdeclared u (hmem u hu), hmem⟩
    have happend : declared ++ t :: ts = declared ++ [t] ++ ts := by simp
    rw [happend] at haccepted ⊢
    -- the new type is one of those that the later ones have before them
    have hsofar : ∀ u ∈ declared ++ [t], ∀ inner, u.inner? = some inner → inner.Valid := by
      intro u hu
      rcases List.mem_append.mp hu with hu | hu
      · exact hdeclared u hu
      · obtain rfl := List.mem_singleton.mp hu
        exact fun inner hinner => (hfirst inner hinner).1
    refine List.forall_mem_cons.mpr ⟨fun inner hinner => ?_, ih haccepted hsofar⟩
    obtain ⟨hvalid, hmem⟩ := hfirst inner hinner
    exact ⟨hvalid, fun u hu => List.mem_append_left _ (List.mem_append_left _ (hmem u hu))⟩

end Entry

namespace Settings

variable {s : Settings} {g : Grammar}

/-- **Grammars from settings are valid.** -/
theorem valid_of_grammar_eq_ok (h : s.grammar.1 = .ok g) : g.Valid := by
  obtain ⟨hturn, haccepted⟩ := grammar_eq_ok_iff.mp h
  exact .intro haccepted fun t ht inner hinner =>
    (hturn.valid_inside haccepted (fun _ => nofun) t ht inner hinner).1

/-- **Grammars from settings are self-contained.** -/
theorem selfContained_of_grammar_eq_ok (h : s.grammar.1 = .ok g) : g.SelfContained := by
  obtain ⟨hturn, haccepted⟩ := grammar_eq_ok_iff.mp h
  exact fun t ht inner hinner =>
    (hturn.valid_inside haccepted (fun _ => nofun) t ht inner hinner).2

end Settings

/-! ### Writing one token -/

namespace Scan

/-- **A token is written as what it covers,** by a writer that knows the rules of its level. -/
theorem Covers.write {limit : Nat} {level : Level} {token : Token} {piece behind : List Char}
    (h : Covers limit level token piece behind) (hlevel : level.Proper) {w : Writer}
    (hknows : w.Knows level.rules) : w.write token = w.put (String.ofList piece) := by
  cases h with
  | whole => rw [Writer.write]
  | run => rw [Writer.write]
  | @branch limit _ kind start stop inner middle children behind comes within =>
    have hmem := Level.mem_of_next_branch comes.next rfl
    -- the interior is written in the scope of the branch
    have hentered := (hknows.put start).enter hlevel.rules hmem
    obtain ⟨front, hcut, hwritten⟩ := within.writeAll (hlevel.inside hmem rfl) hentered
    obtain rfl : middle = front := List.append_cancel_right hcut
    have hheld : Leaf.held none = "" := rfl
    rw [hheld, String.empty_append] at hwritten
    rw [hknows.write_branch hmem hwritten]
    simp only [String.ofList_append, String.ofList_toList, String.append_assoc]

end Scan

/-- A token that is found in its place is written as its slice, by a writer that knows the rules of
its level; the slice begins and ends between characters. -/
theorem Place.Found.write {g : Grammar} {p : Place} {text : String} (h : p.Found g text.toList)
    {w : Writer} (hknows : w.Knows p.level.rules) :
    w.write p.token = w.put (p.slice text) ∧ Text.isBoundary p.position text.toList = true ∧
      Text.isBoundary p.finish text.toList = true := by
  obtain ⟨limit, piece, behind, hcovers, hslice, hfrom, hto⟩ := h.exists_piece
  refine ⟨?_, hfrom.isBoundary_eq, hto.isBoundary_eq⟩
  rw [hslice]
  exact hcovers.write h.proper hknows

namespace Settings

/-- **Tokens are slices.** With a grammar from settings every token of a text, however deep, is
written with that grammar alone as the slice of the text that it covers, its own delimiters
included. -/
theorem source_eq_slice {s : Settings} {g : Grammar} (h : s.grammar.1 = .ok g) (maxDepth : Nat)
    (text : String) :
    let t : Tokenizer := ⟨g, maxDepth⟩
    (t.places text).map Place.visit = Token.walkList 0 (t.tokenize text) ∧
      ∀ p ∈ t.places text,
        g.source [p.token] = p.slice text ∧ Text.isBoundary p.position text.toList = true ∧
          Text.isBoundary p.finish text.toList = true := by
  intro t
  refine ⟨t.map_visit_places text, fun p hp => ?_⟩
  have hvalid : t.grammar.Valid := valid_of_grammar_eq_ok h
  have hfound := Tokenizer.found hvalid text p hp
  -- the rules that the token was found with are types of the grammar, so its writer knows them
  have hknows := (selfContained_of_grammar_eq_ok h).knows hvalid.isRuleList hfound.usable
  obtain ⟨hwritten, hboundaries⟩ := hfound.write hknows
  refine ⟨?_, hboundaries⟩
  rw [Grammar.source, Grammar.written, Writer.writeAll_cons, Writer.writeAll, hwritten]
  exact String.empty_append

/-- Grammars in general are not self-contained: here a token of a box is not written by itself as it
is written in the box. -/
example :
    let g : Grammar := [.surround "em" "_",
      (TokenType.delimited "box" "[" "]").withGrammar [.surround "em" "__"]]
    g.source [.branch "box" [.branch "em" [.word "b"]]] = "[__b__]" ∧
      g.source [.branch "em" [.word "b"]] = "_b_" := by decide +kernel

/-- Asides may be marked, and notes hold asides only. -/
def notes : Settings where
  maxDepth := 64
  entries :=
    [{ kind := "em", surround := some "_" },
     { kind := "aside", start := some "(", stop := some ")", grammar := some ["em"] },
     { kind := "note", start := some "[", stop := some "]", grammar := some ["aside"] }]

/-- The types of `notes`. -/
def notesGrammar : Grammar :=
  let em : TokenType := .surround "em" "_"
  let aside := (TokenType.delimited "aside" "(" ")").withGrammar [em]
  [em, aside, (TokenType.delimited "note" "[" "]").withGrammar [aside]]

/-- What is marked in an aside of a note is a slice of the text. -/
theorem source_eq_slice_notes :
    let t : Tokenizer := ⟨notesGrammar, 64⟩
    let note : Level := (Level.top notesGrammar).inside (notesGrammar[2])
    let p : Place := ⟨note.inside (notesGrammar[1]), 3, .branch "em" [.word "é"]⟩
    notes.grammar.1 = .ok notesGrammar ∧ p ∈ t.places "_[(_é_)]" ∧
      notesGrammar.source [p.token] = p.slice "_[(_é_)]" ∧ p.slice "_[(_é_)]" = "_é_" := by
  intro t note p
  have hgrammar : notes.grammar.1 = .ok notesGrammar := rfl
  have htokens : t.tokenize "_[(_é_)]" = [.word "_",
      .branch "note" [.branch "aside" [.branch "em" [.word "é"]]]] := by
    rw [Tokenizer.tokenize_eq_outcome (valid_of_grammar_eq_ok hgrammar)]
    decide +kernel
  have hp : p ∈ t.places "_[(_é_)]" := by
    rw [Tokenizer.places, htokens]
    exact .tail _ (.tail _ (.tail _ (.head _)))
  have h := source_eq_slice hgrammar 64 "_[(_é_)]"
  exact ⟨hgrammar, hp, (h.2 p hp).1, by decide +kernel⟩

end Settings
end InlineMarkup
