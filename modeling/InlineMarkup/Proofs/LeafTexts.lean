import InlineMarkup.Proofs.Canonical
import InlineMarkup.Proofs.RoundTrip

/-!
# The texts of leaves

The text of a forest, a walk through it and a writer meet the same leaves in the same order. For the
walk this is so with all forests (`Token.join_texts_walkList`). A writer adds delimiters besides,
but only where the grammar has a branch type of the kind of a branch: if it has none, at no level of
nesting, then writing gives the text of the leaves and nothing else. That the kind may be one of a
leaf type somewhere makes no difference to the text, a leaf having neither delimiters nor a grammar
of its own; it is what the records are about, one for each branch whose kind is not found.

* `Grammar.Contains` — the types of a grammar at all levels of nesting. What is found for a kind is
  one of them (`Grammar.contains_of_find?`).
* `Writer.plainly` — what a writer becomes that meets no branch type; `Writer.writeAll_plainly` is
  the induction.
* `Token.readings_agree` — the three readings.
-/

namespace InlineMarkup

/-! ### Walks -/

namespace Token

mutual

/-- The leaves that the walk of a token meets hold its text. -/
theorem join_texts_walkFrom (depth : Nat) :
    (t : Token) →
      String.join ((t.walkFrom depth).filterMap fun v => v.token.text?) = t.textContent
  | .leaf kind text => by
    rw [walkFrom, textContent]
    exact String.empty_append
  | .branch kind ts => by
    rw [walkFrom, textContent]
    exact join_texts_walkList (depth + 1) ts

/-- **The leaves that a walk meets** hold the text of the forest. -/
theorem join_texts_walkList (depth : Nat) :
    (ts : List Token) →
      String.join ((walkList depth ts).filterMap fun v => v.token.text?) = textOfList ts
  | [] => rfl
  | t :: ts => by
    rw [walkList, textOfList, List.filterMap_append, String.join_append, join_texts_walkFrom,
      join_texts_walkList]

end

/-- **The kinds of the branches of a forest,** in the order in which walking its roots in turn meets
them. -/
def branchKinds (ts : List Token) : List String :=
  (ts.flatMap walk).filterMap fun v => if v.token.isLeaf then none else some v.token.kind

theorem mem_branchKinds {ts : List Token} {v : Visit} (hv : v ∈ walkList 0 ts)
    (hbranch : v.token.isLeaf = false) : v.token.kind ∈ branchKinds ts := by
  unfold branchKinds
  rw [flatMap_walk, List.mem_filterMap]
  exact ⟨v, hv, by rw [hbranch]; rfl⟩

end Token

/-! ### Deep search -/

namespace Grammar

/-- **The types of a grammar** at all levels of nesting. -/
def Contains (g : Grammar) (t : TokenType) : Prop := ∃ rules, g.Usable rules ∧ t ∈ rules

variable {g : Grammar} {kind : String} {t u : TokenType}

theorem contains_of_mem (h : t ∈ g) : g.Contains t := ⟨g, .top, h⟩

/-- The types that a type of the grammar declares are types of the grammar. -/
theorem Contains.inner {h : Grammar} (ht : g.Contains t) (hinner : t.inner? = some h) :
    ∀ u ∈ h, g.Contains u := by
  obtain ⟨rules, hrules, hmem⟩ := ht
  exact fun u hu => ⟨t :: h, hrules.inside hmem hinner, List.mem_cons_of_mem t hu⟩

mutual

/-- What is found inside a type of the grammar is a type of the grammar. -/
theorem contains_of_findInside? :
    (t : TokenType) → g.Contains t → findInside? kind t = some u → g.Contains u ∧ u.kind = kind
  | .leaf .., _, hfound => by simp [findInside?] at hfound
  | .branch _ _ _ none, _, hfound => by simp [findInside?] at hfound
  | .branch k start stop (some h), ht, hfound => by
    rw [findInside?, Option.or_eq_some_iff] at hfound
    have hinner := ht.inner rfl
    -- its own types come before those further inside
    rcases hfound with hown | ⟨-, hbelow⟩
    · obtain ⟨hu, hkind⟩ := mem_of_own? hown
      exact ⟨hinner u hu, hkind⟩
    · exact contains_of_findBelow? h hinner hbelow

/-- What is found below types of the grammar is a type of the grammar. -/
theorem contains_of_findBelow? :
    (ts : List TokenType) → (∀ t ∈ ts, g.Contains t) → findBelow? kind ts = some u →
      g.Contains u ∧ u.kind = kind
  | [], _, hfound => by cases hfound
  | t :: ts, hts, hfound => by
    rw [findBelow?, Option.or_eq_some_iff] at hfound
    rcases hfound with hinside | ⟨-, hbelow⟩
    · exact contains_of_findInside? t (hts t List.mem_cons_self) hinside
    · exact contains_of_findBelow? ts (fun u hu => hts u (List.mem_cons_of_mem t hu)) hbelow

end

/-- **What is found for a kind** is a type of the grammar, at some level, and of that kind. -/
theorem contains_of_find? (hfound : g.find? kind = some u) : g.Contains u ∧ u.kind = kind := by
  rw [find?, Option.or_eq_some_iff] at hfound
  rcases hfound with hown | ⟨-, hbelow⟩
  · obtain ⟨hu, hkind⟩ := mem_of_own? hown
    exact ⟨contains_of_mem hu, hkind⟩
  · exact contains_of_findBelow? g (fun t ht => contains_of_mem ht) hbelow

end Grammar

/-! ### Writing without delimiters -/

namespace Writer

variable {w : Writer}

/-- **Kinds without delimiters.** The kind is not found, or found to be that of a leaf type. -/
def Bare (w : Writer) (kind : String) : Prop := ∀ t, w.lookup? kind = some t → t.isLeaf = true

/-- The record that is made of a visited token: one of a branch whose kind is not found. -/
def note? (w : Writer) (v : Token.Visit) : Option Record :=
  if v.token.isLeaf ∨ (w.lookup? v.token.kind).isSome then none
  else some (.undeclaredBranch v.token.kind)

/-- **A writer that has met no delimiters.** It has added a text, and the records that are made of
the visited tokens. -/
def plainly (w : Writer) (text : String) (vs : List Token.Visit) : Writer :=
  { w with text := w.text ++ text, records := w.records ++ (vs.filterMap w.note?).toArray }

theorem plainly_nil (w : Writer) : w.plainly "" [] = w := by simp [plainly]

theorem plainly_plainly (w : Writer) (a b : String) (xs ys : List Token.Visit) :
    (w.plainly a xs).plainly b ys = w.plainly (a ++ b) (xs ++ ys) := by
  -- the scopes are the same, so the same kinds are found
  have hnote : (w.plainly a xs).note? = w.note? := rfl
  rw [plainly, hnote]
  simp [plainly, String.append_assoc]

mutual

/-- Without delimiters a token is written as its text. -/
theorem write_plainly (w : Writer) (depth : Nat) :
    (t : Token) → (∀ v ∈ t.walkFrom depth, v.token.isLeaf = false → w.Bare v.token.kind) →
      w.write t = w.plainly t.textContent (t.walkFrom depth)
  | .leaf kind text, _ => by
    rw [write, Token.textContent, Token.walkFrom]
    show w.put text = { w with text := w.text ++ text, records := w.records ++ #[] }
    rw [Array.append_empty, put]
  | .branch kind ts, hbare => by
    rw [Token.walkFrom] at hbare ⊢
    -- its kind may be found, but then it is that of a leaf type
    obtain ⟨hself, hbelow⟩ := List.forall_mem_cons.mp hbare
    rw [write, Token.textContent]
    cases hfound : w.lookup? kind with
    | none =>
      -- the record of the branch, and then what is inside it
      have hnoted : ({ w with records := w.records.push (.undeclaredBranch kind) } : Writer) =
          w.plainly "" [⟨depth, .branch kind ts⟩] := by
        have hnote : w.note? ⟨depth, .branch kind ts⟩ = some (.undeclaredBranch kind) := by
          simp [note?, Token.isLeaf, Token.kind, hfound]
        simp [plainly, hnote]
      have hinside :=
        writeAll_plainly (w.plainly "" [⟨depth, .branch kind ts⟩]) (depth + 1) ts hbelow
      dsimp only
      rw [hnoted, hinside, plainly_plainly, String.empty_append, List.singleton_append]
    | some u =>
      cases u with
      | branch k start stop inner =>
        -- delimiters are excluded
        cases hself rfl _ hfound
      | leaf k constraint =>
        -- a leaf type has neither delimiters nor a grammar of its own
        have hsilent : w.note? ⟨depth, .branch kind ts⟩ = none := by
          simp [note?, Token.kind, hfound]
        show ((w.put "").writeAll ts).put "" = _
        rw [put_empty, put_empty, writeAll_plainly w (depth + 1) ts hbelow]
        unfold plainly
        rw [List.filterMap_cons_none hsilent]

/-- **Without delimiters a forest is written as its text,** with the records of the branches whose
kinds are not found. -/
theorem writeAll_plainly (w : Writer) (depth : Nat) :
    (ts : List Token) →
      (∀ v ∈ Token.walkList depth ts, v.token.isLeaf = false → w.Bare v.token.kind) →
      w.writeAll ts = w.plainly (Token.textOfList ts) (Token.walkList depth ts)
  | [], _ => by
    rw [writeAll, Token.textOfList, Token.walkList, plainly_nil]
  | t :: ts, hbare => by
    rw [Token.walkList] at hbare ⊢
    obtain ⟨hfirst, hothers⟩ := List.forall_mem_append.mp hbare
    have hbehind := writeAll_plainly (w.plainly t.textContent (t.walkFrom depth)) depth ts hothers
    rw [writeAll, Token.textOfList, write_plainly w depth t hfirst, hbehind, plainly_plainly]

end

end Writer

/-! ### The three readings -/

namespace Grammar

variable {g : Grammar} {ts : List Token}

/-- Where no scope has been entered, a kind is searched in the grammar of the whole text. -/
theorem lookup?_start (g : Grammar) (kind : String) :
    (Writer.start g).lookup? kind = g.find? kind := by
  show ([g].findSome? fun h => h.own? kind).or (g.find? kind) = g.find? kind
  rw [List.findSome?_singleton, find?, ← Option.or_assoc, Option.or_self]

/-- **A grammar without branch types for them** gives no kind of a branch delimiters. -/
theorem bare_of_contains
    (hbare : ∀ t, g.Contains t → t.isLeaf = false → t.kind ∉ Token.branchKinds ts) :
    ∀ v ∈ Token.walkList 0 ts, v.token.isLeaf = false → (Writer.start g).Bare v.token.kind := by
  intro v hv hbranch t hfound
  rw [lookup?_start] at hfound
  obtain ⟨hcontains, hkind⟩ := contains_of_find? hfound
  by_contra hleaf
  refine hbare t hcontains ((Bool.not_eq_true _).mp hleaf) ?_
  rw [hkind]
  exact Token.mem_branchKinds hv hbranch

/-- **Kinds that are found nowhere** give a record each. -/
theorem notes_of_contains (hnone : ∀ t, g.Contains t → t.kind ∉ Token.branchKinds ts) :
    (Token.walkList 0 ts).filterMap (Writer.start g).note? =
      (Token.branchKinds ts).map .undeclaredBranch := by
  rw [Token.branchKinds, Token.flatMap_walk, List.map_filterMap]
  refine List.filterMap_congr fun v hv => ?_
  unfold Writer.note?
  cases hleaf : v.token.isLeaf with
  | true => simp
  | false =>
    have hlost : (Writer.start g).lookup? v.token.kind = none := by
      rw [lookup?_start, Option.eq_none_iff_forall_ne_some]
      intro t hfound
      obtain ⟨hcontains, hkind⟩ := contains_of_find? hfound
      exact hnone t hcontains (hkind ▸ Token.mem_branchKinds hv hleaf)
    simp [hlost]

/-- **Three readings of the leaves.** The text of a forest is that of the leaves which walking its
roots in turn meets. It is also what writing gives if no branch type of the grammar, at whatever
level of nesting, is of the kind of a branch. If no type at all is of such a kind, then moreover
each branch leaves one record, in the order of the walk. -/
theorem readings_agree (g : Grammar) (ts : List Token) :
    Token.textOfList ts =
        String.join ((ts.flatMap Token.walk).filterMap fun v => v.token.text?) ∧
      ((∀ t, g.Contains t → t.isLeaf = false → t.kind ∉ Token.branchKinds ts) →
        g.source ts = Token.textOfList ts) ∧
      ((∀ t, g.Contains t → t.kind ∉ Token.branchKinds ts) →
        g.source ts = Token.textOfList ts ∧
          (g.written ts).records.toList = (Token.branchKinds ts).map .undeclaredBranch) := by
  -- with no delimiters to write, writing adds the texts of the leaves alone
  have hwritten (hbare : ∀ t, g.Contains t → t.isLeaf = false → t.kind ∉ Token.branchKinds ts) :
      g.written ts =
        (Writer.start g).plainly (Token.textOfList ts) (Token.walkList 0 ts) :=
    Writer.writeAll_plainly (Writer.start g) 0 ts (bare_of_contains hbare)
  have hsource (hbare : ∀ t, g.Contains t → t.isLeaf = false → t.kind ∉ Token.branchKinds ts) :
      g.source ts = Token.textOfList ts :=
    calc g.source ts
      _ = ((Writer.start g).plainly (Token.textOfList ts) (Token.walkList 0 ts)).text := by
          rw [source, hwritten hbare]
      _ = Token.textOfList ts := String.empty_append
  refine ⟨?_, hsource, fun hnone => ⟨hsource fun t ht _ => hnone t ht, ?_⟩⟩
  · -- walking the roots in turn is walking the forest
    rw [Token.flatMap_walk, Token.join_texts_walkList]
  · rw [hwritten fun t ht _ => hnone t ht, ← notes_of_contains hnone]
    simp [Writer.plainly, Writer.start]

/-- Marks in notes, `mark` being the kind of a leaf type. A branch of that kind has no delimiters;
branches of kinds that are declared nowhere leave their records besides. -/
theorem readings_agree_marks :
    let note : TokenType := (TokenType.delimited "note" "[" "]").withGrammar [.plain "mark"]
    let ts : List Token := [.branch "mark" [.word "a", .branch "gone" []], .leaf "note" "b"]
    let us : List Token := [.branch "lost" [.word "a", .branch "gone" [.leaf "note" "b"]]]
    (∀ t, Contains [note] t → t.isLeaf = false → t.kind ∉ Token.branchKinds ts) ∧
      source [note] ts = "ab" ∧
      (∀ t, Contains [note] t → t.kind ∉ Token.branchKinds us) ∧
      source [note] us = "ab" ∧
      (written [note] us).records.toList =
        [.undeclaredBranch "lost", .undeclaredBranch "gone"] := by
  intro note ts us
  -- there are two types in all, one inside the other
  have htypes : ∀ t, Contains [note] t → t = note ∨ t = .plain "mark" := by
    rintro t ⟨rules, hrules, ht⟩
    induction hrules generalizing t with
    | top => exact .inl (List.mem_singleton.mp ht)
    | inside around mem inner ih =>
      rcases ih _ mem with rfl | rfl <;> cases inner
      simpa using ht
  -- the one branch type is of no kind of a branch; in the second forest neither type is
  have hts : ∀ t, Contains [note] t → t.isLeaf = false → t.kind ∉ Token.branchKinds ts := by
    intro t ht hbranch
    rcases htypes t ht with rfl | rfl
    · decide +kernel
    · cases hbranch
  have hus : ∀ t, Contains [note] t → t.kind ∉ Token.branchKinds us := by
    intro t ht
    rcases htypes t ht with rfl | rfl <;> decide +kernel
  have htexts : Token.textOfList ts = "ab" ∧ Token.textOfList us = "ab" := by decide +kernel
  obtain ⟨hsource, hrecords⟩ := (readings_agree [note] us).2.2 hus
  refine ⟨hts, ?_, hus, hsource.trans htexts.2, hrecords.trans ?_⟩
  · exact ((readings_agree [note] ts).2.1 hts).trans htexts.1
  · decide +kernel

end Grammar
end InlineMarkup
