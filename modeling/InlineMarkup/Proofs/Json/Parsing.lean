import InlineMarkup.Json.Tree
import InlineMarkup.Proofs.Json.Lexing

/-!
# The trees of JSON texts

A text of the grammar is read as the tree of the value that it writes, if that value can be read:
its strings stand for characters, its numerals are in range (`Value.Sound`), and no more arrays and
objects are inside each other in it than are allowed. Otherwise the document that comes of the text
is faulty (`Document.Faulty`).

Both are said of every part of the grammar at once, inside any frames and with anything to follow
(`Part.Parses`).

* `Brackets.parses`, `Behind.last`, `Behind.more` — the steps that arrays and objects have in
  common: what stands in brackets, and what stands behind an item or a member.
* `Writes.parses` — the induction over the grammar, a step for each of its rules.
* `Value.Document.ofText` — what it comes to for a whole text.
-/

namespace InlineMarkup.Json

/-! ### Faults -/

/-- A value that breaks off, or does not even begin. -/
def isFaulty : Json → Bool
  | .broken _ => true
  | .array _ ending => ending.isSome
  | .object _ ending => ending.isSome
  | _ => false

/-- **A faulty document** breaks off, or is followed by something that is out of place. -/
def Document.Faulty (d : Document) : Prop := d.value.isFaulty = true ∨ d.ending.isSome = true

/-- A value that is broken off breaks off all the frames that it is inside of. -/
theorem breakOff_faulty {v : Json} (h : v.isFaulty = true) (fault : Fault) (stack : List Frame) :
    (breakOff fault v stack).Faulty := by
  induction stack generalizing v with
  | nil => exact .inl h
  | cons frame stack ih =>
    have hframe : (frame.breakOff fault v).isFaulty = true := by cases frame <;> rfl
    exact ih hframe

theorem breakAt_faulty (fault : Fault) (stack : List Frame) (want : Want) :
    (breakAt fault stack want).Faulty := by
  cases want with
  | nothing v => exact .inr rfl
  | _ => exact breakOff_faulty rfl fault _

/-! ### Lexeme by lexeme -/

/-- What a lexeme has led to, when others come behind it. -/
def Progress.go (limit : Nat) (ls : List Lexeme) : Progress → Document
  | .goOn want stack => build limit want stack ls
  | .settled d => d

theorem build_cons (limit : Nat) (want : Want) (stack : List Frame) (l : Lexeme)
    (ls : List Lexeme) :
    build limit want stack (l :: ls) = (read limit want stack l).go limit ls := by
  rw [build]
  cases read limit want stack l <;> rfl

/-- A broken lexeme settles the document, and makes it faulty. -/
theorem read_broken (limit : Nat) (want : Want) (stack : List Frame) (fault : Fault)
    (asString : Bool) :
    ∃ d, read limit want stack (.broken fault asString) = .settled d ∧ d.Faulty := by
  cases want with
  | value => exact ⟨_, rfl, breakAt_faulty fault stack .value⟩
  | firstItem => exact ⟨_, rfl, breakAt_faulty fault (.array [] :: stack) .value⟩
  | firstName => cases asString <;> exact ⟨_, rfl, breakAt_faulty _ stack .firstName⟩
  | name fields => cases asString <;> exact ⟨_, rfl, breakAt_faulty _ stack (.name fields)⟩
  | afterItem items => exact ⟨_, rfl, breakAt_faulty .malformed stack (.afterItem items)⟩
  | colon fields name => exact ⟨_, rfl, breakAt_faulty .malformed stack (.colon fields name)⟩
  | afterField fields => exact ⟨_, rfl, breakAt_faulty .malformed stack (.afterField fields)⟩
  | nothing v => exact ⟨_, rfl, breakAt_faulty .malformed stack (.nothing v)⟩

/-- What stands behind a broken lexeme makes no difference. -/
theorem build_followed (limit : Nat) (want : Want) (stack : List Frame) (l : Lexeme)
    (ls : List Lexeme) :
    build limit want stack (followed l ls) = (read limit want stack l).go limit ls := by
  cases l with
  | broken fault asString =>
    obtain ⟨d, hread, -⟩ := read_broken limit want stack fault asString
    rw [followed, build_cons, hread]
    rfl
  | _ => exact build_cons limit want stack _ ls

/-- The document when a text comes. -/
def parse (limit : Nat) (want : Want) (stack : List Frame) (text : List Char) : Document :=
  build limit want stack (lexemesFrom .between text)

/-! ### Trees of values -/

namespace Value

mutual

/-- **The tree that a value is read as,** if it can be read. -/
def toJson : Value → Json
  | null => .null
  | bool b => .bool b
  | number n =>
    match n.value? with
    | some x => .number x
    | none => .broken .malformed
  | string s =>
    match s with
    | some s => .string s
    | none => .broken .malformed
  | array vs => .array (itemsToJson vs) none
  | object ms => .object (membersToJson ms) none

/-- The trees of the items of an array. -/
def itemsToJson : List Value → List Json
  | [] => []
  | v :: vs => toJson v :: itemsToJson vs

/-- The trees of the members of an object. -/
def membersToJson : List (Option String × Value) → List (String × Json)
  | [] => []
  | (name, v) :: ms => (name.getD "", toJson v) :: membersToJson ms

end

/-- **Sound values:** every string and every name stands for characters, and every numeral for a
number that is in range. -/
inductive Sound : Value → Prop where
  | null : Sound .null
  | bool (b : Bool) : Sound (.bool b)
  | number {n : Numeral} {x : Number} (range : n.value? = some x) : Sound (.number n)
  | string (s : String) : Sound (.string (some s))
  | array {vs : List Value} (items : ∀ v ∈ vs, Sound v) : Sound (.array vs)
  | object {ms : List (Option String × Value)} (names : ∀ m ∈ ms, m.1 ≠ none)
      (values : ∀ m ∈ ms, Sound m.2) : Sound (.object ms)

/-- **A value that can be read** inside `depth` arrays and objects, `limit` being allowed. -/
def Fits (limit depth : Nat) (v : Value) : Prop := v.Sound ∧ v.nesting ≤ limit - depth

theorem nestingOfItems_le_iff {vs : List Value} {n : Nat} :
    nestingOfItems vs ≤ n ↔ ∀ v ∈ vs, v.nesting ≤ n := by
  induction vs with
  | nil => simp [nestingOfItems]
  | cons v vs ih => rw [nestingOfItems, Nat.max_le, ih, List.forall_mem_cons]

theorem nestingOfMembers_le_iff {ms : List (Option String × Value)} {n : Nat} :
    nestingOfMembers ms ≤ n ↔ ∀ m ∈ ms, m.2.nesting ≤ n := by
  induction ms with
  | nil => simp [nestingOfMembers]
  | cons m ms ih => rw [nestingOfMembers, Nat.max_le, ih, List.forall_mem_cons]

theorem fits_scalar_iff {v : Value} (hv : v.nesting = 0) {limit depth : Nat} :
    v.Fits limit depth ↔ v.Sound := by
  rw [Fits, hv]
  exact and_iff_left (Nat.zero_le _)

/-- An array can be read where one more is allowed, if its items can be read inside it. -/
theorem fits_array_iff {vs : List Value} {limit depth : Nat} :
    (array vs).Fits limit depth ↔ depth < limit ∧ ∀ v ∈ vs, v.Fits limit (depth + 1) := by
  have hsound : (array vs).Sound ↔ ∀ v ∈ vs, v.Sound :=
    ⟨fun h => by cases h with | array items => exact items, .array⟩
  have hnesting : (array vs).nesting ≤ limit - depth ↔
      depth < limit ∧ ∀ v ∈ vs, v.nesting ≤ limit - (depth + 1) := by
    rw [nesting, ← nestingOfItems_le_iff]
    omega
  rw [Fits, hsound, hnesting, and_left_comm, ← forall₂_and]
  rfl

/-- An object can be read where one more is allowed, if its names stand for characters and its
values can be read inside it. -/
theorem fits_object_iff {ms : List (Option String × Value)} {limit depth : Nat} :
    (object ms).Fits limit depth ↔
      depth < limit ∧ ∀ m ∈ ms, m.1 ≠ none ∧ m.2.Fits limit (depth + 1) := by
  have hsound : (object ms).Sound ↔ (∀ m ∈ ms, m.1 ≠ none) ∧ ∀ m ∈ ms, m.2.Sound :=
    ⟨fun h => by cases h with | object names values => exact ⟨names, values⟩,
      fun h => .object h.1 h.2⟩
  have hnesting : (object ms).nesting ≤ limit - depth ↔
      depth < limit ∧ ∀ m ∈ ms, m.2.nesting ≤ limit - (depth + 1) := by
    rw [nesting, ← nestingOfMembers_le_iff]
    omega
  rw [Fits, hsound, hnesting, and_left_comm, and_assoc, ← forall₂_and, ← forall₂_and]
  rfl

end Value

/-! ### Parts of the grammar -/

/-- **A value is wanted** inside the given frames, be it the first one of an array or not. -/
inductive Wants : Want → List Frame → List Frame → Prop where
  | value (stack : List Frame) : Wants .value stack stack
  | firstItem (stack : List Frame) : Wants .firstItem stack (.array [] :: stack)

/-- **The name of a member is wanted** behind the given members, possibly none. -/
inductive WantsName : Want → List (String × Json) → Prop where
  | first : WantsName .firstName []
  | name (fields : List (String × Json)) : WantsName (.name fields) fields

/-- Where a value is wanted, a lexeme is read as the beginning of one. -/
theorem Wants.read_eq {want : Want} {stack frames : List Frame} (h : Wants want stack frames)
    {l : Lexeme} (hl : l ≠ .closeArray) (limit : Nat) :
    read limit want stack l = readValue limit frames l := by
  cases h with
  | value => cases l <;> rfl
  | firstItem =>
    cases l with
    | closeArray => exact absurd rfl hl
    | _ => rfl

theorem WantsName.read_eq {want : Want} {fields : List (String × Json)} (h : WantsName want fields)
    (name : String) (limit : Nat) (stack : List Frame) :
    read limit want stack (.string name) = .goOn (.colon fields name) stack := by
  cases h <;> rfl

/-- **What comes of a part of a text:** progress if it can be read, in front of `rest`, and a faulty
document otherwise. -/
structure Gives (fits : Prop) (limit : Nat) (p : Progress) (rest : List Char) (d : Document) :
    Prop where
  fit : fits → d = p.go limit (lexemesFrom .between rest)
  unfit : ¬ fits → d.Faulty

/-- **How a part of a text is read,** wherever such a part is wanted. -/
def Part.Parses (limit : Nat) (cs : List Char) : Part → Prop
  | .value v | .element v => ∀ {want stack frames}, Wants want stack frames →
      ∀ rest, Delimited rest →
        Gives (v.Fits limit frames.length) limit (complete v.toJson frames) rest
          (parse limit want stack (cs ++ rest))
  | .elements vs => ∀ {want stack done frames}, Wants want stack (.array done :: frames) →
      ∀ rest, Gives (∀ v ∈ vs, v.Fits limit (frames.length + 1)) limit
        (complete (.array (done.reverse ++ Value.itemsToJson vs) none) frames) rest
        (parse limit want stack (cs ++ ']' :: rest))
  | .member m => ∀ {want done}, WantsName want done → ∀ stack rest, Delimited rest →
      Gives (m.1 ≠ none ∧ m.2.Fits limit (stack.length + 1)) limit
        (.goOn (.afterField ((m.1.getD "", m.2.toJson) :: done)) stack) rest
        (parse limit want stack (cs ++ rest))
  | .members ms => ∀ {want done}, WantsName want done → ∀ stack rest,
      Gives (∀ m ∈ ms, m.1 ≠ none ∧ m.2.Fits limit (stack.length + 1)) limit
        (complete (.object (done.reverse ++ Value.membersToJson ms) none) stack) rest
        (parse limit want stack (cs ++ '\x7d' :: rest))

/-- Two parts that come one behind the other. -/
theorem Gives.andThen {fits fits' : Prop} {limit : Nat} {p p' : Progress} {rest rest' : List Char}
    {d : Document} (h : Gives fits limit p rest d)
    (h' : Gives fits' limit p' rest' (p.go limit (lexemesFrom .between rest))) :
    Gives (fits ∧ fits') limit p' rest' d := by
  refine ⟨?_, ?_⟩
  · rintro ⟨hfits, hfits'⟩
    rw [h.fit hfits, h'.fit hfits']
  · intro hunfit
    by_cases hfits : fits
    · rw [h.fit hfits]
      exact h'.unfit fun hfits' => hunfit ⟨hfits, hfits'⟩
    · exact h.unfit hfits

/-- Lexemes that come to the same thing wherever the part has been read. -/
theorem Gives.onward {fits : Prop} {limit : Nat} {p p' : Progress} {rest rest' : List Char}
    {d : Document} (h : Gives fits limit p rest d)
    (hgo : p.go limit (lexemesFrom .between rest) = p'.go limit (lexemesFrom .between rest')) :
    Gives fits limit p' rest' d :=
  ⟨fun hfits => (h.fit hfits).trans hgo, h.unfit⟩

theorem Gives.congr {fits fits' : Prop} {limit : Nat} {p : Progress} {rest : List Char}
    {d : Document} (h : Gives fits limit p rest d) (hiff : fits' ↔ fits) :
    Gives fits' limit p rest d :=
  ⟨fun hfits => h.fit (hiff.mp hfits), fun hunfit => h.unfit (mt hiff.mpr hunfit)⟩

theorem parse_blank {b : List Char} (h : Blank b) (limit : Nat) (want : Want)
    (stack : List Frame) (text : List Char) :
    parse limit want stack (b ++ text) = parse limit want stack text := by
  rw [parse, lexemesFrom_blank h, parse]

theorem delimited_cons {c : Char} (h : c ∈ [' ', '\t', '\n', '\r', ',', ']', '\x7d'])
    (text : List Char) : Delimited (c :: text) := by
  rintro d ⟨⟩
  exact h

theorem Delimited.blank {b rest : List Char} (hb : Blank b) (h : Delimited rest) :
    Delimited (b ++ rest) := by
  cases b with
  | nil => exact h
  | cons c b =>
    have hc : c ∈ [' ', '\t', '\n', '\r'] := hb c List.mem_cons_self
    exact delimited_cons (List.mem_append_left [',', ']', '\x7d'] hc) _

/-! ### Values without parts -/

/-- **The lexeme of a value without parts.** -/
inductive IsLexeme : Value → Lexeme → Prop where
  | null : IsLexeme .null .null
  | bool (b : Bool) : IsLexeme (.bool b) (.bool b)
  | number (n : Numeral) : IsLexeme (.number n) (numeralLexeme n)
  | string (s : Option String) : IsLexeme (.string s) (stringLexeme s)

theorem IsLexeme.nesting_eq {v : Value} {l : Lexeme} (h : IsLexeme v l) : v.nesting = 0 := by
  cases h <;> rfl

/-- A sound value without parts is read from its lexeme; the lexeme of any other is broken. -/
theorem IsLexeme.sound_or_broken {v : Value} {l : Lexeme} (h : IsLexeme v l) :
    (v.Sound ∧ l ≠ .closeArray ∧
        ∀ limit stack, readValue limit stack l = complete v.toJson stack) ∨
      ¬ v.Sound ∧ ∃ fault asString, l = .broken fault asString := by
  cases h with
  | null => exact .inl ⟨.null, by rintro ⟨⟩, fun _ _ => rfl⟩
  | bool b => exact .inl ⟨.bool b, by rintro ⟨⟩, fun _ _ => rfl⟩
  | number n =>
    unfold numeralLexeme
    cases hn : n.value? with
    | some x =>
      -- a number within range
      refine .inl ⟨.number hn, by rintro ⟨⟩, ?_⟩
      intro limit stack
      rw [Value.toJson, hn]
      rfl
    | none =>
      -- one out of range is not sound, and its lexeme is broken
      refine .inr ⟨?_, _, _, rfl⟩
      intro hsound
      cases hsound with
      | number range =>
        rw [hn] at range
        cases range
  | string s =>
    cases s with
    | some s =>
      refine .inl ⟨.string s, by rintro ⟨⟩, ?_⟩
      intro limit stack
      rw [Value.toJson]
      rfl
    | none =>
      -- neither is a string that stands for no characters
      exact .inr ⟨by rintro ⟨⟩, _, _, rfl⟩

/-- A value without parts. -/
theorem IsLexeme.parses {v : Value} {l : Lexeme} (h : IsLexeme v l) {cs : List Char}
    (hcs : ∀ rest, Delimited rest →
      lexemesFrom .between (cs ++ rest) = followed l (lexemesFrom .between rest)) (limit : Nat) :
    (Part.value v).Parses limit cs := by
  intro want stack frames hwants rest hrest
  refine Gives.congr ?_ (Value.fits_scalar_iff h.nesting_eq)
  rw [parse, hcs rest hrest, build_followed]
  -- a broken lexeme settles the document, whatever stands behind the value
  obtain ⟨hsound, hl, hread⟩ | ⟨hunsound, fault, asString, rfl⟩ := h.sound_or_broken
  · refine ⟨?_, fun hunsound => absurd hsound hunsound⟩
    intro _
    rw [hwants.read_eq hl, hread]
  · refine ⟨fun hsound => absurd hsound hunsound, ?_⟩
    intro _
    obtain ⟨d, hread, hfaulty⟩ := read_broken limit want stack fault asString
    rw [hread]
    exact hfaulty

/-! ### Arrays and objects

Arrays and objects are read alike. They differ in their brackets and in what is wanted behind them,
which `Brackets` and `Behind` list. -/

/-- **The brackets of an array and of an object,** with what is wanted behind the opening one and
the value that has nothing inside. -/
inductive Brackets : Char → Char → Want → Value → Prop where
  | array : Brackets '[' ']' .firstItem (.array [])
  | object : Brackets '\x7b' '\x7d' .firstName (.object [])

namespace Brackets

variable {opening closing : Char} {first : Want} {empty v : Value} {limit : Nat} {cs b : List Char}

/-- **A bracket opens a value** where one more is allowed; elsewhere the value breaks off there. -/
theorem exists_lexeme (h : Brackets opening closing first empty) :
    ∃ l, l ≠ .closeArray ∧
      (∀ text, lexemesFrom .between (opening :: text) = l :: lexemesFrom .between text) ∧
      ∀ limit stack, (stack.length < limit → readValue limit stack l = .goOn first stack) ∧
        (¬ stack.length < limit → ∃ d, readValue limit stack l = .settled d ∧ d.Faulty) := by
  cases h with
  | array =>
    exact ⟨.openArray, by decide, fun _ => rfl, fun _ _ =>
      ⟨fun hlt => if_pos hlt, fun hle => ⟨_, if_neg hle, breakOff_faulty rfl _ _⟩⟩⟩
  | object =>
    exact ⟨.openObject, by decide, fun _ => rfl, fun _ _ =>
      ⟨fun hlt => if_pos hlt, fun hle => ⟨_, if_neg hle, breakOff_faulty rfl _ _⟩⟩⟩

/-- **What stands in brackets** is read inside of them, if it is read at all. -/
theorem parses (h : Brackets opening closing first empty) {inside : Nat → Prop}
    (hfits : ∀ depth, v.Fits limit depth ↔ depth < limit ∧ inside depth)
    (parts : ∀ frames rest, Gives (inside frames.length) limit (complete v.toJson frames) rest
      (parse limit first frames (cs ++ closing :: rest))) :
    (Part.value v).Parses limit (opening :: (cs ++ [closing])) := by
  intro want stack frames hwants rest _
  obtain ⟨l, hl, hlexemes, hread⟩ := h.exists_lexeme
  rw [List.cons_append, List.append_assoc]
  refine Gives.congr ?_ (hfits frames.length)
  rw [parse, hlexemes, build_cons, hwants.read_eq hl]
  by_cases hlt : frames.length < limit
  · -- one more is allowed, and what is left depends on the parts alone
    rw [(hread limit frames).1 hlt]
    exact (parts frames rest).congr (and_iff_right hlt)
  · -- one too many: broken right behind the bracket
    obtain ⟨d, hd, hfaulty⟩ := (hread limit frames).2 hlt
    rw [hd]
    exact ⟨fun h => absurd h.1 hlt, fun _ => hfaulty⟩

/-- Brackets with nothing between them. -/
theorem parses_empty (h : Brackets opening closing first empty) (hb : Blank b) (limit : Nat) :
    (Part.value empty).Parses limit (opening :: (b ++ [closing])) := by
  have hfits : ∀ depth, empty.Fits limit depth ↔ depth < limit ∧ True := by
    intro depth
    cases h with
    | array => exact Value.fits_array_iff.trans (and_congr_right' (by simp))
    | object => exact Value.fits_object_iff.trans (and_congr_right' (by simp))
  have hparts : ∀ frames rest, Gives True limit (complete empty.toJson frames) rest
      (parse limit first frames (b ++ closing :: rest)) := by
    intro frames rest
    refine ⟨fun _ => ?_, fun hnot => absurd trivial hnot⟩
    rw [parse_blank hb]
    cases h with
    | array => exact build_cons limit .firstItem frames .closeArray _
    | object => exact build_cons limit .firstName frames .closeObject _
  intro want stack frames
  exact h.parses hfits hparts

end Brackets

/-- **Behind an item or a member:** the bracket that closes, what comes of it, and what comes of a
comma instead. -/
inductive Behind : Progress → Char → Progress → Progress → Prop where
  | item (items : List Json) (stack : List Frame) :
      Behind (.goOn (.afterItem items) stack) ']' (complete (.array items.reverse none) stack)
        (.goOn .value (.array items :: stack))
  | member (fields : List (String × Json)) (stack : List Frame) :
      Behind (.goOn (.afterField fields) stack) '\x7d'
        (complete (.object fields.reverse none) stack) (.goOn (.name fields) stack)

namespace Behind

variable {p closed next : Progress} {closing : Char}

theorem go_closing (h : Behind p closing closed next) (limit : Nat) (rest : List Char) :
    p.go limit (lexemesFrom .between (closing :: rest)) =
      closed.go limit (lexemesFrom .between rest) := by
  cases h with
  | item items stack => exact build_cons limit (.afterItem items) stack .closeArray _
  | member fields stack => exact build_cons limit (.afterField fields) stack .closeObject _

theorem go_comma (h : Behind p closing closed next) (limit : Nat) (text : List Char) :
    p.go limit (lexemesFrom .between (',' :: text)) =
      next.go limit (lexemesFrom .between text) := by
  cases h with
  | item items stack => exact build_cons limit (.afterItem items) stack .comma _
  | member fields stack => exact build_cons limit (.afterField fields) stack .comma _

theorem delimited (h : Behind p closing closed next) (rest : List Char) :
    Delimited (closing :: rest) := by
  cases h <;> exact delimited_cons (by decide) rest

variable {limit : Nat} {want : Want} {stack : List Frame} {cs ds rest : List Char}
  {fits fits' : Prop}

/-- **The last part:** the bracket closes behind it. -/
theorem last (h : Behind p closing closed next)
    (part : ∀ rest, Delimited rest →
      Gives fits limit p rest (parse limit want stack (cs ++ rest))) :
    Gives fits limit closed rest (parse limit want stack (cs ++ closing :: rest)) :=
  (part _ (h.delimited rest)).onward (h.go_closing limit rest)

/-- **A part with others to follow:** a comma stands behind it. -/
theorem more (h : Behind p closing closed next) {q : Progress}
    (part : ∀ rest, Delimited rest →
      Gives fits limit p rest (parse limit want stack (cs ++ rest)))
    (onward : Gives fits' limit q rest
      (next.go limit (lexemesFrom .between (ds ++ closing :: rest)))) :
    Gives (fits ∧ fits') limit q rest
      (parse limit want stack (cs ++ ',' :: ds ++ closing :: rest)) := by
  have hpart := part _ (delimited_cons (c := ',') (by decide) (ds ++ closing :: rest))
  rw [List.append_assoc]
  refine hpart.andThen ?_
  rw [h.go_comma]
  exact onward

end Behind

/-! ### Arrays -/

theorem parses_array {cs : List Char} {vs : List Value} {limit : Nat}
    (items : (Part.elements vs).Parses limit cs) :
    (Part.value (.array vs)).Parses limit ('[' :: (cs ++ [']'])) :=
  Brackets.array.parses (fun _ => Value.fits_array_iff) fun frames rest =>
    items (.firstItem frames) rest

theorem parses_one {cs : List Char} {v : Value} {limit : Nat}
    (last : (Part.element v).Parses limit cs) : (Part.elements [v]).Parses limit cs := by
  intro want stack done frames hwants rest
  have hbehind := Behind.item (v.toJson :: done) frames
  rw [List.reverse_cons] at hbehind
  exact (hbehind.last (last hwants)).congr List.forall_mem_singleton

theorem parses_more {cs ds : List Char} {v : Value} {vs : List Value} {limit : Nat}
    (first : (Part.element v).Parses limit cs) (onward : (Part.elements vs).Parses limit ds) :
    (Part.elements (v :: vs)).Parses limit (cs ++ ',' :: ds) := by
  intro want stack done frames hwants rest
  have honward := onward (.value (.array (v.toJson :: done) :: frames)) rest
  rw [List.reverse_cons, ← List.append_cons] at honward
  have hbehind := Behind.item (v.toJson :: done) frames
  exact (hbehind.more (first hwants) honward).congr List.forall_mem_cons

/-! ### Objects -/

theorem parses_object {cs : List Char} {ms : List (Option String × Value)} {limit : Nat}
    (fields : (Part.members ms).Parses limit cs) :
    (Part.value (.object ms)).Parses limit ('\x7b' :: (cs ++ ['\x7d'])) :=
  Brackets.object.parses (fun _ => Value.fits_object_iff) fun frames rest =>
    fields .first frames rest

/-- A member: its name, a colon, and its value, which is read inside the object. -/
theorem parses_member {b b' cs ds : List Char} {ns : List Nat} {v : Value} {limit : Nat}
    (front : Blank b) (name : StringText cs ns) (back : Blank b')
    (value : (Part.element v).Parses limit ds) :
    (Part.member (string? ns, v)).Parses limit
      (b ++ '"' :: (cs ++ '"' :: (b' ++ ':' :: ds))) := by
  intro want done hwants stack rest hrest
  have htext : b ++ '"' :: (cs ++ '"' :: (b' ++ ':' :: ds)) ++ rest =
      b ++ ('"' :: (cs ++ '"' :: (b' ++ ':' :: (ds ++ rest)))) := by simp
  rw [htext, parse_blank front, parse, lexemesFrom_string name, build_followed]
  -- a name that does not stand for characters is a fault by itself
  cases string? ns with
  | none =>
    refine ⟨fun h => absurd rfl h.1, ?_⟩
    intro _
    obtain ⟨d, hread, hfaulty⟩ := read_broken limit want stack .malformed true
    rw [stringLexeme, hread]
    exact hfaulty
  | some name =>
    -- behind the name the colon, and then the value inside the object
    have hcolon : build limit (.colon done name) stack
        (lexemesFrom .between (b' ++ ':' :: (ds ++ rest))) =
          parse limit .value (.object done name :: stack) (ds ++ rest) := by
      rw [lexemesFrom_blank back]
      exact build_cons limit (.colon done name) stack .colon _
    rw [stringLexeme, hwants.read_eq, Progress.go, hcolon]
    have hvalue := value (.value (.object done name :: stack)) rest hrest
    exact hvalue.congr (and_iff_right (Option.some_ne_none name))

theorem parses_oneMember {cs : List Char} {m : Option String × Value} {limit : Nat}
    (last : (Part.member m).Parses limit cs) : (Part.members [m]).Parses limit cs := by
  intro want done hwants stack rest
  have hbehind := Behind.member ((m.1.getD "", m.2.toJson) :: done) stack
  rw [List.reverse_cons] at hbehind
  exact (hbehind.last (last hwants stack)).congr List.forall_mem_singleton

theorem parses_moreMembers {cs ds : List Char} {m : Option String × Value}
    {ms : List (Option String × Value)} {limit : Nat} (first : (Part.member m).Parses limit cs)
    (onward : (Part.members ms).Parses limit ds) :
    (Part.members (m :: ms)).Parses limit (cs ++ ',' :: ds) := by
  intro want done hwants stack rest
  have honward := onward (.name ((m.1.getD "", m.2.toJson) :: done)) stack rest
  rw [List.reverse_cons, ← List.append_cons] at honward
  have hbehind := Behind.member ((m.1.getD "", m.2.toJson) :: done) stack
  exact (hbehind.more (first hwants stack) honward).congr List.forall_mem_cons

/-! ### Texts -/

/-- **Every text of the grammar is read as what it writes,** or as a faulty document. -/
theorem Writes.parses {cs : List Char} {part : Part} (h : Writes cs part) (limit : Nat) :
    part.Parses limit cs := by
  induction h with
  | null => exact IsLexeme.null.parses (fun rest _ => lexemesFrom_null rest) limit
  | yes => exact (IsLexeme.bool true).parses (fun rest _ => lexemesFrom_true rest) limit
  | no => exact (IsLexeme.bool false).parses (fun rest _ => lexemesFrom_false rest) limit
  | number numeral =>
    exact (IsLexeme.number _).parses (fun rest hrest => lexemesFrom_numeral numeral hrest) limit
  | @string cs ns text =>
    refine (IsLexeme.string _).parses ?_ limit
    intro rest _
    rw [List.cons_append, List.append_assoc]
    exact lexemesFrom_string text rest
  | emptyArray blank => exact Brackets.array.parses_empty blank limit
  | array items ih => exact parses_array ih
  | emptyObject blank => exact Brackets.object.parses_empty blank limit
  | object fields ih => exact parses_object ih
  | element front value back ih =>
    intro want stack frames hwants rest hrest
    -- blanks before a lexeme are passed over, and so are those behind the value
    have hvalue := ih hwants _ (hrest.blank back)
    rw [List.append_assoc, List.append_assoc, parse_blank front]
    refine hvalue.onward ?_
    rw [lexemesFrom_blank back]
  | one last ih => exact parses_one ih
  | more first onward ih ih' => exact parses_more ih ih'
  | member front name back value ih => exact parses_member front name back ih
  | oneMember last ih => exact parses_oneMember ih
  | moreMembers first onward ih ih' => exact parses_moreMembers ih ih'

/-- **A whole text:** it is read as its value, with nothing behind it, if the value is sound and not
nested too deeply; otherwise it is a faulty document. -/
theorem Value.Document.ofText {v : Value} {text : String} (h : v.Document text) (limit : Nat) :
    (v.Sound ∧ v.nesting ≤ limit → Document.ofText limit text.toList = ⟨v.toJson, none⟩) ∧
      (¬ (v.Sound ∧ v.nesting ≤ limit) → (Document.ofText limit text.toList).Faulty) := by
  -- no frames are open, and nothing follows
  have hgives := Writes.parses h limit (.value []) [] (by rintro c ⟨⟩)
  rw [List.append_nil] at hgives
  exact ⟨hgives.fit, hgives.unfit⟩

end InlineMarkup.Json
