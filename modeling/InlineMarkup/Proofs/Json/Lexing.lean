import Mathlib.Tactic.IntervalCases
import InlineMarkup.Json.Lexeme
import InlineMarkup.Proofs.Json.Standard

/-!
# Cutting the texts of JSON into lexemes

`lexemesFrom` goes over a text once, character by character. Where the text is white space, a word,
a numeral or a string of the grammar, it passes over that part and has made up its lexeme:
`lexemesFrom_blank`, `lexemesFrom_null` and its like, `lexemesFrom_numeral`, `lexemesFrom_string`.

Two sorts of parts conform to the grammar and have no proper lexeme all the same: a numeral beyond
every finite number, and a string that names half a character. Their lexeme is broken, and nothing
is read behind it (`followed`).
-/

namespace InlineMarkup.Json

/-! ### Blanks and words -/

/-- White space is passed over. -/
theorem lexemesFrom_blank {b : List Char} (h : Blank b) (text : List Char) :
    lexemesFrom .between (b ++ text) = lexemesFrom .between text := by
  induction b with
  | nil => rfl
  | cons c b ih =>
    have hc : c ∈ [' ', '\t', '\n', '\r'] := h c List.mem_cons_self
    have hstep : step .between c = ([], .between) := by
      simp only [List.mem_cons, List.not_mem_nil, or_false] at hc
      rcases hc with rfl | rfl | rfl | rfl <;> rfl
    rw [List.cons_append, lexemesFrom, hstep]
    exact ih fun c hc => h c (List.mem_cons_of_mem _ hc)

theorem lexemesFrom_null (text : List Char) :
    lexemesFrom .between ("null".toList ++ text) = .null :: lexemesFrom .between text := rfl

theorem lexemesFrom_true (text : List Char) :
    lexemesFrom .between ("true".toList ++ text) = .bool true :: lexemesFrom .between text := rfl

theorem lexemesFrom_false (text : List Char) :
    lexemesFrom .between ("false".toList ++ text) = .bool false :: lexemesFrom .between text := rfl

/-! ### Broken lexemes -/

/-- Nothing is read behind a broken lexeme. -/
theorem lexemesFrom_stopped (text : List Char) : lexemesFrom .stopped text = [] := by
  induction text with
  | nil => rfl
  | cons c cs ih =>
    rw [lexemesFrom, step, ih]
    rfl

/-- **A lexeme and those behind it,** of which there are none if it is broken. -/
def followed (l : Lexeme) (ls : List Lexeme) : List Lexeme :=
  match l with
  | .broken fault asString => [.broken fault asString]
  | l => l :: ls

/-- The lexeme of a numeral; broken if it is out of range. -/
def numeralLexeme (n : Numeral) : Lexeme :=
  match n.value? with
  | some v => .number v
  | none => .broken .malformed false

/-- The lexeme of a string; broken if it does not stand for characters. -/
def stringLexeme : Option String → Lexeme
  | some s => .string s
  | none => .broken .malformed true

/-! ### Numerals -/

/-- **The end of a value:** what follows it in a document is white space, a comma, a closing
bracket, or nothing. -/
def Delimited (rest : List Char) : Prop :=
  ∀ c, rest.head? = some c → c ∈ [' ', '\t', '\n', '\r', ',', ']', '\x7d']

theorem digit?_digitChar : ∀ d < 10, digit? (Nat.digitChar d) = some d := by decide

/-- A character that goes on with a numeral. -/
theorem lexemesFrom_push {stage stage' : Stage} {n n' : Numeral} {c : Char}
    (h : n.push? stage c = some (stage', n')) (text : List Char) :
    lexemesFrom (.numeral stage n) (c :: text) = lexemesFrom (.numeral stage' n') text := by
  rw [lexemesFrom, step, h]
  rfl

/-- **A run of digits** goes to the part of the numeral that the stage is about, in reverse. -/
theorem lexemesFrom_digits {stage : Stage} {made : List Nat → Numeral}
    (hpush : ∀ ds d, d < 10 →
      (made ds).push? stage (Nat.digitChar d) = some (stage, made (d :: ds)))
    {ds : List Nat} (h : ∀ d ∈ ds, d < 10) (before : List Nat) (text : List Char) :
    lexemesFrom (.numeral stage (made before)) (ds.map Nat.digitChar ++ text) =
      lexemesFrom (.numeral stage (made (ds.reverse ++ before))) text := by
  induction ds generalizing before with
  | nil => rfl
  | cons d ds ih =>
    have hd : d < 10 := h d List.mem_cons_self
    -- the first digit is put in front of those that were collected
    rw [List.map_cons, List.cons_append, lexemesFrom_push (hpush before d hd),
      ih fun d hd => h d (List.mem_cons_of_mem _ hd), List.reverse_cons, List.append_assoc,
      List.singleton_append]

/-- The digits before the point, behind the sign of the numeral or at its very beginning. -/
theorem lexemesFrom_whole {negative : Bool} {cs : List Char} {ds : List Nat} (h : Digits cs ds)
    (zero : ds.head? = some 0 → ds = [0]) :
    ∃ stage, (stage = .zero ∨ stage = .whole) ∧ ∀ text,
      lexemesFrom .between ((if negative then ['-'] else []) ++ (cs ++ text)) =
        lexemesFrom (.numeral stage ⟨negative, ds.reverse, none, none⟩) text := by
  obtain ⟨hne, hlt, rfl⟩ := h
  obtain ⟨d, ds, rfl⟩ := List.exists_cons_of_ne_nil hne
  have hd : d < 10 := hlt d List.mem_cons_self
  -- the first digit, which tells whether others may follow
  have hfirst : ∀ text, lexemesFrom .between
      ((if negative then ['-'] else []) ++ Nat.digitChar d :: text) =
        lexemesFrom (.numeral (if d = 0 then .zero else .whole) ⟨negative, [d], none, none⟩)
          text := by
    intro text
    cases negative with
    | true =>
      -- behind the sign the first digit goes on with the numeral
      have hsign : lexemesFrom .between ('-' :: Nat.digitChar d :: text) =
          lexemesFrom (.numeral .sign ⟨true, [], none, none⟩) (Nat.digitChar d :: text) := rfl
      rw [if_pos rfl, List.singleton_append, hsign]
      refine lexemesFrom_push ?_ text
      interval_cases d <;> rfl
    | false =>
      -- without a sign it begins the numeral
      have hbegin : step .between (Nat.digitChar d) =
          ([], .numeral (if d = 0 then .zero else .whole) ⟨false, [d], none, none⟩) := by
        interval_cases d <;> rfl
      rw [if_neg Bool.false_ne_true, List.nil_append, lexemesFrom, hbegin]
      rfl
  -- no digit follows a zero at the front
  by_cases h0 : d = 0
  · subst h0
    obtain rfl : ds = [] := (List.cons.inj (zero rfl)).2
    exact ⟨.zero, .inl rfl, hfirst⟩
  · refine ⟨.whole, .inr rfl, ?_⟩
    intro text
    have hpush : ∀ ds d, d < 10 → (⟨negative, ds, none, none⟩ : Numeral).push? .whole
        (Nat.digitChar d) = some (.whole, ⟨negative, d :: ds, none, none⟩) := by
      intro ds d hd
      unfold Numeral.push?
      rw [digit?_digitChar d hd]
    rw [List.map_cons, List.cons_append, hfirst, if_neg h0,
      lexemesFrom_digits hpush fun d hd => hlt d (List.mem_cons_of_mem _ hd), List.reverse_cons]

/-- The digits behind the point. -/
theorem lexemesFrom_fraction {stage : Stage} (hstage : stage = .zero ∨ stage = .whole)
    {n : Numeral} {cs : List Char} {fraction : Option (List Nat)} (h : FractionText cs fraction)
    (hn : n.fraction = none) :
    ∃ stage', (stage' = .zero ∨ stage' = .whole ∨ stage' = .fraction) ∧ ∀ text,
      lexemesFrom (.numeral stage n) (cs ++ text) =
        lexemesFrom (.numeral stage' { n with fraction := fraction.map List.reverse }) text := by
  cases h with
  | absent =>
    -- nothing is read, and the stage stays
    have hsame : { n with fraction := none } = n := by rw [← hn]
    refine ⟨stage, hstage.imp_right .inl, ?_⟩
    intro text
    rw [Option.map_none, hsame]
    rfl
  | @present cs ds digits =>
    obtain ⟨hne, hlt, rfl⟩ := digits
    obtain ⟨d, ds, rfl⟩ := List.exists_cons_of_ne_nil hne
    have hd : d < 10 := hlt d List.mem_cons_self
    -- the point, the first digit behind it, and the digits after that one
    have hpoint : n.push? stage '.' = some (.point, n) := by
      rcases hstage with rfl | rfl <;> rfl
    have hfirst : n.push? .point (Nat.digitChar d) =
        some (.fraction, { n with fraction := some [d] }) := by
      unfold Numeral.push?
      rw [digit?_digitChar d hd]
    have hpush : ∀ ds d, d < 10 → ({ n with fraction := some ds } : Numeral).push? .fraction
        (Nat.digitChar d) = some (.fraction, { n with fraction := some (d :: ds) }) := by
      intro ds d hd
      unfold Numeral.push?
      rw [digit?_digitChar d hd]
      rfl
    refine ⟨.fraction, .inr (.inr rfl), ?_⟩
    intro text
    rw [List.cons_append, lexemesFrom_push hpoint, List.map_cons, List.cons_append,
      lexemesFrom_push hfirst,
      lexemesFrom_digits hpush fun d hd => hlt d (List.mem_cons_of_mem _ hd), Option.map_some,
      List.reverse_cons]

/-- The digits of an exponent, behind its mark and its sign. -/
theorem lexemesFrom_power {stage : Stage} (hstage : stage = .mark ∨ stage = .markSign)
    {n : Numeral} {negative : Bool} (hn : n.exponent = some (negative, [])) {cs : List Char}
    {ds : List Nat} (h : Digits cs ds) (text : List Char) :
    lexemesFrom (.numeral stage n) (cs ++ text) =
      lexemesFrom (.numeral .exponent { n with exponent := some (negative, ds.reverse) }) text := by
  obtain ⟨hne, hlt, rfl⟩ := h
  obtain ⟨d, ds, rfl⟩ := List.exists_cons_of_ne_nil hne
  have hd : d < 10 := hlt d List.mem_cons_self
  -- the first digit leaves the mark or the sign behind, and the others go on
  have hfirst : n.push? stage (Nat.digitChar d) =
      some (.exponent, { n with exponent := some (negative, [d]) }) := by
    unfold Numeral.push?
    rw [digit?_digitChar d hd]
    rcases hstage with rfl | rfl <;> simp only [hn, Option.map_some]
  have hpush : ∀ ds d, d < 10 →
      ({ n with exponent := some (negative, ds) } : Numeral).push? .exponent (Nat.digitChar d) =
        some (.exponent, { n with exponent := some (negative, d :: ds) }) := by
    intro ds d hd
    unfold Numeral.push?
    rw [digit?_digitChar d hd]
    rfl
  rw [List.map_cons, List.cons_append, lexemesFrom_push hfirst,
    lexemesFrom_digits hpush fun d hd => hlt d (List.mem_cons_of_mem _ hd), List.reverse_cons]

/-- The exponent. -/
theorem lexemesFrom_exponent {stage : Stage}
    (hstage : stage = .zero ∨ stage = .whole ∨ stage = .fraction) {n : Numeral} {cs : List Char}
    {exponent : Option (Bool × List Nat)} (h : ExponentText cs exponent)
    (hn : n.exponent = none) :
    ∃ stage', stage'.isFinal = true ∧ ∀ text,
      lexemesFrom (.numeral stage n) (cs ++ text) =
        lexemesFrom (.numeral stage'
          { n with exponent := exponent.map fun (s, ds) => (s, ds.reverse) }) text := by
  have hmark : ∀ {mark : Char}, mark = 'e' ∨ mark = 'E' →
      n.push? stage mark = some (.mark, { n with exponent := some (false, []) }) := by
    rintro mark (rfl | rfl) <;> rcases hstage with rfl | rfl | rfl <;> rfl
  cases h with
  | absent =>
    -- a numeral may end at all of these stages
    have hsame : { n with exponent := none } = n := by rw [← hn]
    refine ⟨stage, ?_, ?_⟩
    · rcases hstage with rfl | rfl | rfl <;> rfl
    · intro text
      rw [Option.map_none, hsame]
      rfl
  | unsigned marks digits =>
    refine ⟨.exponent, rfl, ?_⟩
    intro text
    rw [List.cons_append, lexemesFrom_push (hmark marks), lexemesFrom_power (.inl rfl) rfl digits]
    rfl
  | plus marks digits =>
    refine ⟨.exponent, rfl, ?_⟩
    intro text
    -- the sign plus changes nothing but the stage
    have hplus : ({ n with exponent := some (false, []) } : Numeral).push? .mark '+' =
        some (.markSign, { n with exponent := some (false, []) }) := rfl
    rw [List.cons_append, lexemesFrom_push (hmark marks), List.cons_append,
      lexemesFrom_push hplus, lexemesFrom_power (.inr rfl) rfl digits]
    rfl
  | minus marks digits =>
    refine ⟨.exponent, rfl, ?_⟩
    intro text
    have hminus : ({ n with exponent := some (false, []) } : Numeral).push? .mark '-' =
        some (.markSign, { n with exponent := some (true, []) }) := rfl
    rw [List.cons_append, lexemesFrom_push (hmark marks), List.cons_append,
      lexemesFrom_push hminus, lexemesFrom_power (.inr rfl) rfl digits]
    rfl

/-- A numeral ends where something stands that may follow a value. -/
theorem lexemesFrom_numeral_end {stage : Stage} (hfinal : stage.isFinal = true) (n : Numeral)
    {rest : List Char} (hrest : Delimited rest) :
    lexemesFrom (.numeral stage n) rest = followed n.lexeme (lexemesFrom .between rest) := by
  cases rest with
  | nil =>
    rw [lexemesFrom, finish, if_pos hfinal]
    cases n.lexeme <;> rfl
  | cons c cs =>
    have hc := hrest c rfl
    -- what ends a value neither goes on with a numeral nor is a digit
    have hpush : n.push? stage c = none := by
      simp only [List.mem_cons, List.not_mem_nil, or_false] at hc
      rcases hc with rfl | rfl | rfl | rfl | rfl | rfl | rfl <;> cases stage <;> rfl
    have hdigit : ¬ c.isDigit := by
      simp only [List.mem_cons, List.not_mem_nil, or_false] at hc
      rcases hc with rfl | rfl | rfl | rfl | rfl | rfl | rfl <;> decide
    rw [lexemesFrom, step, hpush]
    dsimp only
    rw [if_pos ⟨hfinal, fun h => hdigit h.2⟩]
    -- the character is read as one between lexemes unless the numeral is out of range
    cases n.lexeme with
    | broken fault asString =>
      exact congrArg (Lexeme.broken fault asString :: ·) (lexemesFrom_stopped cs)
    | _ => rfl

/-- **A numeral is cut off** as a whole. -/
theorem lexemesFrom_numeral {cs : List Char} {n : Numeral} (h : NumeralText cs n)
    {rest : List Char} (hrest : Delimited rest) :
    lexemesFrom .between (cs ++ rest) = followed (numeralLexeme n) (lexemesFrom .between rest) := by
  cases h with
  | @intro negative cs fs es ds fraction exponent whole zero fractionText exponentText =>
    obtain ⟨stage, hstage, hwhole⟩ := @lexemesFrom_whole negative _ _ whole zero
    obtain ⟨stage', hstage', hfraction⟩ :=
      lexemesFrom_fraction (n := ⟨negative, ds.reverse, none, none⟩) hstage fractionText rfl
    obtain ⟨stage'', hfinal, hexponent⟩ := lexemesFrom_exponent
      (n := ⟨negative, ds.reverse, fraction.map List.reverse, none⟩) hstage' exponentText rfl
    -- what has been collected in reverse is the numeral
    have horder : (⟨negative, ds.reverse, fraction.map List.reverse,
        exponent.map fun (s, ds) => (s, ds.reverse)⟩ : Numeral).inOrder =
          ⟨negative, ds, fraction, exponent⟩ := by
      simp [Numeral.inOrder, Function.comp_def]
    rw [List.append_assoc, List.append_assoc, List.append_assoc, hwhole, hfraction, hexponent,
      lexemesFrom_numeral_end hfinal _ hrest, Numeral.lexeme, horder]
    rfl

/-! ### Strings -/

/-- The value of a digit of base sixteen is found. -/
theorem HexDigit.hexValue?_eq {c : Char} {n : Nat} (h : HexDigit c n) : hexValue? c = some n := by
  have hn : n < 16 := by
    rcases h with h | h
    · exact (List.getElem?_eq_some_iff.mp h).1
    · exact (List.getElem?_eq_some_iff.mp h).1
  rcases h with h | h <;> interval_cases n <;> obtain rfl := Option.some.inj h <;> rfl

/-- A letter that stands for a character is read as that character. It is not the one in front of a
number, and the character is not half of another one. -/
theorem escaped?_of_mem {e c : Char} (h : (e, c) ∈ escapes) :
    escaped? e = some c ∧ e ≠ 'u' ∧ ¬ IsLow c.toNat := by
  simp only [escapes, List.mem_cons, List.not_mem_nil, or_false, Prod.mk.injEq] at h
  rcases h with ⟨rfl, rfl⟩ | ⟨rfl, rfl⟩ | ⟨rfl, rfl⟩ | ⟨rfl, rfl⟩ | ⟨rfl, rfl⟩ | ⟨rfl, rfl⟩ |
    ⟨rfl, rfl⟩ | ⟨rfl, rfl⟩ <;> decide

theorem isHighHalf_iff {n : Nat} : isHighHalf n = true ↔ IsHigh n := by
  simp [isHighHalf, IsHigh]

theorem isLowHalf_iff {n : Nat} : isLowHalf n = true ↔ IsLow n := by
  simp [isLowHalf, IsLow]

/-- No character is half of another one. -/
theorem not_half (c : Char) : ¬ IsHigh c.toNat ∧ ¬ IsLow c.toNat := by
  have hvalid : c.toNat < 0xD800 ∨ 0xDFFF < c.toNat ∧ c.toNat < 0x110000 := c.valid
  unfold IsHigh IsLow
  omega

/-- A number that is not the half of a character stands for a character by itself. -/
theorem characters?_cons {n : Nat} (hhigh : ¬ IsHigh n) (hlow : ¬ IsLow n) (ns : List Nat) :
    characters? (n :: ns) = (characters? ns).map (Char.ofNat n :: ·) := by
  have hhalf : ¬ (IsHigh n ∨ IsLow n) := not_or.mpr ⟨hhigh, hlow⟩
  cases ns with
  | nil => simp only [characters?, if_neg hhalf, Option.map_some]
  | cons m ns => rw [characters?, if_neg fun h => hhigh h.1, if_neg hhalf]

/-- The first half of a character that is not followed by the second one stands for nothing. -/
theorem characters?_high {n : Nat} (hhigh : IsHigh n) {ns : List Nat}
    (halone : ∀ m, ns.head? = some m → ¬ IsLow m) : characters? (n :: ns) = none := by
  cases ns with
  | nil => rw [characters?, if_pos (.inl hhigh)]
  | cons m ns => rw [characters?, if_neg fun h => halone m rfl h.2, if_pos (.inl hhigh)]

/-- The second half of a character, with no first half before it, stands for nothing. -/
theorem characters?_low {n : Nat} (hlow : IsLow n) (ns : List Nat) :
    characters? (n :: ns) = none := by
  have hhigh : ¬ IsHigh n := by
    unfold IsHigh
    unfold IsLow at hlow
    omega
  cases ns with
  | nil => rw [characters?, if_pos (.inr hlow)]
  | cons m ns => rw [characters?, if_neg fun h => hhigh h.1, if_pos (.inr hlow)]

/-- A digit of a number in a string that is not the last one. -/
theorem lexemesFrom_hexDigit {c : Char} {n : Nat} (h : HexDigit c n) (chars : List Char)
    (high : Option Nat) {count : Nat} (hcount : count ≠ 3) (value : Nat) (text : List Char) :
    lexemesFrom (.hex chars high count value) (c :: text) =
      lexemesFrom (.hex chars high (count + 1) (value * 16 + n)) text := by
  rw [lexemesFrom, step, h.hexValue?_eq]
  dsimp only
  rw [if_neg hcount]
  rfl

/-- Four digits of a number in a string. -/
theorem lexemesFrom_hex {a b c d : Char} {w x y z : Nat} (first : HexDigit a w)
    (second : HexDigit b x) (third : HexDigit c y) (fourth : HexDigit d z) (chars : List Char)
    (high : Option Nat) (text : List Char) :
    lexemesFrom (.hex chars high 0 0) (a :: b :: c :: d :: text) =
      (afterHex chars high (((w * 16 + x) * 16 + y) * 16 + z)).1 ++
        lexemesFrom (afterHex chars high (((w * 16 + x) * 16 + y) * 16 + z)).2 text := by
  rw [lexemesFrom_hexDigit first chars high (by decide),
    lexemesFrom_hexDigit second chars high (by decide),
    lexemesFrom_hexDigit third chars high (by decide), lexemesFrom, step, fourth.hexValue?_eq]
  simp only [Nat.zero_mul, Nat.zero_add, if_true]

/-- The lexemes of a string, some characters of which have been read, in front of `rest`. -/
def stringEnd (chars : List Char) (cs : Option (List Char)) (rest : List Char) : List Lexeme :=
  followed (stringLexeme (cs.map fun cs => String.ofList (chars.reverse ++ cs)))
    (lexemesFrom .between rest)

theorem stringEnd_cons (chars : List Char) (c : Char) (cs : Option (List Char))
    (rest : List Char) :
    stringEnd (c :: chars) cs rest = stringEnd chars (cs.map (c :: ·)) rest := by
  cases cs <;> simp [stringEnd]

/-- **Inside a string** the characters that its text stands for are collected, also behind the first
half of a character. -/
theorem lexemesFrom_stringText {cs : List Char} {ns : List Nat} (h : StringText cs ns)
    (rest : List Char) :
    (∀ chars, lexemesFrom (.string chars) (cs ++ '"' :: rest) =
        stringEnd chars (characters? ns) rest) ∧
      ∀ chars high, IsHigh high → lexemesFrom (.half chars high) (cs ++ '"' :: rest) =
        stringEnd chars (characters? (high :: ns)) rest := by
  -- the lexeme is broken as soon as a half turns out to be alone
  have hbroken : ∀ {chars ns}, characters? ns = none →
      stringEnd chars (characters? ns) rest = [.broken .malformed true] := by
    intro chars ns hns
    rw [hns]
    rfl
  induction h with
  | nil =>
    -- the quotation mark: a half that is still open is alone
    refine ⟨?_, ?_⟩
    · intro chars
      simp [lexemesFrom, step, stringEnd, characters?, stringLexeme, followed]
    · intro chars high hhigh
      rw [hbroken (characters?_high hhigh (by rintro m ⟨⟩))]
      simp [lexemesFrom, step, halt, lexemesFrom_stopped]
  | @plain c cs ns quote backslash control onward ih =>
    -- a character for itself, which is no second half either
    obtain ⟨hhigh, hlow⟩ := not_half c
    refine ⟨?_, ?_⟩
    · intro chars
      rw [characters?_cons hhigh hlow, Char.ofNat_toNat, ← stringEnd_cons, ← ih.1]
      simp [lexemesFrom, step, quote, backslash, Nat.not_lt.mpr control]
    · intro chars high hh
      rw [hbroken (characters?_high hh (by rintro m ⟨⟩; exact hlow))]
      simp [lexemesFrom, step, backslash, halt, lexemesFrom_stopped]
  | @escape e c cs ns mem onward ih =>
    -- one by a letter, where a second half could only come by a number
    obtain ⟨hhigh, -⟩ := not_half c
    obtain ⟨hescaped, hu, hlow⟩ := escaped?_of_mem mem
    refine ⟨?_, ?_⟩
    · intro chars
      rw [characters?_cons hhigh hlow, Char.ofNat_toNat, ← stringEnd_cons, ← ih.1]
      simp [lexemesFrom, step, hu, hescaped]
    · intro chars high hh
      rw [hbroken (characters?_high hh (by rintro m ⟨⟩; exact hlow))]
      simp [lexemesFrom, step, hu, halt, lexemesFrom_stopped]
  | @number a b c d w x y z cs ns first second third fourth onward ih =>
    -- a number: a character, or one half of it
    have hhex := lexemesFrom_hex first second third fourth
    generalize ((w * 16 + x) * 16 + y) * 16 + z = n at hhex ⊢
    refine ⟨?_, ?_⟩
    · intro chars
      have hstep : lexemesFrom (.string chars)
          ('\\' :: 'u' :: a :: b :: c :: d :: cs ++ '"' :: rest) =
            lexemesFrom (.hex chars none 0 0) (a :: b :: c :: d :: (cs ++ '"' :: rest)) := by
        simp [lexemesFrom, step]
      rw [hstep, hhex, afterHex]
      -- a first half waits for the second one, which cannot begin a character
      by_cases hhigh : IsHigh n
      · rw [if_pos (isHighHalf_iff.mpr hhigh)]
        exact ih.2 chars n hhigh
      rw [if_neg (mt isHighHalf_iff.mp hhigh)]
      by_cases hlow : IsLow n
      · rw [if_pos (isLowHalf_iff.mpr hlow), hbroken (characters?_low hlow ns)]
        simp [halt, lexemesFrom_stopped]
      · rw [if_neg (mt isLowHalf_iff.mp hlow), characters?_cons hhigh hlow, ← stringEnd_cons]
        exact ih.1 _
    · intro chars high hh
      have hstep : lexemesFrom (.half chars high)
          ('\\' :: 'u' :: a :: b :: c :: d :: cs ++ '"' :: rest) =
            lexemesFrom (.hex chars (some high) 0 0) (a :: b :: c :: d :: (cs ++ '"' :: rest)) := by
        simp [lexemesFrom, step]
      rw [hstep, hhex, afterHex]
      -- only a second half completes the character
      by_cases hlow : IsLow n
      · rw [if_pos (isLowHalf_iff.mpr hlow), characters?, if_pos ⟨hh, hlow⟩, ← stringEnd_cons]
        exact ih.1 _
      · rw [if_neg (mt isLowHalf_iff.mp hlow),
          hbroken (characters?_high hh (by rintro m ⟨⟩; exact hlow))]
        simp [halt, lexemesFrom_stopped]

/-- **A string is cut off** as a whole. -/
theorem lexemesFrom_string {cs : List Char} {ns : List Nat} (h : StringText cs ns)
    (rest : List Char) :
    lexemesFrom .between ('"' :: (cs ++ '"' :: rest)) =
      followed (stringLexeme (string? ns)) (lexemesFrom .between rest) := by
  have hbegin : lexemesFrom .between ('"' :: (cs ++ '"' :: rest)) =
      lexemesFrom (.string []) (cs ++ '"' :: rest) := rfl
  rw [hbegin, (lexemesFrom_stringText h rest).1]
  rfl

end InlineMarkup.Json
