import InlineMarkup.Json.Numeral

/-!
# Lexemes of JSON

A text is first cut into lexemes: brackets, separators, words, numbers and strings. `lexemes` goes
over the characters once; its `Mode` says what the character before was part of. A text that
cannot be cut that way ends with a broken lexeme, which tells what is wrong.
-/

namespace InlineMarkup.Json

/-- **What is wrong with a text:** it breaks a rule, or it ends too early. -/
inductive Fault where
  | malformed
  | incomplete
  deriving DecidableEq

/-- **A lexeme.** A broken one may have begun as a string. -/
inductive Lexeme where
  | openArray | closeArray | openObject | closeObject | comma | colon
  | null
  | bool (b : Bool)
  | number (n : Number)
  | string (s : String)
  | broken (fault : Fault) (asString : Bool)
  deriving DecidableEq

/-- How far a numeral has come. -/
inductive Stage where
  | sign | zero | whole | point | fraction | mark | markSign | exponent
  deriving DecidableEq

/-- May a numeral end here? -/
def Stage.isFinal : Stage → Bool
  | zero | whole | fraction | exponent => true
  | sign | point | mark | markSign => false

/-- **What the last character was part of.** Characters of a string are kept in reverse. -/
inductive Mode where
  /-- Nothing that goes on. -/
  | between
  /-- A word of which `rest` is still missing. -/
  | word (rest : List Char) (lexeme : Lexeme)
  /-- A numeral, its digits so far in reverse. -/
  | numeral (stage : Stage) (n : Numeral)
  | string (chars : List Char)
  /-- A string after a backslash. -/
  | escape (chars : List Char)
  /-- A character by its number, of which `count` digits are known. A number that is only the first
  half of a character waits in `high`. -/
  | hex (chars : List Char) (high : Option Nat) (count value : Nat)
  /-- A number with a wrong digit, after `bytes` bytes. -/
  | badHex (bytes : Nat)
  /-- A string after the first half of a character. -/
  | half (chars : List Char) (high : Nat)
  /-- A string after the first half of a character and a backslash. -/
  | halfEscape (chars : List Char) (high : Nat)
  /-- Anything after a broken lexeme. -/
  | stopped

/-- White space between lexemes. -/
def isBlank (c : Char) : Bool := c == ' ' || c == '\n' || c == '\t' || c == '\r'

/-- The value of a digit in base sixteen. -/
def hexValue? (c : Char) : Option Nat :=
  if '0' ≤ c ∧ c ≤ '9' then some (c.toNat - '0'.toNat)
  else if 'a' ≤ c ∧ c ≤ 'f' then some (c.toNat - 'a'.toNat + 10)
  else if 'A' ≤ c ∧ c ≤ 'F' then some (c.toNat - 'A'.toNat + 10)
  else none

/-- The value of a decimal digit. -/
def digit? (c : Char) : Option Nat :=
  if c.isDigit then some (c.toNat - '0'.toNat) else none

/-- The character that a letter after a backslash stands for. -/
def escaped? : Char → Option Char
  | '"' => some '"'
  | '\\' => some '\\'
  | '/' => some '/'
  | 'b' => some '\x08'
  | 'f' => some '\x0c'
  | 'n' => some '\n'
  | 'r' => some '\r'
  | 't' => some '\t'
  | _ => none

/-- Is the number the first half of a character beyond the basic plane? -/
def isHighHalf (n : Nat) : Bool := 0xD800 ≤ n && n ≤ 0xDBFF

/-- Is the number the second half of such a character? -/
def isLowHalf (n : Nat) : Bool := 0xDC00 ≤ n && n ≤ 0xDFFF

/-- The character with the given halves. -/
def joinHalves (high low : Nat) : Char :=
  Char.ofNat (0x10000 + (high - 0xD800) * 0x400 + (low - 0xDC00))

/-- The end of all reading. -/
def halt (fault : Fault) (asString : Bool) : List Lexeme × Mode :=
  ([.broken fault asString], .stopped)

/-- **A character between lexemes:** the lexeme that it makes up, or the mode that it begins. -/
def begin (c : Char) : List Lexeme × Mode :=
  match c with
  | '[' => ([.openArray], .between)
  | ']' => ([.closeArray], .between)
  | '\x7b' => ([.openObject], .between)
  | '\x7d' => ([.closeObject], .between)
  | ',' => ([.comma], .between)
  | ':' => ([.colon], .between)
  | '"' => ([], .string [])
  | 'n' => ([], .word "ull".toList .null)
  | 't' => ([], .word "rue".toList (.bool true))
  | 'f' => ([], .word "alse".toList (.bool false))
  | '-' => ([], .numeral .sign ⟨true, [], none, none⟩)
  | c =>
    if isBlank c then ([], .between)
    else
      match digit? c with
      | some 0 => ([], .numeral .zero ⟨false, [0], none, none⟩)
      | some d => ([], .numeral .whole ⟨false, [d], none, none⟩)
      | none => halt .malformed false

/-- The numeral with one more character; absent if the character does not go on with it. -/
def Numeral.push? (n : Numeral) (stage : Stage) (c : Char) : Option (Stage × Numeral) :=
  match stage, digit? c with
  | .sign, some 0 => some (.zero, { n with whole := [0] })
  | .sign, some d => some (.whole, { n with whole := [d] })
  | .whole, some d => some (.whole, { n with whole := d :: n.whole })
  | .point, some d => some (.fraction, { n with fraction := some [d] })
  | .fraction, some d => some (.fraction, { n with fraction := n.fraction.map (d :: ·) })
  | .mark, some d | .markSign, some d | .exponent, some d =>
    some (.exponent, { n with exponent := n.exponent.map fun (s, ds) => (s, d :: ds) })
  | .zero, none | .whole, none =>
    if c = '.' then some (.point, n)
    else if c = 'e' ∨ c = 'E' then some (.mark, { n with exponent := some (false, []) })
    else none
  | .fraction, none =>
    if c = 'e' ∨ c = 'E' then some (.mark, { n with exponent := some (false, []) }) else none
  | .mark, none =>
    if c = '+' then some (.markSign, n)
    else if c = '-' then some (.markSign, { n with exponent := some (true, []) })
    else none
  | _, _ => none

/-- The numeral with its digits in order. -/
def Numeral.inOrder (n : Numeral) : Numeral :=
  ⟨n.negative, n.whole.reverse, n.fraction.map List.reverse,
    n.exponent.map fun (s, ds) => (s, ds.reverse)⟩

/-- The lexeme of a finished numeral. -/
def Numeral.lexeme (n : Numeral) : Lexeme :=
  match n.inOrder.value? with
  | some v => .number v
  | none => .broken .malformed false

/-- The mode after all four digits of a number in a string. -/
def afterHex (chars : List Char) (high : Option Nat) (n : Nat) : List Lexeme × Mode :=
  match high with
  | some h => if isLowHalf n then ([], .string (joinHalves h n :: chars)) else halt .malformed true
  | none =>
    if isHighHalf n then ([], .half chars n)
    else if isLowHalf n then halt .malformed true
    else ([], .string (Char.ofNat n :: chars))

/-- **One character:** the lexemes that it completes and the mode after it. -/
def step : Mode → Char → List Lexeme × Mode
  | .between, c => begin c
  | .word rest lexeme, c =>
    match rest with
    | [d] => if c = d then ([lexeme], .between) else halt .malformed false
    | d :: ds => if c = d then ([], .word ds lexeme) else halt .malformed false
    | [] => halt .malformed false
  | .numeral stage n, c =>
    match n.push? stage c with
    | some (stage, n) => ([], .numeral stage n)
    | none =>
      -- a zero at the front is the only digit before the point
      if stage.isFinal ∧ ¬ (stage = .zero ∧ c.isDigit) then
        match n.lexeme with
        | .broken fault b => halt fault b
        | lexeme => (lexeme :: (begin c).1, (begin c).2)
      else halt .malformed false
  | .string chars, c =>
    if c = '"' then ([.string (String.ofList chars.reverse)], .between)
    else if c = '\\' then ([], .escape chars)
    else if c.toNat < 0x20 then halt .malformed true
    else ([], .string (c :: chars))
  | .escape chars, c =>
    if c = 'u' then ([], .hex chars none 0 0)
    else
      match escaped? c with
      | some d => ([], .string (d :: chars))
      | none => halt .malformed true
  | .hex chars high count value, c =>
    match hexValue? c with
    | some d =>
      if count = 3 then afterHex chars high (value * 16 + d)
      else ([], .hex chars high (count + 1) (value * 16 + d))
    | none =>
      -- four bytes are needed before their digits are looked at
      if 4 ≤ count + c.utf8Size then halt .malformed true else ([], .badHex (count + c.utf8Size))
  | .badHex bytes, c =>
    if 4 ≤ bytes + c.utf8Size then halt .malformed true else ([], .badHex (bytes + c.utf8Size))
  | .half chars high, c => if c = '\\' then ([], .halfEscape chars high) else halt .malformed true
  | .halfEscape chars high, c =>
    if c = 'u' then ([], .hex chars (some high) 0 0) else halt .malformed true
  | .stopped, _ => ([], .stopped)

/-- The lexemes that the end of the text completes. -/
def finish : Mode → List Lexeme
  | .between | .stopped => []
  | .word .. => [.broken .incomplete false]
  | .numeral stage n => [if stage.isFinal then n.lexeme else .broken .incomplete false]
  | .string _ | .escape _ | .hex .. | .badHex _ | .half .. | .halfEscape .. =>
    [.broken .incomplete true]

/-- The lexemes of a text that follows a given mode. -/
def lexemesFrom (mode : Mode) : List Char → List Lexeme
  | [] => finish mode
  | c :: cs => (step mode c).1 ++ lexemesFrom (step mode c).2 cs

/-- **The lexemes of a text.** -/
def lexemes (text : List Char) : List Lexeme := lexemesFrom .between text

end InlineMarkup.Json
