import InlineMarkup.Number.Word
import InlineMarkup.Toml.Reader
import InlineMarkup.Toml.Value

/-!
# Scalars of TOML

Readers of the values that have no parts: words, numbers, dates and times, strings.
-/

namespace InlineMarkup.Toml

open Reader

/-! ### Blanks and line ends -/

/-- Is it a blank within a line? -/
def isBlank (c : Char) : Bool := c == ' ' || c == '\t'

/-- May the character stand in comments and strings as it is? -/
def isPlain (c : Char) : Bool := c == '\t' || (0x20 ≤ c.toNat && c.toNat != 0x7F)

/-- Blanks within a line. -/
def blanks : Reader Unit := do let _ ← run isBlank

/-- A line end, with or without a carriage return. -/
def newline : Reader Unit := char '\n' <|> word ['\r', '\n']

/-- A comment up to the end of its line. -/
def comment : Reader Unit := do char '#'; let _ ← run isPlain

/-! ### Numbers -/

/-- Digits in which single underscores may separate some from others. -/
def digits (p : Char → Bool) : Reader (List Char) := do
  let d ← one p
  let ds ← many (one p <|> do char '_'; one p)
  return d :: ds

/-- The value of a digit, to base sixteen at most. -/
def digitValue (c : Char) : Nat :=
  if c.isDigit then c.toNat - '0'.toNat else c.toLower.toNat - 'a'.toNat + 10

/-- The number that digits make up. -/
def numberOf (base : Nat) (ds : List Char) : Nat :=
  ds.foldl (fun n d => n * base + digitValue d) 0

/-- Is it a digit to base sixteen? -/
def isHexDigit (c : Char) : Bool :=
  c.isDigit || ('a' ≤ c && c ≤ 'f') || ('A' ≤ c && c ≤ 'F')

/-- Is it a digit to the given base, one of those that have a mark? -/
def isDigitOf (base : Nat) (c : Char) : Bool := isHexDigit c && digitValue c < base

/-- A sign, which may be missing: is the number negative? -/
def sign : Reader Bool :=
  (do char '-'; return true) <|> (do char '+'; return false) <|> return false

/-- Decimal digits without zeros in front. -/
def decimalDigits : Reader (List Char) := do
  let ds ← digits Char.isDigit
  guard (ds.length = 1 ∨ ds.head? ≠ some '0')
  return ds

/-- A whole number to a base with a mark in front. -/
def markedInteger (mark : Char) (base : Nat) : Reader Int := do
  word ['0', mark]
  return numberOf base (← digits (isDigitOf base))

/-- A whole number in decimal notation. -/
def decimalInteger : Reader Int := do
  let negative ← sign
  let n := numberOf 10 (← decimalDigits)
  return if negative then -(n : Int) else n

/-- **A whole number,** of 64 bits at most. -/
def integer : Reader Int := do
  let n ← markedInteger 'x' 16 <|> markedInteger 'o' 8 <|> markedInteger 'b' 2 <|> decimalInteger
  guard (Word.fitsInt n)
  return n

/-- The digits behind a point. -/
def fraction : Reader (List Char) := do char '.'; digits Char.isDigit

/-- The power of ten of a number. -/
def exponent : Reader Int := do
  let _ ← one fun c => c == 'e' || c == 'E'
  let negative ← sign
  let n := numberOf 10 (← digits Char.isDigit)
  return if negative then -(n : Int) else n

/-- **A number with a fraction or an exponent.** One too large for the format is refused, one too
small in the same way is minus infinity. -/
def decimalFloat : Reader Binary64 := do
  let negative ← sign
  let whole ← decimalDigits
  let behind ← optional fraction
  let power ← if behind.isSome then optional exponent else some <$> exponent
  let behind := behind.getD []
  let x := Binary64.ofDecimal negative (numberOf 10 (whole ++ behind))
    (power.getD 0 - behind.length)
  guard (x ≠ .infinite false)
  return x

/-- Infinity or no number. -/
def specialFloat : Reader Binary64 := do
  let negative ← sign
  let x ← (do word "inf".toList; return Binary64.infinite false) <|>
    (do word "nan".toList; return Binary64.nan)
  return if negative then x.neg else x

/-! ### Dates and times -/

/-- A number of exactly `width` digits. -/
def fixedDigits (width : Nat) : Reader Nat := fun cs =>
  let ds := cs.take width
  if ds.length = width ∧ ds.all Char.isDigit then some (numberOf 10 ds, cs.drop width) else none

/-- A day of the calendar. -/
def date : Reader Date := do
  let year ← fixedDigits 4
  char '-'
  let month ← fixedDigits 2
  char '-'
  let day ← fixedDigits 2
  let d : Date := ⟨year, month, day⟩
  guard d.isValid
  return d

/-- The nanoseconds behind a point; further digits are dropped. -/
def nanoseconds : Reader Nat := do
  char '.'
  let ds ← run1 Char.isDigit
  let ds := ds.take 9
  return numberOf 10 ds * Nat.pow 10 (9 - ds.length)

/-- A time of day. -/
def time (rule : ClockRule) : Reader Time := do
  let hour ← fixedDigits 2
  char ':'
  let minute ← fixedDigits 2
  char ':'
  let second ← fixedDigits 2
  let nanosecond ← optional nanoseconds
  let t : Time := ⟨hour, minute, second, nanosecond.getD 0⟩
  guard (t.isValid rule)
  return t

/-- An offset from universal time. -/
def offset (rule : ClockRule) : Reader Offset :=
  (do let _ ← one fun c => c == 'Z' || c == 'z'; return .universal) <|> do
    let negative ← (do char '-'; return true) <|> (do char '+'; return false)
    let hours ← fixedDigits 2
    char ':'
    let minutes ← fixedDigits 2
    guard (rule.offsetFits hours minutes)
    let n : Int := hours * 60 + minutes
    return .minutes (if negative then -n else n)

/-- A time behind a date, with its offset. -/
def timeOfDate (rule : ClockRule) : Reader (Time × Option Offset) := do
  let _ ← one fun c => c == 'T' || c == 't' || c == ' '
  let t ← time rule
  return (t, ← optional (offset rule))

/-- **A date, a time or both.** -/
def dateTime (rule : ClockRule) : Reader DateTime :=
  (do
    let d ← date
    match ← optional (timeOfDate rule) with
    | some (t, offset) => return .both d t offset
    | none => return .date d) <|> DateTime.time <$> time rule

/-- The date, time or both that a text by itself stands for, by a lenient clock. -/
def DateTime.ofText? (text : String) : Option DateTime :=
  match dateTime .lenient text.toList with
  | some (t, []) => some t
  | _ => none

/-! ### Strings -/

/-- The character with the number that `width` digits to base sixteen give. -/
def numberedChar (width : Nat) : Reader (List Char) := fun cs =>
  let ds := cs.take width
  let n := numberOf 16 ds
  if ds.length = width ∧ ds.all isHexDigit ∧ n.isValidChar then
    some ([Char.ofNat n], cs.drop width)
  else none

/-- A character behind a backslash. -/
def escaped : Reader (List Char) := do
  char '\\'
  match ← one fun _ => true with
  | 'b' => return ['\x08']
  | 't' => return ['\t']
  | 'n' => return ['\n']
  | 'f' => return ['\x0c']
  | 'r' => return ['\r']
  | '"' => return ['"']
  | '\\' => return ['\\']
  | 'u' => numberedChar 4
  | 'U' => numberedChar 8
  | _ => failure

/-- Characters of a string with escapes that stand for themselves. -/
def basicRun : Reader (List Char) := run1 fun c => isPlain c && c != '"' && c != '\\'

/-- Characters of a string without escapes. -/
def literalRun : Reader (List Char) := run1 fun c => isPlain c && c != '\''

/-- **A string on one line,** made of pieces. -/
def onLine (quote : Char) (piece : Reader (List Char)) : Reader String := do
  char quote
  let pieces ← many piece
  char quote
  return String.ofList pieces.flatten

/-- A backslash at the end of a line, and all blanks and line ends up to the next text. -/
def foldedLines : Reader (List Char) := do
  char '\\'
  blanks
  newline
  let _ ← many (newline <|> do let _ ← run1 isBlank)
  return []

/-- One or two quotes that do not end a string over several lines. -/
def innerQuotes (quote : Char) : Reader (List Char) := do
  let qs ← run1 (· == quote)
  guard (qs.length ≤ 2)
  return qs

/-- **A string over several lines,** made of pieces, line ends and single quotes. The line end right
after the opening quotes does not belong to it. Of the quotes at the end the last three close it. -/
def overLines (quote : Char) (piece : Reader (List Char)) : Reader String := do
  word [quote, quote, quote]
  let _ ← optional newline
  let pieces ← many (piece <|> (do newline; return ['\n']) <|> innerQuotes quote)
  let qs ← run (· == quote)
  guard (3 ≤ qs.length ∧ qs.length ≤ 5)
  return String.ofList (pieces.flatten ++ qs.drop 3)

/-- A string that can be a key. -/
def lineString : Reader String := onLine '"' (basicRun <|> escaped) <|> onLine '\'' literalRun

/-- **A string.** -/
def string : Reader String :=
  overLines '"' (basicRun <|> foldedLines <|> escaped) <|> overLines '\'' literalRun <|> lineString

/-! ### All scalars -/

/-- A truth value. -/
def bool : Reader Bool :=
  (do word "true".toList; return true) <|> (do word "false".toList; return false)

/-- **A value without parts.** Dates come before numbers, and numbers with a fraction before whole
ones, since each begins like the next. -/
def scalar : Reader Value :=
  Value.string <$> string <|> Value.bool <$> bool <|> Value.dateTime <$> dateTime .strict <|>
    Value.float <$> decimalFloat <|> Value.float <$> specialFloat <|> Value.integer <$> integer

end InlineMarkup.Toml
