import InlineMarkup.Pattern.Node
import InlineMarkup.Unicode.Naming

/-!
# The smallest parts of a pattern

What one character of a pattern, or a backslash and what follows it, stands for: a literal, a class
of characters, or a condition. Readers here take the text that follows and return what is left of
it, and are absent where the text is not well formed.

In *spaced* patterns white space and comments stand for nothing, even inside an escape.
-/

namespace InlineMarkup.Pattern

open Unicode (CharSet normalName)

/-- **The settings that parts of a pattern are read under.** -/
structure Flags where
  ignoreCase : Bool
  multiLine : Bool
  dotAll : Bool
  lazyFirst : Bool
  unicode : Bool
  spaced : Bool
  crlf : Bool

/-- The settings at the beginning. -/
def Flags.initial : Flags := ⟨false, false, false, false, true, false, false⟩

/-- **The characters that count,** each with the text behind it; `comment` says that the text
begins inside a comment. -/
def significant (spaced : Bool) : (comment : Bool) → List Char → List (Char × List Char)
  | _, [] => []
  | true, c :: cs => significant spaced (c != '\n') cs
  | false, c :: cs =>
    if spaced && Unicode.isSpace c then significant spaced false cs
    else if spaced && c == '#' then significant spaced true cs
    else (c, cs) :: significant spaced false cs

/-- The text without the white space and comments that stand before the next character. -/
def skipBlank (spaced : Bool) : (comment : Bool) → List Char → List Char
  | _, [] => []
  | true, c :: cs => skipBlank spaced (c != '\n') cs
  | false, c :: cs =>
    if spaced && Unicode.isSpace c then skipBlank spaced false cs
    else if spaced && c == '#' then skipBlank spaced true cs
    else c :: cs

/-- The value of a digit in base sixteen. -/
def hexDigit? (c : Char) : Option Nat :=
  if c.isDigit then some (c.toNat - '0'.toNat)
  else if 'a' ≤ c ∧ c ≤ 'f' then some (c.toNat - 'a'.toNat + 10)
  else if 'A' ≤ c ∧ c ≤ 'F' then some (c.toNat - 'A'.toNat + 10)
  else none

/-- The character with the number that the digits give, if there is one. -/
def charOfHex? (digits : List Char) : Option Char := do
  let values ← digits.mapM hexDigit?
  let n := values.foldl (fun n d => n * 16 + d) 0
  if n.isValidChar then some (Char.ofNat n) else none

/-- **A literal.** One that names a byte is a byte and no character where Unicode is off. -/
structure Literal where
  char : Char
  isByte : Bool

/-- **A small part of a pattern.** -/
inductive Primitive where
  | literal (l : Literal)
  | class (s : CharSet)
  | look (l : Look)

/-- Characters that have a meaning of their own. -/
def isMeta (c : Char) : Bool := "\\.+*?()|[]\x7b\x7d^$#&-~".toList.contains c

/-- Characters that may stand behind a backslash without need: ASCII other than letters, digits and
angle brackets. -/
def isEscapable (c : Char) : Bool :=
  isMeta c || (decide (c.toNat < 0x80) && !c.isAlphanum && c != '<' && c != '>')

/-- A number of hexadecimal digits in braces, or as many as `count` without. -/
def readHex? (spaced : Bool) (count : Nat) (isByte : Bool) (cs : List Char) :
    Option (Literal × List Char) :=
  match significant spaced false cs with
  | ('\x7b', _) :: rest =>
    let digits := rest.takeWhile fun (p : Char × List Char) => p.1 ≠ '\x7d'
    match rest.drop digits.length with
    | [] => none
    | (_, after) :: _ =>
      if digits.isEmpty then none
      else (charOfHex? (digits.map (·.1))).map fun c => (⟨c, false⟩, after)
  | rest =>
    let digits := rest.take count
    match digits.getLast? with
    | none => none
    | some (_, after) =>
      if digits.length < count then none
      else (charOfHex? (digits.map (·.1))).map fun c => (⟨c, isByte⟩, after)

/-- A property by one letter or by a name or name and value in braces. -/
def readProperty? (flags : Flags) (negated : Bool) (cs : List Char) :
    Option (CharSet × List Char) := do
  let (name, after) ←
    match significant flags.spaced false cs with
    | [] => none
    | ('\x7b', _) :: rest =>
      let name := rest.takeWhile fun (p : Char × List Char) => p.1 ≠ '\x7d'
      match rest.drop name.length with
      | [] => none
      | (_, after) :: _ => some (name.map (·.1), after)
    | (c, after) :: _ => if c = '\\' then none else some ([c], after)
  if ¬ flags.unicode then none
  let isMark := fun (c : Char) => c == ':' || c == '='
  let key := name.takeWhile fun c => !isMark c && c != '!'
  let rest := name.drop key.length
  let (set, negated) ←
    match rest with
    | '!' :: '=' :: value =>
      (CharSet.propertyValue? (normalName key) (normalName value)).map
        fun s => (s, !negated)
    | c :: value =>
      if isMark c then
        (CharSet.propertyValue? (normalName key) (normalName value)).map
          fun s => (s, negated)
      else none
    | [] => (CharSet.property? (normalName key)).map fun s => (s, negated)
  let set := if flags.ignoreCase then set.folded else set
  some (if negated then set.compl else set, after)

/-- The class that a letter behind a backslash stands for. Without Unicode there is no complement
of a class. -/
def perlClass? (flags : Flags) (c : Char) : Option CharSet := do
  let set := fun (unicode ascii : CharSet) => if flags.unicode then unicode else ascii
  let compl := fun (s : CharSet) => if flags.unicode then some s.compl else none
  match c with
  | 'd' => some (set (.digit .sixteen) .asciiDigit)
  | 's' => some (set .space .asciiSpace)
  | 'w' => some (set wordSet .asciiWord)
  | 'D' => compl (.digit .sixteen)
  | 'S' => compl .space
  | 'W' => compl wordSet
  | _ => none

/-- The control character that a letter behind a backslash stands for. -/
def control? : Char → Option Char
  | 'a' => some '\x07'
  | 'f' => some '\x0c'
  | 't' => some '\t'
  | 'n' => some '\n'
  | 'r' => some '\r'
  | 'v' => some '\x0b'
  | _ => none

/-- The condition behind `\b`: an edge of a word, or a special one named in braces. Braces that do
not begin with a letter are left to a repetition. -/
def readWordEdge? (flags : Flags) (cs : List Char) : Option (Look × List Char) :=
  let ascii := !flags.unicode
  let plain : Look × List Char := (.wordEdge ascii, cs)
  match cs with
  | '\x7b' :: inside =>
    let isNameChar := fun (c : Char) => c.isAlpha || c == '-'
    let rest := significant flags.spaced false inside
    let name := rest.takeWhile fun p => isNameChar p.1
    match name, rest.drop name.length with
    | [], [] => none
    | [], _ => some plain
    | _, ('\x7d', after) :: _ =>
      match String.ofList (name.map (·.1)) with
      | "start" => some (.wordStart ascii, after)
      | "end" => some (.wordEnd ascii, after)
      | "start-half" => some (.wordStartHalf ascii, after)
      | "end-half" => some (.wordEndHalf ascii, after)
      | _ => none
    | _, _ => none
  | _ => some plain

/-- **What follows a backslash.** -/
def readEscape? (flags : Flags) : List Char → Option (Primitive × List Char)
  | [] => none
  | c :: cs =>
    match c with
    | 'x' => (readHex? flags.spaced 2 true cs).map fun (l, cs) => (.literal l, cs)
    | 'u' => (readHex? flags.spaced 4 false cs).map fun (l, cs) => (.literal l, cs)
    | 'U' => (readHex? flags.spaced 8 false cs).map fun (l, cs) => (.literal l, cs)
    | 'p' => (readProperty? flags false cs).map fun (s, cs) => (.class s, cs)
    | 'P' => (readProperty? flags true cs).map fun (s, cs) => (.class s, cs)
    | 'A' => some (.look .textStart, cs)
    | 'z' => some (.look .textEnd, cs)
    | 'b' => (readWordEdge? flags cs).map fun (l, cs) => (.look l, cs)
    | 'B' => some (.look (.noWordEdge !flags.unicode), cs)
    | '<' => some (.look (.wordStart !flags.unicode), cs)
    | '>' => some (.look (.wordEnd !flags.unicode), cs)
    | c =>
      if "dswDSW".toList.contains c then (perlClass? flags c).map fun s => (.class s, cs)
      else if isEscapable c then some (.literal ⟨c, false⟩, cs)
      else (control? c).map fun d => (.literal ⟨d, false⟩, cs)

/-- The tree of a literal outside of brackets. Without Unicode a byte beyond ASCII is no character,
and only ASCII letters have another case. -/
def Literal.node? (flags : Flags) (l : Literal) : Option Node :=
  if ¬ flags.unicode ∧ l.isByte ∧ 0x80 ≤ l.char.toNat then none
  else if ¬ flags.ignoreCase then some (.literal [l.char])
  else if flags.unicode then some (.ofSet (CharSet.single l.char).folded false)
  else some (.ofSet (CharSet.single l.char).asciiFolded true)

end InlineMarkup.Pattern
