import InlineMarkup.Unicode.AsciiClass
import InlineMarkup.Unicode.Letters

/-!
# Conditions on places

A place in a text lies between two characters, one of which is missing at either end. A `Look` is a
condition on these two: the place is an end of the text or of a line, or an edge of a word.
-/

namespace InlineMarkup.Pattern

open Unicode (CharSet)

/-- The text around a place: the character before it and the one after it. -/
structure Around where
  before : Option Char
  after : Option Char

/-- **A condition on a place.** -/
inductive Look where
  | textStart | textEnd
  /-- The start of a line; lines may also end with a carriage return. -/
  | lineStart (crlf : Bool)
  | lineEnd (crlf : Bool)
  /-- A place with a word character on one side only. -/
  | wordEdge (ascii : Bool)
  | noWordEdge (ascii : Bool)
  | wordStart (ascii : Bool)
  | wordEnd (ascii : Bool)
  | wordStartHalf (ascii : Bool)
  | wordEndHalf (ascii : Bool)
  deriving DecidableEq

/-- The word characters that patterns know. -/
def wordSet : CharSet := .word .sixteen

/-- Is there a word character? -/
def isWordAt (ascii : Bool) : Option Char → Bool
  | none => false
  | some c => if ascii then CharSet.asciiWord.contains c else wordSet.contains c

/-- **When a condition holds.** A carriage return and a line feed together are one line end. -/
def Look.holds (l : Look) (a : Around) : Bool :=
  match l with
  | textStart => a.before.isNone
  | textEnd => a.after.isNone
  | lineStart false => a.before.isNone || a.before == some '\n'
  | lineStart true =>
    a.before.isNone || a.before == some '\n' || (a.before == some '\r' && a.after != some '\n')
  | lineEnd false => a.after.isNone || a.after == some '\n'
  | lineEnd true =>
    a.after.isNone || a.after == some '\r' || (a.after == some '\n' && a.before != some '\r')
  | wordEdge ascii => isWordAt ascii a.before != isWordAt ascii a.after
  | noWordEdge ascii => isWordAt ascii a.before == isWordAt ascii a.after
  | wordStart ascii => !isWordAt ascii a.before && isWordAt ascii a.after
  | wordEnd ascii => isWordAt ascii a.before && !isWordAt ascii a.after
  | wordStartHalf ascii => !isWordAt ascii a.before
  | wordEndHalf ascii => !isWordAt ascii a.after

end InlineMarkup.Pattern
