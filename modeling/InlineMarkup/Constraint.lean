import InlineMarkup.Grammar

/-!
# Ready-made constraints

Constraints that come up again and again: fixed words, web addresses, runs of characters. The
constraint that follows a pattern is `Constraint.ofPattern?`, in a module of its own.
-/

namespace InlineMarkup
namespace Constraint

/-- The first of the given words that the text begins with. Empty words are left out. -/
def literals (words : List String) : Constraint where
  measure coming :=
    let fits := fun (w : String) => w.toList.isPrefixOf coming
    ((words.filter fun w => w ≠ "").find? fits).map String.utf8ByteSize

/-- The length of the leading run of characters with a property. -/
def runLength (p : Char → Bool) (coming : List Char) : Nat :=
  Text.byteLength (coming.takeWhile p)

/-- The longest run of the given characters, possibly of length zero. -/
def run (chars : List Char) : Constraint where
  measure coming := some (runLength chars.contains coming)

/-- All of the remaining text. -/
def rest : Constraint where
  measure coming := some (Text.byteLength coming)

/-- The same length everywhere. -/
def fixed (n : Nat) : Constraint where
  measure _ := some n

/-- No text at all. -/
def never : Constraint where
  measure _ := none

/-- An at sign and the ASCII letters and digits after it, at least one. -/
def mention : Constraint where
  measure
    | '@' :: cs =>
      match runLength Char.isAlphanum cs with
      | 0 => none
      | n => some (1 + n)
    | _ => none

/-! ### Web addresses -/

/-- Characters of a host name. -/
def isHostChar (c : Char) : Bool := c.isAlphanum || c == '.' || c == '-'

/-- Characters of the part of an address from the first slash on. -/
def isPathChar (c : Char) : Bool := c.isAlphanum || "._~%/?#=&+-".toList.contains c

/-- The text after a leading word, if it begins with that word. -/
def after? (w : String) (cs : List Char) : Option (List Char) :=
  if w.toList.isPrefixOf cs then some (cs.drop w.length) else none

/-- The length of a port, a colon and at least one digit, or zero. -/
def portLength : List Char → Nat
  | ':' :: cs =>
    match runLength Char.isDigit cs with
    | 0 => 0
    | n => 1 + n
  | _ => 0

/-- The length of a path, a slash and any further path characters, or zero. -/
def pathLength : List Char → Nat
  | '/' :: cs => 1 + runLength isPathChar cs
  | _ => 0

/-- **Web addresses:** `http` or `https`, `://`, a host, and a port and a path where they follow. -/
def url : Constraint where
  measure coming :=
    let scheme := if "https://".toList.isPrefixOf coming then "https://" else "http://"
    match after? scheme coming with
    | none => none
    | some cs =>
      match runLength isHostChar cs with
      | 0 => none
      | host =>
        let cs := Text.dropBytes host cs
        let port := portLength cs
        let path := pathLength (Text.dropBytes port cs)
        some (scheme.utf8ByteSize + host + port + path)

end Constraint

/-- Links, labelled links whose interior knows links only, and two emoji codes. -/
def Grammar.links : Grammar :=
  let link := TokenType.constrained "link" Constraint.url
  [link,
   (TokenType.delimited "label-link" "<" ">").withGrammar [link],
   .constrained "emoji" (Constraint.literals [":+1:", ":trollface:"])]

end InlineMarkup
