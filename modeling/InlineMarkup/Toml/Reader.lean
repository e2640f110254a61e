/-!
# Readers

A `Reader` takes something from the front of a text or fails; `p <|> q` tries `q` on the same text
where `p` fails. These are the readers that do not depend on what is read.
-/

namespace InlineMarkup.Toml

/-- **A reader** of results of a type. Its state is the text still to be read. -/
abbrev Reader (α : Type) := StateT (List Char) Option α

namespace Reader

variable {α : Type}

/-- The next character, which is not taken; absent at the end. -/
def peek? : Reader (Option Char) := fun cs => some (cs.head?, cs)

/-- A character with a property. -/
def one (p : Char → Bool) : Reader Char
  | c :: cs => if p c then some (c, cs) else none
  | [] => none

/-- The given character. -/
def char (c : Char) : Reader Unit := do let _ ← one (· == c)

/-- The given word. -/
def word (w : List Char) : Reader Unit := fun cs =>
  if w.isPrefixOf cs then some ((), cs.drop w.length) else none

/-- All leading characters with a property, possibly none. -/
def run (p : Char → Bool) : Reader (List Char) := fun cs => some (cs.takeWhile p, cs.dropWhile p)

/-- All leading characters with a property, at least one. -/
def run1 (p : Char → Bool) : Reader (List Char) := do
  let c ← one p
  let cs ← run p
  return c :: cs

/-- The end of the text. -/
def atEnd : Reader Unit := fun cs => if cs.isEmpty then some ((), cs) else none

/-- As many results as the reader gives, but no more than there are characters in `bound`. -/
def upTo (item : Reader α) : (bound : List Char) → Reader (List α)
  | [] => pure []
  | _ :: bound =>
    (do
      let x ← item
      let xs ← upTo item bound
      return x :: xs) <|> pure []

/-- **As many results as the reader gives.** It should not succeed without taking a character, so
there are no more of them than characters in the text. -/
def many (item : Reader α) : Reader (List α) := fun cs => upTo item cs cs

/-- Results with separators between them, possibly none. A separator is taken only with the result
that follows it. -/
def separated (separator : Reader Unit) (item : Reader α) : Reader (List α) :=
  (do
    let x ← item
    let xs ← many (do separator; item)
    return x :: xs) <|> pure []

end Reader
end InlineMarkup.Toml
