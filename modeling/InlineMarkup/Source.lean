import InlineMarkup.Tokenizer

/-!
# Source text

Tokens keep no delimiters, so the grammar they were read with is needed to write them back as
source text. A `Writer` goes through a forest from left to right. It carries the grammars of the
branches it is inside of as a stack of scopes, and looks the delimiters of a branch up in them.

`Grammar.source` is the text of a forest, and `Tokenizer.roundTrip` tells whether reading and
writing give a text back.
-/

namespace InlineMarkup

/-- **The state of writing:** the grammars in scope, the innermost first and the grammar of the
whole text last; the text so far; and the records made. -/
structure Writer where
  scopes : List Grammar
  text : String
  records : Array Record

namespace Writer

/-- Nothing written yet. -/
def start (g : Grammar) : Writer := ⟨[g], "", #[]⟩

/-- Adds text. -/
def put (w : Writer) (text : String) : Writer := { w with text := w.text ++ text }

/-- Opens the scope of a branch's own grammar, if it has one. -/
def enter (w : Writer) : Option Grammar → Writer
  | some g => { w with scopes := g :: w.scopes }
  | none => w

/-- Closes the scope that `enter` has opened. -/
def leave (w : Writer) : Option Grammar → Writer
  | some _ => { w with scopes := w.scopes.tail }
  | none => w

/-- **The type of a kind.** The innermost scope that declares the kind wins; a kind declared in no
scope is searched in depth from the grammar of the whole text. -/
def lookup? (w : Writer) (kind : String) : Option TokenType :=
  (w.scopes.findSome? fun g => g.own? kind).or
    (w.scopes.getLast?.bind fun g => g.find? kind)

mutual

/-- **Writes a token.** Leaves stand as they are, branches between their delimiters; a branch of an
undeclared kind leaves only what is inside it, and a record. -/
def write (w : Writer) : Token → Writer
  | .leaf _ text => w.put text
  | .branch kind children =>
    match w.lookup? kind with
    | none =>
      writeAll { w with records := w.records.push (.undeclaredBranch kind) } children
    | some t =>
      let inside := (w.put (t.start?.getD "")).enter t.inner?
      ((writeAll inside children).leave t.inner?).put (t.stop?.getD "")

/-- Writes a forest, token by token. -/
def writeAll (w : Writer) : List Token → Writer
  | [] => w
  | t :: ts => writeAll (write w t) ts

end

end Writer

namespace Grammar

/-- Writes a forest read with the grammar. -/
def written (g : Grammar) (ts : List Token) : Writer := (Writer.start g).writeAll ts

/-- **The source text** of a forest. -/
def source (g : Grammar) (ts : List Token) : String := (written g ts).text

end Grammar

/-- **How reading and writing back a text can fail.** -/
inductive RoundTripError where
  /-- The text written back is another one. -/
  | differs (rebuilt : String)
  /-- The text is the same, but a token is empty. -/
  | empty (visit : Token.Visit)

/-- Reads a text and writes it back. The tokens are returned if the text has not changed and none
of them is empty; the records are those of reading, then those of writing. -/
def Tokenizer.roundTrip (t : Tokenizer) (text : String) :
    Except RoundTripError (List Token) × List Record :=
  let (tokens, records) := t.run text
  let w := t.grammar.written tokens
  let result :=
    if w.text = text then
      match Token.firstEmpty? tokens with
      | none => .ok tokens
      | some v => .error (.empty v)
    else .error (.differs w.text)
  (result, records ++ w.records.toList)

end InlineMarkup
