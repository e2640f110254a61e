import InlineMarkup.Pattern.Literal

/-!
# Bracketed classes

A class in brackets lists characters, ranges, named classes and further bracketed classes, and
combines what stands before and after an operator. It is read one part at a time, with the open
brackets on a stack; `readClass?` returns the set and how deep its parts are nested.
-/

namespace InlineMarkup.Pattern

open Unicode (CharSet)

/-- An operator between the parts of a class. All bind alike, and from the left. -/
inductive SetOp where
  | inter
  | diff
  | symmDiff

/-- **Parts of a class** put together: their set, their number and the depth of the deepest. -/
structure Parts where
  set : CharSet
  count : Nat
  depth : Nat

namespace Parts

/-- No parts. -/
def none : Parts := ⟨.empty, 0, 0⟩

/-- The parts and one more. -/
def add (p : Parts) (s : CharSet) (depth : Nat) : Parts :=
  ⟨p.set.union s, p.count + 1, max p.depth depth⟩

/-- The depth of the parts taken together; several of them are one level deeper. -/
def total (p : Parts) : Nat := if p.count ≤ 1 then p.depth else p.depth + 1

end Parts

/-- **An open bracket:** whether it is negated, what stands before the last operator and its depth,
and the parts since then. -/
structure Bracket where
  negated : Bool
  left : Option (SetOp × CharSet × Nat)
  parts : Parts

/-- The set with the letters that differ only in case, where case does not count. -/
def foldCase (flags : Flags) (s : CharSet) : CharSet :=
  if ¬ flags.ignoreCase then s
  else if flags.unicode then s.folded else s.asciiFolded

namespace Bracket

/-- What stands in the bracket so far, with its depth. -/
def value (flags : Flags) (b : Bracket) : CharSet × Nat :=
  match b.left with
  | none => (b.parts.set, b.parts.total)
  | some (op, left, depth) =>
    let a := foldCase flags left
    let b' := foldCase flags b.parts.set
    let set := match op with
      | .inter => .inter a b'
      | .diff => .diff a b'
      | .symmDiff => .symmDiff a b'
    (set, max depth b.parts.total + 1)

/-- The bracket after an operator. -/
def operate (flags : Flags) (op : SetOp) (b : Bracket) : Bracket :=
  let (set, depth) := b.value flags
  ⟨b.negated, some (op, set, depth), .none⟩

/-- **The set of a closed bracket.** Without Unicode there is no complement. -/
def close? (flags : Flags) (b : Bracket) : Option (CharSet × Nat) :=
  let (set, depth) := b.value flags
  let set := foldCase flags set
  if ¬ b.negated then some (set, depth + 1)
  else if flags.unicode then some (.compl set, depth + 1)
  else none

end Bracket

/-- The hyphens at the beginning of a bracket, which stand for themselves, and the text behind. -/
def leadingHyphens (spaced : Bool) (cs : List Char) : Nat × List Char :=
  let hyphens := (significant spaced false cs).takeWhile fun p => p.1 = '-'
  match hyphens.getLast? with
  | none => (0, cs)
  | some (_, after) => (hyphens.length, skipBlank spaced false after)

/-- **A bracket that has just been opened,** read up to its first ordinary part. A closing bracket
right at the beginning stands for itself. -/
def openBracket? (flags : Flags) (cs : List Char) : Option (Bracket × List Char) :=
  let cs := skipBlank flags.spaced false cs
  let (negated, cs) := match cs with
    | '^' :: cs => (true, skipBlank flags.spaced false cs)
    | cs => (false, cs)
  let (hyphens, cs) := leadingHyphens flags.spaced cs
  let parts : Parts := if hyphens = 0 then .none else ⟨.single '-', hyphens, 0⟩
  match cs with
  | [] => none
  | ']' :: rest =>
    if hyphens = 0 then
      match skipBlank flags.spaced false rest with
      | [] => none
      | cs => some (⟨negated, none, parts.add (.single ']') 0⟩, cs)
    else some (⟨negated, none, parts⟩, cs)
  | cs => some (⟨negated, none, parts⟩, cs)

/-- A named ASCII class whose opening bracket has been read; absent if the text is something
else. -/
def readAscii? (flags : Flags) (cs : List Char) : Option (Option CharSet × List Char) :=
  match cs with
  | ':' :: cs =>
    let (negated, cs) := match cs with
      | '^' :: cs => (true, cs)
      | cs => (false, cs)
    let name := cs.takeWhile fun c => c ≠ ':'
    match cs.drop name.length with
    | ':' :: ']' :: rest =>
      (CharSet.asciiClass? (String.ofList name)).map fun s =>
        let s := foldCase flags s
        (if ¬ negated then some s else if flags.unicode then some (.compl s) else none, rest)
    | _ => none
  | _ => none

/-- One end of a range, or a part by itself. -/
def readPart? (flags : Flags) : List Char → Option (Primitive × List Char)
  | [] => none
  | '\\' :: cs => readEscape? flags cs
  | c :: cs => some (.literal ⟨c, false⟩, cs)

/-- The character of a literal in brackets. Without Unicode it has to be an ASCII character. -/
def Literal.inBrackets? (flags : Flags) (l : Literal) : Option Char :=
  if flags.unicode ∨ l.char.toNat < 0x80 then some l.char else none

/-- The set of a part by itself; conditions have no place in a class. -/
def Primitive.inBrackets? (flags : Flags) : Primitive → Option CharSet
  | .literal l => (l.inBrackets? flags).map .single
  | .class s => some s
  | .look _ => none

/-- **A part of a class,** a range if a hyphen follows that is neither last nor doubled. -/
def readRange? (flags : Flags) (cs : List Char) : Option (CharSet × List Char) := do
  let (p, cs) ← readPart? flags cs
  let cs := skipBlank flags.spaced false cs
  match cs with
  | [] => none
  | '-' :: rest =>
    match skipBlank flags.spaced false rest with
    | [] => none
    | d :: after =>
      if d = ']' ∨ d = '-' then some (← p.inBrackets? flags, cs)
      else
        let (q, cs) ← readPart? flags (d :: after)
        match p, q with
        | .literal l, .literal m =>
          let a ← l.inBrackets? flags
          let b ← m.inBrackets? flags
          if a ≤ b then some (.range a b, cs) else none
        | _, _ => none
  | cs => some (← p.inBrackets? flags, cs)

/-- **What reading one part of a class leads to:** a class that goes on, or one that is complete,
each with the text behind. -/
inductive ClassStep where
  | goOn (stack : List Bracket) (rest : List Char)
  | done (set : CharSet) (depth : Nat) (rest : List Char)

/-- One part of the innermost open bracket. -/
def classStep? (flags : Flags) (stack : List Bracket) (cs : List Char) : Option ClassStep :=
  match stack, skipBlank flags.spaced false cs with
  | b :: stack, c :: cs =>
    let add := fun (s : CharSet) (rest : List Char) =>
      ClassStep.goOn ({ b with parts := b.parts.add s 0 } :: stack) rest
    match c, cs with
    | '[', cs =>
      match readAscii? flags cs with
      | some (s, rest) => s.map fun s => add s rest
      | none => (openBracket? flags cs).map fun (inner, rest) => .goOn (inner :: b :: stack) rest
    | ']', cs =>
      (b.close? flags).map fun (set, depth) =>
        match stack with
        | [] => .done set depth cs
        | outer :: stack => .goOn ({ outer with parts := outer.parts.add set depth } :: stack) cs
    | '&', '&' :: cs => some (.goOn (b.operate flags .inter :: stack) cs)
    | '-', '-' :: cs => some (.goOn (b.operate flags .diff :: stack) cs)
    | '~', '~' :: cs => some (.goOn (b.operate flags .symmDiff :: stack) cs)
    | c, cs => (readRange? flags (c :: cs)).map fun (s, rest) => add s rest
  | _, _ => none

/-- The rest of a class with the given open brackets. Every part takes at least one character, so
`fuel` need not be more than their number. -/
def classLoop? (flags : Flags) : (fuel : Nat) → List Bracket → List Char →
    Option ((CharSet × Nat) × List Char)
  | 0, _, _ => none
  | fuel + 1, stack, cs =>
    match classStep? flags stack cs with
    | none => none
    | some (.done set depth rest) => some ((set, depth), rest)
    | some (.goOn stack rest) => classLoop? flags fuel stack rest

/-- **A bracketed class** whose opening bracket has been read: its set and depth. -/
def readClass? (flags : Flags) (cs : List Char) : Option ((CharSet × Nat) × List Char) := do
  let (b, rest) ← openBracket? flags cs
  classLoop? flags (rest.length + 1) [b] rest

end InlineMarkup.Pattern
