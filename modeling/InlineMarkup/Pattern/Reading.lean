import InlineMarkup.Pattern.Bracketed
import InlineMarkup.Unicode.Property

/-!
# Reading patterns

The tree of a pattern's text. The text is read one part at a time: a `Reader` holds the parts of
the alternative being read, the alternatives before it, and a frame for each open group. Settings
changed inside a group hold until its end, across alternatives.
-/

namespace InlineMarkup.Pattern

open Unicode (CharSet)

/-- **A part of a pattern** with the depth of its tree. A part that only changes settings cannot be
repeated. -/
structure Part where
  node : Node
  depth : Nat
  repeatable : Bool

/-- What surrounds an open group: parts and alternatives before it, in reverse, and settings.
Groups that are counted have a number. -/
structure GroupFrame where
  parts : List Part
  branches : List Part
  flags : Flags
  index : Option Nat

/-- **The state of reading.** Parts and alternatives are kept in reverse; `names` are the names of
groups met so far, and `count` is the number of groups that are counted. -/
structure Reader where
  flags : Flags
  parts : List Part
  branches : List Part
  stack : List GroupFrame
  names : List String
  count : Nat

namespace Reader

/-- Nothing read yet. -/
def initial : Reader := ⟨.initial, [], [], [], [], 0⟩

/-- The reader with one more part. -/
def push (r : Reader) (node : Node) (depth : Nat) : Reader :=
  { r with parts := ⟨node, depth, true⟩ :: r.parts }

/-- The depth of several parts together. -/
def jointDepth (parts : List Part) : Nat :=
  let deepest := parts.foldl (fun d p => max d p.depth) 0
  if parts.length ≤ 1 then deepest else deepest + 1

/-- The alternative being read as one part. -/
def branch (r : Reader) : Part :=
  ⟨.seqs (r.parts.reverse.map Part.node), jointDepth r.parts, true⟩

/-- All alternatives of the group being read as one part. -/
def body (r : Reader) : Part :=
  let branches := r.branch :: r.branches
  ⟨.alts (branches.reverse.map Part.node), jointDepth branches, true⟩

/-- The reader after the end of an alternative. -/
def nextBranch (r : Reader) : Reader := { r with parts := [], branches := r.branch :: r.branches }

/-- The reader inside a group with the given settings and number. -/
def openGroup (r : Reader) (flags : Flags) (index : Option Nat) : Reader :=
  { r with
    flags
    parts := []
    branches := []
    stack := ⟨r.parts, r.branches, r.flags, index⟩ :: r.stack }

/-- The reader inside a group that is counted. -/
def openCounted (r : Reader) : Reader :=
  { r.openGroup r.flags (some (r.count + 1)) with count := r.count + 1 }

/-- The reader after the end of a group. -/
def closeGroup? (r : Reader) : Option Reader :=
  match r.stack with
  | [] => none
  | frame :: stack =>
    let body := r.body
    let node := match frame.index with
      | none => body.node
      | some index => .group index body.node
    some
      { r with
        flags := frame.flags
        parts := ⟨node, body.depth + 1, true⟩ :: frame.parts
        branches := frame.branches
        stack }

/-- The reader after a repetition of the last part. -/
def repeatLast? (r : Reader) (min : Nat) (max : Option Nat) (eager : Bool) : Option Reader :=
  match r.parts with
  | [] => none
  | p :: parts =>
    if ¬ p.repeatable then none
    else
      let node := Node.times p.node min max (eager != r.flags.lazyFirst)
      some { r with parts := ⟨node, p.depth + 1, true⟩ :: parts }

end Reader

/-! ### Settings -/

/-- One setting, set or unset. -/
def Flags.set? (flags : Flags) (c : Char) (on : Bool) : Option Flags :=
  match c with
  | 'i' => some { flags with ignoreCase := on }
  | 'm' => some { flags with multiLine := on }
  | 's' => some { flags with dotAll := on }
  | 'U' => some { flags with lazyFirst := on }
  | 'u' => some { flags with unicode := on }
  | 'x' => some { flags with spaced := on }
  | 'R' => some { flags with crlf := on }
  | _ => none

/-- Letters of settings; those behind a hyphen are unset. -/
def Flags.setAll? (flags : Flags) (on : Bool) : List Char → Option Flags
  | [] => some flags
  | '-' :: cs => flags.setAll? false cs
  | c :: cs =>
    match flags.set? c on with
    | none => none
    | some flags => flags.setAll? on cs

/-- Letters of settings are well formed if none is given twice and a hyphen is not the last. -/
def settingsOk (cs : List Char) : Bool :=
  decide cs.Nodup && cs.getLast? != some '-'

/-! ### Groups -/

/-- May the character stand in a group's name, or at its beginning? -/
def isNameChar (first : Bool) (c : Char) : Bool :=
  c == '_' || Unicode.isAlphabetic c
    || (!first && (".[]".toList.contains c || Unicode.isNumeric c))

/-- The name of a group, up to a closing angle bracket. -/
def readName? (cs : List Char) : Option (String × List Char) :=
  let name := cs.takeWhile fun c => c ≠ '>'
  match name, cs.drop name.length with
  | c :: rest, '>' :: after =>
    if isNameChar true c ∧ rest.all (isNameChar false) then some (String.ofList name, after)
    else none
  | _, _ => none

/-- The text behind a leading word. -/
def afterWord? (w : String) (cs : List Char) : Option (List Char) :=
  if w.toList.isPrefixOf cs then some (cs.drop w.length) else none

/-- **What an opening parenthesis begins:** a group, with a name or settings perhaps, or settings
for the rest of the group around it. Conditions on the text around a place are refused. -/
def readGroup? (r : Reader) (cs : List Char) : Option (Reader × List Char) :=
  let cs := skipBlank r.flags.spaced false cs
  if ["?=", "?!", "?<=", "?<!"].any fun w => w.toList.isPrefixOf cs then none
  else
    match (afterWord? "?P<" cs).or (afterWord? "?<" cs) with
    | some rest =>
      (readName? rest).bind fun (name, rest) =>
        if r.names.contains name then none
        else some ({ r.openCounted with names := name :: r.names }, rest)
    | none =>
      match cs with
      | '?' :: rest =>
        let letters := rest.takeWhile fun c => c ≠ ':' ∧ c ≠ ')'
        if ¬ settingsOk letters then none
        else
          match r.flags.setAll? true letters, rest.drop letters.length with
          | some flags, ':' :: rest => some (r.openGroup flags none, rest)
          | some flags, ')' :: rest =>
            if letters.isEmpty then none
            else some ({ r with flags, parts := ⟨.empty, 0, false⟩ :: r.parts }, rest)
          | _, _ => none
      | cs => some (r.openCounted, cs)

/-! ### Repetitions -/

/-- The greatest count of a repetition. -/
def maxCount : Nat := 0xFFFFFFFF

/-- A count, between white space; absent if there are no digits. -/
def readCount? (spaced : Bool) (cs : List Char) : Option Nat × List Char :=
  let cs := cs.dropWhile Unicode.isSpace
  let digits := (significant spaced false cs).takeWhile fun p => p.1.isDigit
  let after := match digits.getLast? with
    | none => cs
    | some (_, after) => skipBlank spaced false after
  let n := digits.foldl (fun n p => n * 10 + (p.1.toNat - '0'.toNat)) 0
  (if digits.isEmpty ∨ maxCount < n then none else some n,
    skipBlank spaced false (after.dropWhile Unicode.isSpace))

/-- **Counts in braces,** the opening one of which has been read: the least and the greatest number
of times. -/
def readCounts? (spaced : Bool) (cs : List Char) : Option ((Nat × Option Nat) × List Char) := do
  let (least, cs) := readCount? spaced (skipBlank spaced false cs)
  let least ← least
  let (counts, cs) ←
    match cs with
    | ',' :: cs =>
      match skipBlank spaced false cs with
      | '\x7d' :: cs => some ((least, none), '\x7d' :: cs)
      | cs =>
        let (most, cs) := readCount? spaced cs
        most.map fun most => ((least, some most), cs)
    | cs => some ((least, some least), cs)
  match cs with
  | '\x7d' :: cs => if counts.2.any (· < least) then none else some (counts, cs)
  | _ => none

/-- Is a repetition eager? It is not if a question mark follows, which is then taken. -/
def readEager (cs : List Char) : Bool × List Char :=
  match cs with
  | '?' :: cs => (false, cs)
  | cs => (true, cs)

/-! ### Parts -/

/-- The condition for the start of a line, or of the text. -/
def startLook (flags : Flags) : Look :=
  if flags.multiLine then .lineStart flags.crlf else .textStart

/-- The condition for the end of a line, or of the text. -/
def endLook (flags : Flags) : Look :=
  if flags.multiLine then .lineEnd flags.crlf else .textEnd

/-- What a point stands for: any character, line ends excepted unless they are asked for. Without
Unicode it would be any byte, which is refused. -/
def dot? (flags : Flags) : Option CharSet :=
  if ¬ flags.unicode then none
  else if flags.dotAll then some .all
  else if flags.crlf then some (CharSet.compl (.union (.single '\n') (.single '\r')))
  else some (CharSet.single '\n').compl

/-- The reader after a class. -/
def Reader.pushClass (r : Reader) (s : CharSet) (depth : Nat) : Reader :=
  r.push (.ofSet s (!r.flags.unicode)) depth

/-- The reader after a small part. -/
def Reader.primitive? (r : Reader) : Primitive → Option Reader
  | .literal l => (l.node? r.flags).map fun n => r.push n 0
  | .class s => some (r.pushClass s 0)
  | .look l => some (r.push (.look l) 0)

/-- **One part of a pattern,** which begins with the given character: the reader after it and the
text behind. -/
def readOne? (r : Reader) (c : Char) (cs : List Char) : Option (Reader × List Char) :=
  match c with
  | '(' => readGroup? r cs
  | ')' => r.closeGroup?.map fun r => (r, cs)
  | '|' => some (r.nextBranch, cs)
  | '[' => (readClass? r.flags cs).map fun ((s, depth), cs) => (r.pushClass s depth, cs)
  | '?' => let (eager, cs) := readEager cs; (r.repeatLast? 0 (some 1) eager).map fun r => (r, cs)
  | '*' => let (eager, cs) := readEager cs; (r.repeatLast? 0 none eager).map fun r => (r, cs)
  | '+' => let (eager, cs) := readEager cs; (r.repeatLast? 1 none eager).map fun r => (r, cs)
  | '\x7b' =>
    (readCounts? r.flags.spaced cs).bind fun ((min, max), cs) =>
      let (eager, cs) := readEager (skipBlank r.flags.spaced false cs)
      (r.repeatLast? min max eager).map fun r => (r, cs)
  | '.' => (dot? r.flags).map fun s => (r.pushClass s 0, cs)
  | '^' => some (r.push (.look (startLook r.flags)) 0, cs)
  | '$' => some (r.push (.look (endLook r.flags)) 0, cs)
  | '\\' => (readEscape? r.flags cs).bind fun (p, cs) => (r.primitive? p).map fun r => (r, cs)
  | c => (r.primitive? (.literal ⟨c, false⟩)).map fun r => (r, cs)

/-- All parts of a text. Every part takes at least one character, so `fuel` need not be more than
their number. -/
def readAll? : (fuel : Nat) → Reader → List Char → Option Reader
  | fuel, r, cs =>
    match fuel, skipBlank r.flags.spaced false cs with
    | _, [] => some r
    | 0, _ => none
    | fuel + 1, c :: cs =>
      match readOne? r c cs with
      | none => none
      | some (r, cs) => readAll? fuel r cs

/-- The greatest depth of a pattern's tree. -/
def maxDepth : Nat := 250

/-- **The tree of a pattern's text.** Absent if the text is not a pattern, a group stays open, or
the tree is too deep. -/
def Node.ofText? (text : List Char) : Option Node := do
  let r ← readAll? text.length .initial text
  if r.stack.isEmpty ∧ r.body.depth ≤ maxDepth then some r.body.node else none

end InlineMarkup.Pattern
