import InlineMarkup.Json.Numeral

/-!
# The texts of JSON

The standard defines JSON by a grammar: which texts there are, and which value each of them writes.
This module holds that grammar, independently of how a text is read.

* `Value` — what a text writes. A numeral stays as it is written. The standard lets a string name
  its characters by numbers of sixteen bits, also by half of the two that stand for a character
  beyond the basic plane; where such a half is alone, the string has no characters.
* `Writes` — the grammar. Its parts are values, elements (a value with white space around it),
  members of objects, and sequences of elements and of members.
* `Value.Document` — a whole text is one element.
-/

namespace InlineMarkup.Json

/-! ### Values -/

/-- **A value of JSON,** as a text writes it. A string is absent, also as the name of a member, if
it does not stand for characters. -/
inductive Value where
  | null
  | bool (b : Bool)
  | number (n : Numeral)
  | string (s : Option String)
  | array (items : List Value)
  | object (members : List (Option String × Value))

namespace Value

mutual

/-- **The nesting of a value:** how many arrays and objects are inside each other in it, itself
counted. -/
def nesting : Value → Nat
  | array items => nestingOfItems items + 1
  | object members => nestingOfMembers members + 1
  | _ => 0

/-- The nesting of the items of an array. -/
def nestingOfItems : List Value → Nat
  | [] => 0
  | v :: vs => max (nesting v) (nestingOfItems vs)

/-- The nesting of the members of an object. -/
def nestingOfMembers : List (Option String × Value) → Nat
  | [] => 0
  | (_, v) :: ms => max (nesting v) (nestingOfMembers ms)

end

end Value

/-! ### Strings -/

/-- The letters that stand for a character behind a backslash, and that character. -/
def escapes : List (Char × Char) :=
  [('"', '"'), ('\\', '\\'), ('/', '/'), ('b', '\x08'), ('f', '\x0c'), ('n', '\n'), ('r', '\r'),
    ('t', '\t')]

/-- A digit of base sixteen with its value, in lower or upper case. -/
def HexDigit (c : Char) (n : Nat) : Prop :=
  "0123456789abcdef".toList[n]? = some c ∨ "0123456789ABCDEF".toList[n]? = some c

/-- **What stands between quotation marks,** with the numbers of the characters that it names. -/
inductive StringText : List Char → List Nat → Prop where
  | nil : StringText [] []
  | plain {c cs ns} (quote : c ≠ '"') (backslash : c ≠ '\\') (control : 0x20 ≤ c.toNat)
      (onward : StringText cs ns) : StringText (c :: cs) (c.toNat :: ns)
  | escape {e c cs ns} (mem : (e, c) ∈ escapes) (onward : StringText cs ns) :
      StringText ('\\' :: e :: cs) (c.toNat :: ns)
  | number {a b c d : Char} {w x y z : Nat} {cs ns} (first : HexDigit a w) (second : HexDigit b x)
      (third : HexDigit c y) (fourth : HexDigit d z) (onward : StringText cs ns) :
      StringText ('\\' :: 'u' :: a :: b :: c :: d :: cs) ((((w * 16 + x) * 16 + y) * 16 + z) :: ns)

/-- Characters that need no backslash are written as they are. -/
theorem StringText.verbatim {cs : List Char}
    (h : ∀ c ∈ cs, c ≠ '"' ∧ c ≠ '\\' ∧ 0x20 ≤ c.toNat) : StringText cs (cs.map Char.toNat) := by
  induction cs with
  | nil => exact .nil
  | cons c cs ih =>
    obtain ⟨⟨quote, backslash, control⟩, onward⟩ := List.forall_mem_cons.mp h
    exact .plain quote backslash control (ih onward)

/-- The numbers of the first halves of characters beyond the basic plane. -/
def IsHigh (n : Nat) : Prop := 0xD800 ≤ n ∧ n ≤ 0xDBFF

instance (n : Nat) : Decidable (IsHigh n) := inferInstanceAs (Decidable (_ ∧ _))

/-- The numbers of the second halves. -/
def IsLow (n : Nat) : Prop := 0xDC00 ≤ n ∧ n ≤ 0xDFFF

instance (n : Nat) : Decidable (IsLow n) := inferInstanceAs (Decidable (_ ∧ _))

/-- **The characters with the given numbers.** Two halves in the right order are one character;
any other half stands for nothing. -/
def characters? : List Nat → Option (List Char)
  | [] => some []
  | [n] => if IsHigh n ∨ IsLow n then none else some [Char.ofNat n]
  | n :: m :: ns =>
    if IsHigh n ∧ IsLow m then
      (characters? ns).map (Char.ofNat (0x10000 + (n - 0xD800) * 0x400 + (m - 0xDC00)) :: ·)
    else if IsHigh n ∨ IsLow n then none
    else (characters? (m :: ns)).map (Char.ofNat n :: ·)

/-- The string with the given numbers. -/
def string? (ns : List Nat) : Option String := (characters? ns).map String.ofList

/-! ### Numerals -/

/-- The digits of a numeral, at least one. -/
def Digits (cs : List Char) (ds : List Nat) : Prop :=
  ds ≠ [] ∧ (∀ d ∈ ds, d < 10) ∧ cs = ds.map Nat.digitChar

/-- Digits behind a point, or nothing. -/
inductive FractionText : List Char → Option (List Nat) → Prop where
  | absent : FractionText [] none
  | present {cs ds} (digits : Digits cs ds) : FractionText ('.' :: cs) (some ds)

/-- An exponent, negative or not, or nothing. -/
inductive ExponentText : List Char → Option (Bool × List Nat) → Prop where
  | absent : ExponentText [] none
  | unsigned {mark cs ds} (marks : mark = 'e' ∨ mark = 'E') (digits : Digits cs ds) :
      ExponentText (mark :: cs) (some (false, ds))
  | plus {mark cs ds} (marks : mark = 'e' ∨ mark = 'E') (digits : Digits cs ds) :
      ExponentText (mark :: '+' :: cs) (some (false, ds))
  | minus {mark cs ds} (marks : mark = 'e' ∨ mark = 'E') (digits : Digits cs ds) :
      ExponentText (mark :: '-' :: cs) (some (true, ds))

/-- **A numeral** begins with a sign or not, and with zero only if that is all there is before the
point. -/
inductive NumeralText : List Char → Numeral → Prop where
  | intro {negative : Bool} {cs fs es : List Char} {ds : List Nat} {fraction : Option (List Nat)}
      {exponent : Option (Bool × List Nat)} (whole : Digits cs ds)
      (zero : ds.head? = some 0 → ds = [0]) (fractionText : FractionText fs fraction)
      (exponentText : ExponentText es exponent) :
      NumeralText ((if negative then ['-'] else []) ++ (cs ++ (fs ++ es)))
        ⟨negative, ds, fraction, exponent⟩

/-! ### The grammar -/

/-- White space, possibly none. -/
def Blank (cs : List Char) : Prop := ∀ c ∈ cs, c ∈ [' ', '\t', '\n', '\r']

instance (cs : List Char) : Decidable (Blank cs) := List.decidableBAll _ _

/-- The parts that a text is made of. -/
inductive Part where
  | value (v : Value)
  | element (v : Value)
  | elements (vs : List Value)
  | member (m : Option String × Value)
  | members (ms : List (Option String × Value))

/-- **The grammar of JSON.** `Writes cs part` says that the text `cs` writes the part. -/
inductive Writes : List Char → Part → Prop where
  | null : Writes "null".toList (.value .null)
  | yes : Writes "true".toList (.value (.bool true))
  | no : Writes "false".toList (.value (.bool false))
  | number {cs n} (numeral : NumeralText cs n) : Writes cs (.value (.number n))
  | string {cs ns} (text : StringText cs ns) :
      Writes ('"' :: (cs ++ ['"'])) (.value (.string (string? ns)))
  | emptyArray {b} (blank : Blank b) : Writes ('[' :: (b ++ [']'])) (.value (.array []))
  | array {cs vs} (items : Writes cs (.elements vs)) :
      Writes ('[' :: (cs ++ [']'])) (.value (.array vs))
  | emptyObject {b} (blank : Blank b) :
      Writes ('\x7b' :: (b ++ ['\x7d'])) (.value (.object []))
  | object {cs ms} (fields : Writes cs (.members ms)) :
      Writes ('\x7b' :: (cs ++ ['\x7d'])) (.value (.object ms))
  | element {b b' cs v} (front : Blank b) (value : Writes cs (.value v)) (back : Blank b') :
      Writes (b ++ (cs ++ b')) (.element v)
  | one {cs v} (last : Writes cs (.element v)) : Writes cs (.elements [v])
  | more {cs ds v vs} (first : Writes cs (.element v)) (onward : Writes ds (.elements vs)) :
      Writes (cs ++ ',' :: ds) (.elements (v :: vs))
  | member {b b' ns cs ds v} (front : Blank b) (name : StringText cs ns) (back : Blank b')
      (value : Writes ds (.element v)) :
      Writes (b ++ '"' :: (cs ++ '"' :: (b' ++ ':' :: ds))) (.member (string? ns, v))
  | oneMember {cs m} (last : Writes cs (.member m)) : Writes cs (.members [m])
  | moreMembers {cs ds m ms} (first : Writes cs (.member m)) (onward : Writes ds (.members ms)) :
      Writes (cs ++ ',' :: ds) (.members (m :: ms))

/-- **A JSON document:** the text writes the value, with white space around it or not. -/
def Value.Document (v : Value) (text : String) : Prop := Writes text.toList (.element v)

end InlineMarkup.Json
