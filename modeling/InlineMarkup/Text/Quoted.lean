import InlineMarkup.Unicode.Property

/-!
# Quoted text

A text in quotation marks, in which every character can be seen: quotes, backslashes and line ends
are written with a backslash, and a character that shows nothing by itself, or that would join the
one before it, is written by its number in braces.
-/

namespace InlineMarkup.Text

/-- The digits of a number in base sixteen, in lower case. -/
def hexDigits (n : Nat) : List Char := Nat.toDigits 16 n

/-- A character by its number. -/
def numbered (c : Char) : List Char := '\\' :: 'u' :: '\x7b' :: hexDigits c.toNat ++ ['\x7d']

/-- **One character of a quoted text.** -/
def quotedChar (c : Char) : List Char :=
  match c with
  | '"' => ['\\', '"']
  | '\\' => ['\\', '\\']
  | '\n' => ['\\', 'n']
  | '\r' => ['\\', 'r']
  | '\t' => ['\\', 't']
  | '\x00' => ['\\', '0']
  | c => if Unicode.isVisible c && !Unicode.isExtender c then [c] else numbered c

/-- **The quoted form** of a text. -/
def quoted (s : String) : String :=
  String.ofList ('"' :: s.toList.flatMap quotedChar ++ ['"'])

end InlineMarkup.Text
