import InlineMarkup.Constraint
import InlineMarkup.Pattern.Footprint
import InlineMarkup.Pattern.Program
import InlineMarkup.Pattern.Reading

/-!
# Constraints by pattern

`Constraint.ofPattern?` measures the match of a pattern at the beginning of the text. The pattern
is anchored by its text: it is put into a group behind the mark for the start of the text. A
pattern that closes this group itself is therefore read in another way, and its parts outside of
the group may match further on in the text; the length is then the end of that match.
-/

namespace InlineMarkup

namespace Pattern

/-- **The program of a pattern's text;** absent if it is no pattern or its automata would be too
large. -/
def Program.ofText? (text : List Char) : Option Program :=
  (Node.ofText? text).bind fun n => if n.fits then some (.ofNode n) else none

/-- The text of a pattern that is to match at the start only. -/
def anchoredText (pattern : String) : List Char := "^(?:".toList ++ pattern.toList ++ [')']

end Pattern

/-- **The constraint of a pattern:** the end of its first match, unless it is the start of the
text. Absent if the anchored text is not a pattern. -/
def Constraint.ofPattern? (pattern : String) : Option Constraint :=
  (Pattern.Program.ofText? (Pattern.anchoredText pattern)).map fun program =>
    ⟨fun coming => (program.search coming).filter fun n => 0 < n⟩

end InlineMarkup
