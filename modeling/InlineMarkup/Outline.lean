import InlineMarkup.Token
import InlineMarkup.Text.Quoted

/-!
# Outlines

An outline draws a forest with one line per token, two columns per level:

    ├─ ◦ word "ola "
    └─ 𝐁 bold
      └─ ◦ word "k ase"

A line shows the branches that continue below it, an icon, the kind and, for a leaf, its quoted
text, cut off after thirty characters.
-/

namespace InlineMarkup.Outline

/-- The number of characters of a leaf that are shown. -/
def shownChars : Nat := 30

/-- **The shown part of a leaf's text:** all of it, or its beginning and three dots. -/
def excerpt (text : String) : String :=
  if text.length ≤ shownChars then text
  else String.ofList (text.toList.take shownChars) ++ "..."

/-- The icon of a token. Well-known kinds have their own. -/
def icon (t : Token) : String :=
  match t.kind with
  | "word" => "◦"
  | "bold" => "𝐁"
  | "italic" => "𝐼"
  | "code" => "ƒ"
  | "pre" => "𝒱"
  | "strike" => "≈"
  | _ => if t.isLeaf then "•" else "○"

/-- What joins a token to its line: a corner for the last of its siblings. -/
def connector (last : Bool) : String := if last then "└─" else "├─"

/-- What stands below a token in the lines of its children: a stroke if a sibling follows. -/
def cell (last : Bool) : String := if last then "  " else "│ "

/-- The part of a line that describes the token itself. -/
def label (t : Token) : String :=
  match t.text? with
  | some text => icon t ++ " " ++ t.kind ++ " " ++ Text.quoted (excerpt text)
  | none => icon t ++ " " ++ t.kind

mutual

/-- The lines of a token whose ancestors have left `margin` to their left. -/
def tokenLines (margin : String) (last : Bool) : Token → List String
  | .leaf kind text => [margin ++ connector last ++ " " ++ label (.leaf kind text)]
  | .branch kind children =>
    (margin ++ connector last ++ " " ++ label (.branch kind children))
      :: forestLines (margin ++ cell last) children

/-- The lines of siblings. -/
def forestLines (margin : String) : List Token → List String
  | [] => []
  | t :: ts => tokenLines margin ts.isEmpty t ++ forestLines margin ts

end

/-- **The outline of a forest,** every line ended by a line feed. -/
def render (ts : List Token) : String :=
  String.join ((forestLines "" ts).map fun line => line ++ "\n")

end InlineMarkup.Outline
