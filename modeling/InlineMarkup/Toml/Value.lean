import InlineMarkup.Number.Binary64
import InlineMarkup.Toml.DateTime

/-!
# TOML values
-/

namespace InlineMarkup.Toml

/-- **A value of a TOML document.** The keys of a table differ from each other and stand in the
order in which they first appear, tables with a header in the order of their headers. -/
inductive Value where
  | bool (b : Bool)
  | integer (n : Int)
  | float (x : Binary64)
  | string (s : String)
  | dateTime (t : DateTime)
  | array (items : List Value)
  | table (fields : List (String × Value))

end InlineMarkup.Toml
