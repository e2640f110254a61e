import InlineMarkup.Settings.Entry
import InlineMarkup.Tokenizer

/-!
# Settings

All that can be configured: the nesting limit and the entries of the grammar. `Settings.stock` is
in force where nothing else is said; its grammar is the stock grammar.
-/

namespace InlineMarkup

/-- **Everything that can be configured.** -/
structure Settings where
  maxDepth : Nat
  entries : List Entry
  deriving DecidableEq

namespace Settings

/-- The settings in force where nothing else is said. -/
def stock : Settings where
  maxDepth := 64
  entries :=
    [{ kind := "pre", surround := some "```", verbatim := true },
     { kind := "code", surround := some "`" },
     { kind := "italic", surround := some "_" },
     { kind := "bold", surround := some "*" },
     { kind := "strike", surround := some "~" }]

/-- **The grammar of the entries.** A record is made when all of them could be built; only then the
types are checked as a grammar. -/
def grammar (s : Settings) : Except BuildError Grammar × List Record :=
  match Entry.buildAll [] s.entries with
  | .error e => (.error e, [])
  | .ok types => ((Grammar.ofTypes types).mapError .grammar, [.typesBuilt types.length])

/-- The tokenizer with the nesting limit of the settings and a grammar built from them. -/
def tokenizer (s : Settings) (g : Grammar) : Tokenizer where
  grammar := g
  maxDepth := s.maxDepth

end Settings
end InlineMarkup
