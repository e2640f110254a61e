import InlineMarkup.Unicode.Age
import InlineMarkup.Unicode.Boundary
import InlineMarkup.Unicode.CaseChange
import InlineMarkup.Unicode.ScriptUsage

/-!
# Sets by name

Sets of characters go by the names of properties that a character has or has not, of general
categories and of scripts; others are named by a property and a value for it. In a name neither
case counts, nor blanks, hyphens, underscores and a leading `is`. All sets are those of the earlier
edition of the standard.
-/

namespace InlineMarkup.Unicode

/-- **A name without what does not count in it.** -/
def normalName (name : List Char) : String :=
  let clean := fun (cs : List Char) =>
    (cs.filter fun c => c ≠ ' ' ∧ c ≠ '_' ∧ c ≠ '-' ∧ c.toNat < 0x80).map Char.toLower
  match name with
  | i :: s :: rest =>
    if i.toLower = 'i' ∧ s.toLower = 's' then
      let rest := String.ofList (clean rest)
      -- the exception is a name that would otherwise be taken for another one
      if rest = "c" then "isc" else rest
    else String.ofList (clean (i :: s :: rest))
  | cs => String.ofList (clean cs)

namespace CharSet

/-- The set of one of the properties of letters, cases and names. -/
def letterProperty? : String → Option CharSet
  | "alpha" | "alphabetic" => some (alphabetic .sixteen)
  | "oalpha" | "otheralphabetic" => some (otherAlphabetic .sixteen)
  | "lower" | "lowercase" => some (lowercase .sixteen)
  | "olower" | "otherlowercase" => some (listed .sixteen otherLowercase)
  | "upper" | "uppercase" => some (uppercase .sixteen)
  | "oupper" | "otheruppercase" => some (listed .sixteen otherUppercase)
  | "cased" => some (cased .sixteen)
  | "ci" | "caseignorable" => some (caseIgnorable .sixteen)
  | "cwl" | "changeswhenlowercased" => some changesLowercased
  | "cwu" | "changeswhenuppercased" => some changesUppercased
  | "cwt" | "changeswhentitlecased" => some changesTitlecased
  | "cwcf" | "changeswhencasefolded" => some changesFolded
  | "cwcm" | "changeswhencasemapped" => some changesCase
  | "sd" | "softdotted" => some (ofRanges softDotted)
  | "ids" | "idstart" => some (nameStart .sixteen)
  | "idc" | "idcontinue" => some (namePart .sixteen)
  | "oids" | "otheridstart" => some (ofRanges otherNameStarts)
  | "oidc" | "otheridcontinue" => some (ofRanges otherNameParts)
  | "xids" | "xidstart" => some ((nameStart .sixteen).diff (ofRanges unstableStarts))
  | "xidc" | "xidcontinue" => some ((namePart .sixteen).diff (ofRanges unstableParts))
  | "idcompatmathstart" => some (ofRanges mathStarts)
  | "idcompatmathcontinue" => some (ofRanges mathParts)
  | _ => none

/-- The set of one of the properties of marks. -/
def markProperty? : String → Option CharSet
  | "dia" | "diacritic" => some diacritic
  | "ext" | "extender" => some (ofRanges lengthSigns)
  | "grbase" | "graphemebase" => some graphemeBase
  | "grext" | "graphemeextend" => some (extenders .sixteen)
  | "grlink" | "graphemelink" => some (ofRanges linkMarks)
  | "ogrext" | "othergraphemeextend" => some (ofRanges otherExtenders)
  | "pcm" | "prependedconcatenationmark" => some (ofRanges prependedMarks)
  | "mcm" | "modifiercombiningmark" => some (ofRanges modifierMarks)
  | "loe" | "logicalorderexception" => some (ofRanges reorderedVowels)
  | "vs" | "variationselector" => some (ofRanges variationSelectors)
  | "di" | "defaultignorablecodepoint" => some (ofRanges ignorables)
  | "odi" | "otherdefaultignorablecodepoint" => some (ofRanges otherIgnorables)
  | "joinc" | "joincontrol" => some joins
  | "bidic" | "bidicontrol" => some (ofRanges directionControls)
  | _ => none

/-- The set of one of the properties of signs. -/
def signProperty? : String → Option CharSet
  | "ahex" | "asciihexdigit" =>
    some (unions [range '0' '9', range 'A' 'F', range 'a' 'f'])
  | "hex" | "hexdigit" => some (ofRanges hexDigits)
  | "dash" => some dash
  | "hyphen" => some (ofRanges hyphens)
  | "qmark" | "quotationmark" => some (ofRanges quotationMarks)
  | "sterm" | "sentenceterminal" => some sentenceEnd
  | "term" | "terminalpunctuation" => some unitEnd
  | "math" => some math
  | "omath" | "othermath" => some otherMath
  | "patsyn" | "patternsyntax" => some (ofRanges patternSigns)
  | "patws" | "patternwhitespace" => some (ofRanges patternSpaces)
  | "wspace" | "whitespace" | "space" => some space
  | "dep" | "deprecated" => some (ofRanges deprecated)
  | "nchar" | "noncharactercodepoint" => some (ofRanges Age.reserved)
  | "ideo" | "ideographic" => some ideographic
  | "uideo" | "unifiedideograph" => some unifiedIdeograph
  | "radical" => some (ofRanges radicals)
  | "idsu" | "idsunaryoperator" => some (ofRanges unaryDescriptions)
  | "idsb" | "idsbinaryoperator" => some (ofRanges binaryDescriptions)
  | "idst" | "idstrinaryoperator" => some (ofRanges ternaryDescriptions)
  | "emoji" => some (ofRanges emoji)
  | "epres" | "emojipresentation" => some (ofRanges emojiPresentation)
  | "ebase" | "emojimodifierbase" => some (ofRanges emojiBases)
  | "emod" | "emojimodifier" => some (ofRanges emojiModifiers)
  | "ecomp" | "emojicomponent" => some (ofRanges emojiComponents)
  | "extpict" | "extendedpictographic" => some (ofRanges pictographs)
  | "ri" | "regionalindicator" => some (ofRanges regionLetters)
  | _ => none

/-- **The characters of a general category,** or of several that go by one name. That of the halves
of pairs, which are no characters, is not known. -/
def category? (name : String) : Option CharSet :=
  match name with
  | "any" => some all
  | "assigned" => some (assigned .sixteen)
  | "ascii" => some ascii
  | name =>
    match Category.named? name with
    | none => none
    | some [.cs] => none
    | some cs =>
      let given := withCategories .sixteen cs
      some (if cs.contains .cn then given.union (assigned .sixteen).compl else given)

/-- The script with the given normal name. -/
def scriptNamed? (name : String) : Option Script :=
  let isName := fun (s : String) => normalName s.toList = name
  match Script.otherNames.find? fun p => isName p.1 with
  | some (_, code) => Script.all.find? fun s => s.code = code
  | none => Script.all.find? fun s => isName s.name ∨ isName s.code

/-- The characters that a version of the standard had. Its name is its number, perhaps behind a
letter and then without a point. -/
def age? (name : String) : Option CharSet :=
  let names := Age.firstVersion :: Age.versions.map (·.1)
  let short := fun (version : String) => "v" ++ String.ofList (version.toList.filter (· ≠ '.'))
  (names.find? fun v => v = name ∨ short v = name).bind Age.upTo?

/-- **The characters with a property,** by a normal name. -/
def property? (name : String) : Option CharSet :=
  (letterProperty? name).or <| (markProperty? name).or <| (signProperty? name).or <|
    (category? name).or ((scriptNamed? name).map Script.set)

/-- **The characters for which a property has a value,** both by normal names. -/
def propertyValue? (property value : String) : Option CharSet :=
  match property with
  | "gc" | "generalcategory" => category? value
  | "sc" | "script" => (scriptNamed? value).map Script.set
  | "scx" | "scriptextensions" => (scriptNamed? value).map Script.extendedSet
  | "age" => age? value
  | "gcb" | "graphemeclusterbreak" => unitBreak? value
  | "wb" | "wordbreak" => wordBreak? value
  | "sb" | "sentencebreak" => sentenceBreak? value
  | _ => none

end CharSet
end InlineMarkup.Unicode
