import InlineMarkup.Fields

/-!
# Folders of files

Settings may come from the files of a folder, which are named by paths relative to it. The parts of
a path stand between slashes; empty parts and single points lead nowhere, two points lead back. A
file is looked up under its path, then with the extension `.toml`, which may be left out.
-/

namespace InlineMarkup.Settings

/-- **A folder:** the contents of its files by their paths. -/
abbrev Folder := Fields String

/-- The texts between slashes, empty ones included. -/
def betweenSlashes : List Char → List (List Char)
  | [] => [[]]
  | c :: cs =>
    if c = '/' then [] :: betweenSlashes cs
    else
      match betweenSlashes cs with
      | [] => [[c]]
      | part :: parts => (c :: part) :: parts

/-- Does a part of a path lead nowhere? -/
def leadsNowhere (part : List Char) : Bool := part == [] || part == ['.']

/-- **The parts of a path** that lead somewhere. -/
def pathParts (path : String) : List String :=
  ((betweenSlashes path.toList).filter fun part => !leadsNowhere part).map String.ofList

/-- Can the path only be the path of a folder? It can if it ends in a slash. -/
def namesFolder (path : String) : Bool :=
  (betweenSlashes path.toList).getLast?.any leadsNowhere

/-- Does the path begin at the root of all files? -/
def isAbsolute (path : String) : Bool := path.toList.head? == some '/'

namespace Folder

/-- Is there a folder at the place with the given parts? Only folders with files are. -/
def hasFolder (f : Folder) (place : List String) : Bool :=
  place.isEmpty || f.any fun (path, _) =>
    place.isPrefixOf (pathParts path) && place.length < (pathParts path).length

/-- The place to which parts lead from another one, if they stay inside and go through folders. -/
def placeFrom? (f : Folder) (here : List String) : List String → Option (List String)
  | [] => some here
  | part :: parts =>
    if !f.hasFolder here then none
    else if part = ".." then
      if here.isEmpty then none else placeFrom? f here.dropLast parts
    else placeFrom? f (here ++ [part]) parts

/-- The file to which parts lead: its path as they give it, and its content. -/
def file? (f : Folder) (parts : List String) : Option (String × String) := do
  let place ← f.placeFrom? [] parts
  let (_, content) ← List.find? (fun (path, _) => pathParts path = place) f
  return ("/".intercalate parts, content)

/-- The parts of a path with the extension behind the last one. -/
def withExtension? (parts : List String) : Option (List String) :=
  match parts.getLast? with
  | none | some ".." => none
  | some name => some (parts.dropLast ++ [name ++ ".toml"])

/-- **The file that is meant by a path:** the path under which it is found, and its content. -/
def find? (f : Folder) (path : String) : Option (String × String) :=
  if isAbsolute path then none
  else
    let parts := pathParts path
    let exact := if namesFolder path then none else f.file? parts
    exact.or ((withExtension? parts).bind f.file?)

end Folder
end InlineMarkup.Settings
