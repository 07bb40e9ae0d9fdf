import TypedClient.Text.Basic

/-! # Paths

A path is a text of names with slashes between them. It is absolute if it starts with a slash. A
location is the list of the names that lead from the root to a file or folder; `Path.normalize`
gives the location that a path denotes if one only looks at its text.
-/

namespace TypedClient.Path

/-- The names of a path. Slashes side by side have an empty name between them. -/
def components (path : String) : List String :=
  (Text.pieces '/' path.toList).map String.ofList

/-- The path starts at the root. -/
def isAbsolute (path : String) : Bool :=
  path.toList.head? == some '/'

/-- The path holds a null character. Systems end a path there, so that no path can hold one. -/
def hasNull (path : String) : Bool :=
  path.toList.contains (Char.ofNat 0)

/-- The name takes more bytes than the name of a file can. -/
def isLongName (name : String) : Bool :=
  255 < name.utf8ByteSize

/-- The path takes more bytes than a path can. -/
def isLong (path : String) : Bool :=
  4095 < path.utf8ByteSize

/-- The path of an entry of a folder. A slash comes between, unless the folder ends with one. -/
def join (folder name : String) : String :=
  if folder = "" ∨ folder.toList.getLast? = some '/' then folder ++ name
  else folder ++ "/" ++ name

/-- The slashes that a path is left with at its start. Two are kept, of any other number one. -/
def rootOf (path : String) : String :=
  match (path.toList.takeWhile (· = '/')).length with
  | 0 => ""
  | 2 => "//"
  | _ => "/"

/-- The path without names that are empty or lead nowhere else. -/
def simplify (path : String) : String :=
  let names := (components path).filter fun name => name ≠ "" ∧ name ≠ "."
  let text := rootOf path ++ String.intercalate "/" names
  if text = "" then "." else text

/-- The location after following a name from another location. -/
def follow (location : List String) (name : String) : List String :=
  if name = "" ∨ name = "." then location
  else if name = ".." then location.dropLast
  else location ++ [name]

/-- The location of a path, seen from the folder at `here`. -/
def normalize (here : List String) (path : String) : List String :=
  (components path).foldl follow (if isAbsolute path then [] else here)

/-- The absolute path of a location. -/
def ofLocation (location : List String) : String :=
  "/" ++ String.intercalate "/" location

/-- The name behind the last slash. -/
def lastName (path : List Char) : List Char :=
  (path.reverse.takeWhile (· ≠ '/')).reverse

/-- The ending of the last name, from its last point on. Points at the beginning of the name start
no ending. -/
def extension (path : String) : String :=
  let name := lastName path.toList
  let ending := (name.reverse.takeWhile (· ≠ '.')).reverse
  let stem := name.take (name.length - ending.length - 1)
  if '.' ∈ name ∧ stem.any (· ≠ '.') then String.ofList ('.' :: ending) else ""

end TypedClient.Path
