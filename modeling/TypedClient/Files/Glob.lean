import TypedClient.Files.Tree

/-! # Path patterns

A pattern is a path in which names can be wild: an asterisk stands for any characters, a question
mark for one, a set in brackets for one of its characters or, with an exclamation mark in front, for
any other. Two asterisks as a whole name stand for any number of folders. A wild name never stands
for a name with a leading point unless it starts with one itself.

The names in front of the first wild one are kept as they are written. From there on the paths found
so far are extended name by name (`Glob.paths`).
-/

namespace TypedClient.Glob

/-- A piece of a wild name. -/
inductive Item where
  | char (c : Char)
  | anyChar
  | anyChars
  | set (negated : Bool) (ranges : List (Char × Char))
  deriving DecidableEq, Repr

/-- A name of a pattern. -/
inductive Name where
  | plain (text : String)
  | wild (items : List Item)
  | anyDepth
  deriving DecidableEq, Repr

/-! ## Reading patterns -/

/-- The stretches of a set between the hyphens of its ranges. A hyphen within the first `least`
characters is no such hyphen, and neither is one at the end. -/
def cutAtHyphens (least : Nat) (text : List Char) : List (List Char) :=
  let stretch := text.take least ++ (text.drop least).takeWhile (· ≠ '-')
  match _rest : text.drop stretch.length with
  | [] => [text]
  | [_] => [text]
  | _ :: c :: after => stretch :: cutAtHyphens 2 (c :: after)
termination_by text.length
decreasing_by
  have shorter := congrArg List.length _rest
  simp only [List.length_drop, List.length_cons] at shorter ⊢
  omega

/-- Puts a stretch in front of others. A range from a higher to a lower character is empty: its ends
are left out, and what stands around it belongs together. -/
def joinStretch (stretch : List Char) : List (List Char) → List (List Char)
  | [] => [stretch]
  | next :: others =>
    match stretch.getLast?, next.head? with
    | some low, some high =>
      if high < low then (stretch.dropLast ++ next.drop 1) :: others
      else stretch :: next :: others
    | _, _ => stretch :: next :: others

/-- The range of a single character. -/
def single (c : Char) : Char × Char :=
  (c, c)

/-- The ranges of a stretch and of those behind it. The last character of a stretch and the first
one of the next are the ends of a range; a hyphen without a character before it stands for
itself. -/
def rangesOf (stretch : List Char) : List (List Char) → List (Char × Char)
  | [] => stretch.map single
  | next :: others =>
    match stretch.getLast? with
    | none => single '-' :: rangesOf next others
    | some low =>
      stretch.dropLast.map single ++ (low, next.headD low) :: rangesOf (next.drop 1) others

/-- The set of some stretches. An exclamation mark in front of what is left of them negates it. -/
def setOfStretches : List (List Char) → Item
  | [] => .set false []
  | ('!' :: first) :: others => .set true (rangesOf first others)
  | first :: others => .set false (rangesOf first others)

/-- The set behind an opening bracket and the number of characters that it takes, if the bracket is
closed. A closing bracket that is the first character of the set belongs to it. -/
def setOf? (text : List Char) : Option (Item × Nat) :=
  let mark := text.take 1 |>.filter (· = '!')
  let rest := text.drop mark.length
  let body := rest.take 1 ++ (rest.drop 1).takeWhile (· ≠ ']')
  if body.length < rest.length then
    let stretches := cutAtHyphens (mark.length + 1) (mark ++ body)
    some (setOfStretches (stretches.foldr joinStretch []), mark.length + body.length + 1)
  else none

/-- The pieces of a name, whose first `skip` characters are read already. -/
def itemsOf : (skip : Nat) → List Char → List Item
  | _, [] => []
  | skip + 1, _ :: rest => itemsOf skip rest
  | 0, c :: rest =>
    if c = '*' then .anyChars :: itemsOf 0 rest
    else if c = '?' then .anyChar :: itemsOf 0 rest
    else if c = '[' then
      match setOf? rest with
      | some (item, count) => item :: itemsOf count rest
      | none => .char c :: itemsOf 0 rest
    else .char c :: itemsOf 0 rest

/-- The name has characters that make it wild. -/
def isWild (name : String) : Bool :=
  name.toList.any fun c => c = '*' || c = '?' || c = '['

/-- The name that a text stands for. -/
def nameOf (text : String) : Name :=
  if text = "**" then .anyDepth
  else if isWild text then .wild (itemsOf 0 text.toList)
  else .plain text

/-- The text without slashes at its end, unless it has nothing else. -/
def dropSlashes (text : String) : String :=
  let kept := text.toList.reverse.dropWhile (· = '/')
  if kept.isEmpty then text else String.ofList kept.reverse

/-- Leaves out empty names, except for the last one. -/
def dropInnerEmpty : List String → List String
  | [] => []
  | [last] => [last]
  | name :: rest => if name = "" then dropInnerEmpty rest else name :: dropInnerEmpty rest

/-! ## Matching names -/

/-- The piece stands for the character. -/
def Item.accepts (item : Item) (c : Char) : Bool :=
  match item with
  | char own => own == c
  | anyChar => true
  | anyChars => true
  | set negated ranges => negated != ranges.any fun range => range.1 ≤ c && c ≤ range.2

/-- Whether some entry from a place on is true, for each place. -/
def anyFrom : List Bool → List Bool
  | [] => []
  | entry :: rest => (entry || rest.any id) :: anyFrom rest

/-- Whether the pieces stand for an end of the text, for each end from the whole text to nothing. -/
def acceptedEnds (text : List Char) : List Item → List Bool
  | [] => text.map (fun _ => false) ++ [true]
  | .anyChars :: items => anyFrom (acceptedEnds text items)
  | item :: items =>
    text.zipWith (fun c accepted => item.accepts c && accepted)
      ((acceptedEnds text items).drop 1) ++ [false]

/-- The pieces stand for the text. -/
def accepts (items : List Item) (text : List Char) : Bool :=
  (acceptedEnds text items).headD false

theorem acceptedEnds_length (text : List Char) (items : List Item) :
    (acceptedEnds text items).length = text.length + 1 := by
  have anyFrom_length (entries : List Bool) : (anyFrom entries).length = entries.length := by
    induction entries with
    | nil => rfl
    | cons entry rest ih => simp [anyFrom, ih]
  induction items with
  | nil => simp [acceptedEnds]
  | cons item items ih => cases item <;> simp [acceptedEnds, anyFrom_length, ih]

/-- The ends of a longer text are the text itself and the ends of what follows its first
character. -/
theorem acceptedEnds_cons (c : Char) (text : List Char) (items : List Item) :
    acceptedEnds (c :: text) items = accepts items (c :: text) :: acceptedEnds text items := by
  have headD_cons {entries rest : List Bool} {entry : Bool} (h : entries = entry :: rest) :
      entries = entries.headD false :: rest := by simp [h]
  suffices ∃ entry, acceptedEnds (c :: text) items = entry :: acceptedEnds text items by
    obtain ⟨entry, split⟩ := this
    exact headD_cons split
  induction items with
  | nil => exact ⟨false, rfl⟩
  | cons item items ih =>
    obtain ⟨entry, split⟩ := ih
    obtain ⟨first, rest, ends⟩ := List.exists_cons_of_length_eq_add_one
      (acceptedEnds_length text items)
    cases item <;> simp [acceptedEnds, anyFrom, split, ends]

theorem accepts_nil_cons (c : Char) (text : List Char) : accepts [] (c :: text) = false := rfl

/-- An asterisk stands for nothing, or for the first character and what it stands for behind it. -/
theorem accepts_anyChars_cons (c : Char) (text : List Char) (items : List Item) :
    accepts (.anyChars :: items) (c :: text) =
      (accepts items (c :: text) || accepts (.anyChars :: items) text) := by
  obtain ⟨first, rest, ends⟩ := List.exists_cons_of_length_eq_add_one
    (acceptedEnds_length text items)
  have split := acceptedEnds_cons c text items
  rw [ends] at split
  simp [accepts.eq_1 (.anyChars :: items), acceptedEnds, split, ends, anyFrom]

/-- Any other piece stands for one character. -/
theorem accepts_cons_cons {item : Item} (h : item ≠ .anyChars) (c : Char) (text : List Char)
    (items : List Item) :
    accepts (item :: items) (c :: text) = (item.accepts c && accepts items text) := by
  obtain ⟨first, rest, ends⟩ := List.exists_cons_of_length_eq_add_one
    (acceptedEnds_length text items)
  have split := acceptedEnds_cons c text items
  rw [accepts, accepts, ends]
  cases item <;> simp_all [acceptedEnds]

/-- The name has a leading point. -/
def isHidden (name : String) : Bool :=
  name.toList.head? == some '.'

/-- The wild name stands for the name. -/
def acceptsName (items : List Item) (name : String) : Bool :=
  (items.head? == some (.char '.') || !isHidden name) && accepts items name.toList

/-! ## Matching paths -/

mutual

/-- The paths of everything in a tree that is not hidden, given the path of the tree. -/
def visibleIn (path : String) : FileTree → List String
  | .file _ => []
  | .folder entries => visibleEntries path entries

/-- The paths of some entries of a folder and of everything in them that is not hidden. -/
def visibleEntries (path : String) : List (String × FileTree) → List String
  | [] => []
  | (name, tree) :: rest =>
    (if isHidden name then []
      else Path.join path name :: visibleIn (Path.join path name) tree) ++
      visibleEntries path rest

end

/-- What stands at a path, which is the working folder if it is empty. -/
def treeAt (system : FileSystem) (path : String) : Option FileTree :=
  system.at? (if path = "" then "." else path)

/-- The paths that continue a path by a name. An empty name continues the path of a folder by a
slash. -/
def extend (system : FileSystem) (path : String) (name : Name) : List String :=
  match name with
  | .plain "" => match treeAt system path with
    | some (.folder _) => [Path.join path ""]
    | _ => []
  | .plain text => if system.has (Path.join path text) then [Path.join path text] else []
  | .wild items => match treeAt system path with
    | some (.folder entries) =>
      ((entries.map (·.1)).filter (acceptsName items)).map (Path.join path)
    | _ => []
  | .anyDepth => Path.join path "" :: match treeAt system path with
    | some tree => visibleIn path tree
    | none => []

/-- The names in front of the first wild one. -/
def fixedNames (pattern : String) : List String :=
  (Path.components pattern).takeWhile fun name => !isWild name

/-- The path below which everything lies that matches a pattern, empty for the working folder. -/
def fixedPath (pattern : String) : String :=
  dropSlashes (String.join ((fixedNames pattern).map (· ++ "/")))

/-- The names from the first wild one on. -/
def wildNames (pattern : String) : List Name :=
  (dropInnerEmpty ((Path.components pattern).drop (fixedNames pattern).length)).map nameOf

/-- The folder in which the first wild name is looked for has a path with a null character. -/
def isUnlistable (pattern : String) : Bool :=
  !(wildNames pattern).isEmpty && Path.hasNull (fixedPath pattern)

/-- The paths that match a pattern with a wild name. -/
def paths (system : FileSystem) (pattern : String) : List String :=
  match wildNames pattern with
  | [] => []
  | names => names.foldl (fun found name => found.flatMap (extend system · name))
      [fixedPath pattern]

end TypedClient.Glob
