import TypedClient.Document.BlockString
import TypedClient.Document.Syntax
import TypedClient.Document.Token

/-! # Writing GraphQL documents

The canonical text of values, types and executable definitions. Selections stand on lines of their
own, two blanks further in than the selection set they belong to. The arguments of a field stand on
one line as long as that line, counted without its margin, keeps within `lineLimit`; the arguments
of a directive always do.

Nested text is moved right by putting the margin behind every line feed, those inside of block
strings included: the margin is common to all lines of a block string, so its value stays the same.
-/

namespace TypedClient.Document

/-- The text with two blanks behind every line feed. -/
def nest (text : String) : String :=
  String.ofList (Text.indentAfterNewlines [' ', ' '] text.toList)

/-- The text between two others, or nothing if it is empty. -/
def wrap (before text after : String) : String :=
  if text.isEmpty then "" else before ++ text ++ after

/-- The texts that are not empty, with a separator between them. -/
def joinFilled (separator : String) (texts : List String) : String :=
  String.intercalate separator (texts.filter (!·.isEmpty))

/-! ## Strings -/

/-- A character as it stands in a string. -/
def escapeChar (c : Char) : List Char :=
  if c = '"' then ['\\', '"']
  else if c = '\\' then ['\\', '\\']
  else if c = Char.ofNat 0x08 then ['\\', 'b']
  else if c = '\t' then ['\\', 't']
  else if c = '\n' then ['\\', 'n']
  else if c = Char.ofNat 0x0c then ['\\', 'f']
  else if c = '\r' then ['\\', 'r']
  else if c.toNat < 0x20 ∨ (0x7f ≤ c.toNat ∧ c.toNat ≤ 0x9f) then
    '\\' :: 'u' :: (codePointDigits c.toNat).toList
  else [c]

/-- The text of a string. -/
def StringLiteral.print (literal : StringLiteral) : String :=
  if literal.block then String.ofList (BlockString.print literal.text.toList)
  else String.ofList ('"' :: (literal.text.toList.flatMap escapeChar ++ ['"']))

/-- The line with a description, if there is one. -/
def printDescription : Option StringLiteral → String
  | some literal => literal.print ++ "\n"
  | none => ""

/-! ## Values and types -/

mutual

/-- The text of a value. -/
def Value.print : Value → String
  | .variable name => "$" ++ name
  | .int digits => digits
  | .float digits => digits
  | .string literal => literal.print
  | .boolean true => "true"
  | .boolean false => "false"
  | .null => "null"
  | .enum name => name
  | .list items => "[" ++ String.intercalate ", " (Value.printItems items) ++ "]"
  | .object fields => "\x7b" ++ String.intercalate ", " (Value.printFields fields) ++ "\x7d"

/-- The texts of the items of a list. -/
def Value.printItems : List Value → List String
  | [] => []
  | item :: rest => item.print :: Value.printItems rest

/-- The texts of the fields of an object. -/
def Value.printFields : List (String × Value) → List String
  | [] => []
  | (name, value) :: rest => (name ++ ": " ++ value.print) :: Value.printFields rest

end

/-- The text of a type. -/
def TypeRef.print : TypeRef → String
  | named name => name
  | list item => "[" ++ item.print ++ "]"
  | nonNull type => type.print ++ "!"

/-! ## Arguments and directives -/

/-- The text of an argument. -/
def Argument.print (argument : Argument) : String :=
  argument.name ++ ": " ++ argument.value.print

/-- The text of a directive. -/
def Directive.print (directive : Directive) : String :=
  "@" ++ directive.name ++
    wrap "(" (String.intercalate ", " (directive.arguments.map Argument.print)) ")"

/-- The text of directives, one behind the other. -/
def printDirectives (directives : List Directive) : String :=
  String.intercalate " " (directives.map Directive.print)

/-! ## Selections -/

/-- A field and its arguments are spread over several lines if they take more characters than this
on one. -/
def lineLimit : Nat := 80

/-- The text of a field up to its arguments. -/
def printFieldHead (responseName : Option String) (name : String) (arguments : List Argument) :
    String :=
  let label := match responseName with
    | some alternative => alternative ++ ": " ++ name
    | none => name
  let texts := arguments.map Argument.print
  let line := label ++ wrap "(" (String.intercalate ", " texts) ")"
  if line.length > lineLimit then
    label ++ wrap "(\n  " (nest (String.intercalate "\n" texts)) "\n)"
  else line

/-- The text of a selection set, given the texts of its selections. -/
def printBlock (texts : List String) : String :=
  if texts.isEmpty then "" else
    "\x7b\n  " ++ nest (String.intercalate "\n" texts) ++ "\n\x7d"

mutual

/-- The text of a selection. -/
def Selection.print : Selection → String
  | .field responseName name arguments directives selections =>
    joinFilled " " [printFieldHead responseName name arguments, printDirectives directives,
      printBlock (Selection.printAll selections)]
  | .spread name directives => "..." ++ name ++ wrap " " (printDirectives directives) ""
  | .inline onType directives selections =>
    joinFilled " " ["...", onType.elim "" ("on " ++ ·), printDirectives directives,
      printBlock (Selection.printAll selections)]

/-- The texts of the selections of a selection set. -/
def Selection.printAll : List Selection → List String
  | [] => []
  | selection :: rest => selection.print :: Selection.printAll rest

end

/-- The text of a selection set. -/
def printSelections (selections : List Selection) : String :=
  printBlock (Selection.printAll selections)

/-! ## Definitions -/

/-- The text of the declaration of a variable. -/
def VariableDefinition.print (definition : VariableDefinition) : String :=
  printDescription definition.description ++ "$" ++ definition.name ++ ": " ++
    definition.type.print ++ (definition.defaultValue.elim "" (" = " ++ ·.print)) ++
    wrap " " (printDirectives definition.directives) ""

/-- The text of the declarations of variables, on lines of their own if one of them takes several
lines. -/
def printVariables (definitions : List VariableDefinition) : String :=
  let texts := definitions.map VariableDefinition.print
  if texts.any (·.toList.contains '\n') then
    wrap "(\n" (String.intercalate "\n" texts) "\n)"
  else wrap "(" (String.intercalate ", " texts) ")"

/-- The text of an operation. A query that says nothing else is written as its selection set. -/
def Operation.print (operation : Operation) : String :=
  let head := joinFilled " " [operation.kind.keyword,
    operation.name.getD "" ++ printVariables operation.variableDefinitions,
    printDirectives operation.directives]
  let body := printSelections operation.selections
  match operation.description with
  | some literal => literal.print ++ "\n" ++ head ++ " " ++ body
  | none => if head = "query" then body else head ++ " " ++ body

/-- The text of a fragment. -/
def Fragment.print (fragment : Fragment) : String :=
  printDescription fragment.description ++ "fragment " ++ fragment.name ++ " on " ++
    fragment.onType ++ " " ++ wrap "" (printDirectives fragment.directives) " " ++
    printSelections fragment.selections

end TypedClient.Document
