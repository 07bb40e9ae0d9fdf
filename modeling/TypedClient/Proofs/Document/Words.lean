import TypedClient.Document.Syntax
import TypedClient.Document.Token

/-! # The words of a definition

What a value, a type, a selection or a definition consists of: names, numbers and strings, in the
order in which they are written. Marks are left out, and so are the keywords, which say nothing that
the shape of the tree does not say.
-/

namespace TypedClient.Document

/-- The token that a string is. -/
def StringLiteral.token (literal : StringLiteral) : Token :=
  if literal.block then .blockString literal.text else .string literal.text

/-- The string that a token holds. -/
def Token.literal? : Token → Option StringLiteral
  | .string text => some ⟨text, false⟩
  | .blockString text => some ⟨text, true⟩
  | _ => none

/-- The token of a string holds the string. -/
theorem StringLiteral.literal?_token (literal : StringLiteral) :
    literal.token.literal? = some literal := by
  obtain ⟨text, block⟩ := literal
  cases block <;> rfl

mutual

/-- The words of a value. -/
def Value.words : Value → List Token
  | .variable name => [.name name]
  | .int digits => [.int digits]
  | .float digits => [.float digits]
  | .string literal => [literal.token]
  | .boolean _ => []
  | .null => []
  | .enum name => [.name name]
  | .list items => Value.itemWords items
  | .object fields => Value.fieldWords fields

/-- The words of the items of a list. -/
def Value.itemWords : List Value → List Token
  | [] => []
  | item :: rest => item.words ++ Value.itemWords rest

/-- The words of the fields of an object. -/
def Value.fieldWords : List (String × Value) → List Token
  | [] => []
  | (name, value) :: rest => .name name :: (value.words ++ Value.fieldWords rest)

end

/-- The words of the items of a list follow one another. -/
theorem Value.itemWords_eq (items : List Value) : itemWords items = items.flatMap words := by
  induction items with
  | nil => rw [itemWords]; rfl
  | cons item rest ih => rw [itemWords, ih, List.flatMap_cons]

/-- The words of an object are its keys, each in front of the words of its value. -/
theorem Value.fieldWords_eq (fields : List (String × Value)) :
    fieldWords fields = fields.flatMap fun field => .name field.1 :: field.2.words := by
  induction fields with
  | nil => rw [fieldWords]; rfl
  | cons field rest ih => rw [fieldWords, ih, List.flatMap_cons, List.cons_append]

/-- The words of a type. -/
def TypeRef.words : TypeRef → List Token
  | named name => [.name name]
  | list item => item.words
  | nonNull type => type.words

/-- The words of an argument. -/
def Argument.words (argument : Argument) : List Token :=
  .name argument.name :: argument.value.words

/-- The words of a directive. -/
def Directive.words (directive : Directive) : List Token :=
  .name directive.name :: directive.arguments.flatMap Argument.words

mutual

/-- The words of a selection. -/
def Selection.words : Selection → List Token
  | .field responseName name arguments directives selections =>
    responseName.toList.map .name ++ .name name :: (arguments.flatMap Argument.words ++
      (directives.flatMap Directive.words ++ Selection.allWords selections))
  | .spread name directives => .name name :: directives.flatMap Directive.words
  | .inline onType directives selections =>
    onType.toList.map .name ++ (directives.flatMap Directive.words ++ Selection.allWords selections)

/-- The words of the selections of a selection set. -/
def Selection.allWords : List Selection → List Token
  | [] => []
  | selection :: rest => selection.words ++ Selection.allWords rest

end

/-- The words of selections follow one another. -/
theorem Selection.allWords_eq (selections : List Selection) :
    allWords selections = selections.flatMap words := by
  induction selections with
  | nil => rw [allWords]; rfl
  | cons selection rest ih => rw [allWords, ih, List.flatMap_cons]

/-- The words of the declaration of a variable. -/
def VariableDefinition.words (definition : VariableDefinition) : List Token :=
  definition.description.toList.map (·.token) ++ .name definition.name :: (definition.type.words ++
    (definition.defaultValue.elim [] Value.words ++ definition.directives.flatMap Directive.words))

/-- The words of an operation. -/
def Operation.words (operation : Operation) : List Token :=
  operation.description.toList.map (·.token) ++ (operation.name.toList.map .name ++
    (operation.variableDefinitions.flatMap VariableDefinition.words ++
      (operation.directives.flatMap Directive.words ++ Selection.allWords operation.selections)))

/-- The words of a fragment. -/
def Fragment.words (fragment : Fragment) : List Token :=
  fragment.description.toList.map (·.token) ++ .name fragment.name :: .name fragment.onType ::
    (fragment.directives.flatMap Directive.words ++ Selection.allWords fragment.selections)

/-- The words of an operation or a fragment. -/
def Definition.words : Definition → List Token
  | .operation body => body.words
  | .fragment body => body.words
  | _ => []

/-- The strings among words. -/
def literals (words : List Token) : List StringLiteral :=
  words.filterMap Token.literal?

theorem literals_append (first second : List Token) :
    literals (first ++ second) = literals first ++ literals second :=
  List.filterMap_append

/-- The strings of an operation or a fragment. -/
def Definition.literals (definition : Definition) : List StringLiteral :=
  Document.literals definition.words

end TypedClient.Document
