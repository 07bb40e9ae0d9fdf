import TypedClient.Document.Reader
import TypedClient.Document.Syntax

/-! # Reading values, types and executable definitions

The grammar of values, types, selection sets, operations and fragments. Where the grammar nests,
`room` is the number of levels that may still be opened. Selection sets, lists and objects open a
level each, and so do list types; a value inside of a selection set has only the room that the
selection sets around it leave (`nestingLimit`).
-/

namespace TypedClient.Document

namespace Reader

/-- A description in front of a definition. -/
def description? : Reader (Option StringLiteral) := do
  match ← peek with
  | .string text => do
    discard take
    return some ⟨text, false⟩
  | .blockString text => do
    discard take
    return some ⟨text, true⟩
  | _ => return none

/-- The number of levels that a document can have. -/
def nestingLimit : Nat := 200

/-- Refuses to open a level too many. -/
def refuseLevel {α : Type} : Reader α :=
  throw .nestedTooDeeply

/-! ## Values and types -/

/-- A variable. -/
def variableName : Reader String := do
  mark .dollar
  name

/-- A value that opens no level. A constant value is no variable. -/
def leafValue (constant : Bool) : Reader Value := do
  match ← peek with
  | .mark .dollar =>
    if constant then
      discard take
      match ← peek with
      | .name text => throw (.variableInConstant text)
      | _ => throw (.unexpected (.mark .dollar))
    else return .variable (← variableName)
  | .int digits => do
    discard take
    return .int digits
  | .float digits => do
    discard take
    return .float digits
  | .string text => do
    discard take
    return .string ⟨text, false⟩
  | .blockString text => do
    discard take
    return .string ⟨text, true⟩
  | .name text => do
    discard take
    return match text with
      | "true" => .boolean true
      | "false" => .boolean false
      | "null" => .null
      | _ => .enum text
  | _ => refuse

/-- A value. A constant value holds no variables. -/
def value (constant : Bool) : (room : Nat) → Reader Value
  | 0 => do
    match ← peek with
    | .mark .bracketOpen => refuseLevel
    | .mark .braceOpen => refuseLevel
    | _ => leafValue constant
  | room + 1 => do
    match ← peek with
    | .mark .bracketOpen =>
      return .list (← bracketed .bracketOpen (value constant room) .bracketClose)
    | .mark .braceOpen =>
      let field : Reader (String × Value) := do
        let fieldName ← name
        mark .colon
        return (fieldName, ← value constant room)
      return .object (← bracketed .braceOpen field .braceClose)
    | _ => leafValue constant

/-- The type, without null values if an exclamation mark follows. -/
def markedType (inner : TypeRef) : Reader TypeRef := do
  if ← skip? .bang then return .nonNull inner else return inner

/-- A type. -/
def type : (room : Nat) → Reader TypeRef
  | 0 => do
    if ← skip? .bracketOpen then refuseLevel else markedType (.named (← name))
  | room + 1 => do
    if ← skip? .bracketOpen then
      let item ← type room
      mark .bracketClose
      markedType (.list item)
    else markedType (.named (← name))

/-! ## Arguments and directives -/

/-- An argument. -/
def argument (constant : Bool) (room : Nat) : Reader Argument := do
  let argumentName ← name
  mark .colon
  return ⟨argumentName, ← value constant room⟩

/-- Arguments in parentheses, perhaps none. -/
def arguments (constant : Bool) (room : Nat) : Reader (List Argument) :=
  bracketed? .parenOpen (argument constant room) .parenClose

/-- A directive. -/
def directive (constant : Bool) (room : Nat) : Reader Directive := do
  mark .atSign
  let directiveName ← name
  return ⟨directiveName, ← arguments constant room⟩

/-- Directives one after the other, perhaps none. -/
def directives (constant : Bool) (room : Nat) : Reader (List Directive) :=
  allAt .atSign (directive constant room)

/-! ## Selections -/

/-- The name of a fragment. What has the text `on` is refused as it stands. -/
def fragmentName : Reader String := do
  if (← peek).text? = some "on" then refuse else name

/-- A selection set. Without room for it, it is refused even where it is missing. -/
def selections : (room : Nat) → Reader (List Selection)
  | 0 => refuseLevel
  | room + 1 =>
    let selection : Reader Selection := do
      if ← skip? .ellipsis then
        if ← skipWord? "on" then
          let onType ← name
          let found ← directives false room
          return .inline (some onType) found (← selections room)
        else match ← peek with
          | .name _ => do
            let spreadName ← fragmentName
            return .spread spreadName (← directives false room)
          | _ => do
            let found ← directives false room
            return .inline none found (← selections room)
      else
        let first ← name
        let second ← do
          if ← skip? .colon then pure (some (← name)) else pure none
        let given ← arguments false room
        let found ← directives false room
        let nested ← do
          if ← atMark .braceOpen then selections room else pure []
        match second with
        | some fieldName => return .field (some first) fieldName given found nested
        | none => return .field none first given found nested
    bracketedSome .braceOpen selection .braceClose

/-! ## Definitions -/

/-- The kind of an operation. -/
def operationKind : Reader OperationKind := do
  let found ← name
  match OperationKind.ofKeyword? found with
  | some kind => return kind
  | none => throw (.unexpected (.name found))

/-- The declaration of a variable. -/
def variableDefinition : Reader VariableDefinition := do
  let description ← description?
  let declared ← variableName
  mark .colon
  let variableType ← type nestingLimit
  let defaultValue ← do
    if ← skip? .equals then pure (some (← value true nestingLimit)) else pure none
  return ⟨description, declared, variableType, defaultValue, ← directives true nestingLimit⟩

/-- An operation, or a bare selection set, which is an anonymous query. -/
def operation : Reader Operation := do
  if ← atMark .braceOpen then
    return ⟨none, .query, none, [], [], ← selections nestingLimit⟩
  else
    let description ← description?
    let kind ← operationKind
    let operationName ← do
      match ← peek with
      | .name _ => pure (some (← name))
      | _ => pure none
    let declared ← bracketed? .parenOpen variableDefinition .parenClose
    let found ← directives false nestingLimit
    return ⟨description, kind, operationName, declared, found, ← selections nestingLimit⟩

/-- A fragment. -/
def fragment : Reader Fragment := do
  let description ← description?
  word "fragment"
  let found ← fragmentName
  word "on"
  let onType ← name
  let annotations ← directives false nestingLimit
  return ⟨description, found, onType, annotations, ← selections nestingLimit⟩

end Reader

/-- Reads the text of a value. -/
def Value.ofText (text : String) : Except SyntaxFault Value :=
  Reader.readAll (Reader.value false Reader.nestingLimit) text

/-- Reads the text of a type. -/
def TypeRef.ofText (text : String) : Except SyntaxFault TypeRef :=
  Reader.readAll (Reader.type Reader.nestingLimit) text

end TypedClient.Document
