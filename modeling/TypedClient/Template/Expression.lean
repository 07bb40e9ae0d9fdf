import TypedClient.Template.Token
import TypedClient.Template.Value

/-! # Expressions in templates

What an output of a custom template prints: a name or a literal, from which one goes on to members,
to items and through filters. Names are looked up in a scope; one that is not there is missing.

The readers at the end take the tokens of an output. Each level of the grammar uses up one of the
bound that they share, and each takes a token, so a bound that grows with the number of tokens is
never used up.
-/

namespace TypedClient.Template

/-- An expression. -/
inductive Expression where
  | lookup (name : String)
  | literal (value : TemplateValue)
  | member (of : Expression) (name : String)
  | item (of key : Expression)
  | negated (of : Expression)
  | signed (of : Expression)
  | called (of : Expression) (given : List (Option String × Expression))
  | filtered (of : Expression) (filter : Filter) (given : List (Option String × Expression))
  deriving Repr

namespace Expression

/-- The expression that a name stands for; the names of flags and of nothing are literals. -/
def ofName (text : String) : Expression :=
  match text with
  | "true" => literal (.flag true)
  | "True" => literal (.flag true)
  | "false" => literal (.flag false)
  | "False" => literal (.flag false)
  | "none" => literal .nothing
  | "None" => literal .nothing
  | _ => lookup text

mutual

/-- All filters of the expression are known. -/
def isKnown : Expression → Bool
  | .lookup _ => true
  | .literal _ => true
  | .member of _ => of.isKnown
  | .item of key => of.isKnown && key.isKnown
  | .negated of => of.isKnown
  | .signed of => of.isKnown
  | .called of given => of.isKnown && areKnown given
  | .filtered of filter given => filter ≠ .unknown && of.isKnown && areKnown given

/-- All filters of the given expressions are known. -/
def areKnown : List (Option String × Expression) → Bool
  | [] => true
  | (_, expression) :: rest => expression.isKnown && areKnown rest

end

section

variable (scope : List (String × TemplateValue))

mutual

/-- The value of an expression. No value can be called. -/
def value : Expression → Except TemplateFault TemplateValue
  | .lookup name => .ok ((scope.lookup name).getD .missing)
  | .literal value => .ok value
  | .member of name => do (← value of).member name
  | .item of key => do (← value of).item (← value key)
  | .negated of => do (← value of).negate
  | .signed of => do (← value of).keepSign
  | .called of given => do
    let callee ← value of
    discard (values given)
    match callee with
    | .missing => throw .undefinedValue
    | _ => throw .unsuitableValue
  | .filtered of filter given => do filter.apply (← value of) (← values given)

/-- The values of the given expressions. -/
def values : List (Option String × Expression) →
    Except TemplateFault (List (Option String × TemplateValue))
  | [] => .ok []
  | (name, expression) :: rest => do
    let first ← value expression
    return (name, first) :: (← values rest)

end

end

/-! ## Reading expressions -/

/-- Reads from the front of the tokens of an output. -/
abbrev Reading := StateT (List Token) Option

/-- Takes the token in front. -/
def take : Reading Token := do
  match ← get with
  | [] => failure
  | token :: rest => do
    set rest
    return token

/-- Takes the mark if it stands in front. -/
def skip? (mark : Char) : Reading Bool := do
  match ← get with
  | .mark found :: rest => do
    if found = mark then
      set rest
      return true
    else return false
  | _ => return false

/-- Takes the mark. -/
def mark (mark : Char) : Reading Unit := do
  unless ← skip? mark do failure

/-- Takes the texts in front, which are parts of one. -/
def moreText : (bound : Nat) → Reading RawText
  | 0 => return []
  | bound + 1 => do
    match ← get with
    | .text content :: rest => do
      set rest
      return content ++ (← moreText bound)
    | _ => return []

/-- Takes the name of a filter, which may have points in it. -/
def filterName : (bound : Nat) → Reading String
  | 0 => failure
  | bound + 1 => do
    match ← take with
    | .name text => do
      if ← skip? '.' then return text ++ "." ++ (← filterName bound) else return text
    | _ => failure

/-- Takes the name in front of an equals sign, if both stand in front. -/
def argumentName? : Reading (Option String) := do
  match ← get with
  | .name text :: .mark '=' :: rest => do
    set rest
    return some text
  | _ => return none

mutual

/-- Reads an expression, with its filters if they may follow. -/
def read (filters : Bool) : (bound : Nat) → Reading Expression
  | 0 => failure
  | bound + 1 => do
    let first ← match ← take with
      | .name text => if text = "not" then failure else pure (ofName text)
      | .number value => pure (literal (.number value))
      | .decimal value => pure (literal (.decimal value))
      | .text content => do pure (literal (.text (content ++ (← moreText bound))))
      | .mark '-' => do pure (negated (← read false bound))
      | .mark '+' => do pure (signed (← read false bound))
      | .mark '(' => do
        let inner ← read true bound
        mark ')'
        pure inner
      | .mark _ => failure
    let stepped ← readSteps first bound
    if filters then readFilters stepped bound else return stepped

/-- Reads the steps from an expression to its members and items. -/
def readSteps (start : Expression) : (bound : Nat) → Reading Expression
  | 0 => failure
  | bound + 1 => do
    if ← skip? '.' then
      match ← take with
      | .name text => readSteps (member start text) bound
      | .number value => readSteps (item start (literal (.number value))) bound
      | _ => failure
    else if ← skip? '[' then
      let key ← read true bound
      mark ']'
      readSteps (item start key) bound
    else if ← skip? '(' then readSteps (called start (← readGiven bound)) bound
    else return start

/-- Reads the filters behind an expression. -/
def readFilters (start : Expression) : (bound : Nat) → Reading Expression
  | 0 => failure
  | bound + 1 => do
    if ← skip? '|' then
      let filter ← filterName bound
      let given ← do
        if ← skip? '(' then readGiven bound else pure []
      readFilters (filtered start (Filter.ofName filter) given) bound
    else if ← skip? '(' then readFilters (called start (← readGiven bound)) bound
    else return start

/-- Reads what is given in parentheses, behind the opening one. -/
def readGiven : (bound : Nat) → Reading (List (Option String × Expression))
  | 0 => failure
  | bound + 1 => do
    if ← skip? ')' then return []
    else
      let name ← argumentName?
      let first ← read true bound
      if ← skip? ',' then return (name, first) :: (← readGiven bound)
      else
        mark ')'
        return [(name, first)]

end

/-- The expression that tokens make up. -/
def ofTokens? (tokens : List Token) : Option Expression :=
  match (read true (2 * tokens.length + 2)).run tokens with
  | some (expression, []) => some expression
  | _ => none

end Expression

end TypedClient.Template
