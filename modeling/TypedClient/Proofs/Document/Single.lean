import TypedClient.Proofs.Document.Reading

/-! # Documents of one definition

A text that reads as a single operation or fragment has its strings, in order (`strings_of_ofText`),
and any other text with the same tokens reads as the same definition (`ofText_congr`). Definitions
of a type system have places and depend on the text; the operation or the fragment does not.
-/

namespace TypedClient.Document

/-- The definition is an operation or a fragment. -/
def Definition.IsExecutable : Definition → Prop
  | .operation _ => True
  | .fragment _ => True
  | _ => False

/-- The strings among tokens that go on to the end of the text. -/
def Tokens.strings? : Tokens → Option (List StringLiteral)
  | done => some []
  | .fault _ => none
  | cons token rest => rest.strings?.map (token.literal?.toList ++ ·)

/-- The strings of a text are the literals among the tokens that were taken from it. -/
theorem Tokens.strings_behind (taken : List Token) :
    (Tokens.behind taken .done).strings? = some (literals taken) := by
  induction taken with
  | nil => rfl
  | cons token taken ih =>
      change (Tokens.cons token (.behind taken .done)).strings? = _
      rw [strings?, ih, literals, literals, List.filterMap_cons]
      cases token.literal? <;> rfl

namespace Reader

/-- The readers agree on operations and fragments, and take tokens that have the words of these. -/
def Executes (reader other : Reader Definition) : Prop :=
  ∀ tokens definition rest, reader.run tokens = .ok (definition, rest) → definition.IsExecutable →
    other.run tokens = .ok (definition, rest) ∧
      ∃ taken, tokens = .behind taken rest ∧ HasWords taken definition.words

/-- A reader of words gives the same definition in any text with the same tokens. -/
theorem Executes.of_reads {reader : Reader Definition}
    (reads : Reads [] reader Definition.words) : Executes reader reader := by
  intro tokens definition rest read _
  obtain ⟨taken, more, same, own, has⟩ := reads _ _ _ read
  rw [own]
  exact ⟨read, taken, same, has⟩

/-- Only tokens are looked at. -/
def Looks {α : Type} (reader : Reader α) : Prop :=
  ∀ tokens value rest, reader.run tokens = .ok (value, rest) → rest = tokens

/-- To look ahead takes no token. -/
theorem looks_peek : Looks peek :=
  fun _ _ _ read => (peek_ok read).1

theorem looks_peekSecond : Looks peekSecond := by
  intro tokens value rest read
  match tokens, read with
  | .done, read => cases read; rfl
  | .cons _ .done, read => cases read; rfl
  | .cons _ (.cons _ _), read => cases read; rfl

/-- A first look does not change what executes. -/
theorem Executes.bind {α : Type} {first : Reader α} {next other : α → Reader Definition}
    (looks : Looks first) (others : ∀ value, Executes (next value) (other value)) :
    Executes (first >>= next) (first >>= other) := by
  intro tokens definition rest read executable
  rw [StateT.run_bind] at read
  obtain ⟨⟨value, between⟩, firstRead, nextRead⟩ := bind_eq_ok.1 read
  obtain rfl := looks _ _ _ firstRead
  obtain ⟨same, taken⟩ := others value _ _ _ nextRead executable
  rw [StateT.run_bind]
  exact ⟨bind_eq_ok.2 ⟨_, firstRead, same⟩, taken⟩

/-- Nothing executable comes of a fault. -/
theorem Executes.throw (fault : SyntaxFault) (other : Reader Definition) :
    Executes (throw fault) other := by
  intro tokens definition rest read
  cases read

/-- The reader gives neither operations nor fragments. -/
def Declares (reader : Reader Definition) : Prop :=
  ∀ tokens definition rest, reader.run tokens = .ok (definition, rest) → ¬definition.IsExecutable

/-- A reader of definitions that execute nothing can stand for any other one. -/
theorem Declares.executes {reader : Reader Definition} (declares : Declares reader)
    (other : Reader Definition) : Executes reader other :=
  fun _ _ _ some executable => absurd executable (declares _ _ _ some)

/-- What declares in the end declares all along. -/
theorem Declares.bind {α : Type} {first : Reader α} {next : α → Reader Definition}
    (others : ∀ value, Declares (next value)) : Declares (first >>= next) := by
  intro tokens definition rest read
  rw [StateT.run_bind] at read
  obtain ⟨⟨value, between⟩, _, nextRead⟩ := bind_eq_ok.1 read
  exact others value _ _ _ nextRead

/-- A definition of a type system is declared. -/
theorem Declares.pure {definition : Definition} (other : ¬definition.IsExecutable) :
    Declares (pure definition) := by
  intro tokens found rest read
  cases read
  exact other

theorem Declares.throw (fault : SyntaxFault) : Declares (throw fault) := by
  intro tokens found rest read
  cases read

/-- An extension only declares. -/
theorem declares_extension (text : String) : Declares (extension text) := by
  refine .bind fun token => ?_
  split
  · exact .bind fun _ => .bind fun _ => .bind fun _ => .pure id
  · split
    · refine .bind fun _ => .bind fun _ => .bind fun definition => ?_
      split
      · exact .bind fun _ => .throw _
      · exact .pure id
    · exact .throw _
  · exact .throw _

/-- A choice between readers that execute executes. -/
theorem Executes.choose {chosen : Prop} [Decidable chosen]
    {first second first' second' : Reader Definition} (yes : Executes first first')
    (no : Executes second second') :
    Executes (if chosen then first else second) (if chosen then first' else second') := by
  split
  · exact yes
  · exact no

/-- An operation is read the same way from any text. -/
theorem executes_operation :
    Executes (do return .operation (← operation)) (do return .operation (← operation)) :=
  .of_reads (reads_operation.bind fun _ => .pure rfl)

/-- A fragment is read the same way from any text. -/
theorem executes_fragment :
    Executes (do return .fragment (← fragment)) (do return .fragment (← fragment)) :=
  .of_reads (reads_fragment.bind fun _ => .pure rfl)

/-- The reader of a definition, given the token that decides its kind. -/
def definitionAt (text : String) (described : Bool) (deciding : Token) : Reader Definition :=
  match deciding with
  | .mark .braceOpen => throw .describedShorthand
  | .name keyword =>
    if keyword == "schema" then do
      discard description?
      discard Reader.take
      return .schema (← schemaDefinition)
    else if keyword ∈ typeKeywords then do
      discard description?
      discard Reader.take
      return .type (← typeDefinition text keyword)
    else if keyword == "directive" then do
      discard description?
      discard Reader.take
      return .directive (← directiveDefinition text)
    else if (OperationKind.ofKeyword? keyword).isSome then do
      return .operation (← operation)
    else if keyword == "fragment" then do
      return .fragment (← fragment)
    else if described then throw .describedNonDefinition
    else if keyword == "extend" then extension text
    else throw (.unexpected deciding)
  | _ => throw (.unexpected deciding)

/-- The places in a text matter only for definitions of a type system. -/
theorem executes_definitionAt (text other : String) (described : Bool) (deciding : Token) :
    Executes (definitionAt text described deciding) (definitionAt other described deciding) := by
  unfold definitionAt
  split
  · exact .throw _ _
  · have schema : Declares (do
        discard description?
        discard Reader.take
        return .schema (← schemaDefinition)) :=
      .bind fun _ => .bind fun _ => .bind fun _ => .pure id
    have type (keyword : String) : Declares (do
        discard description?
        discard Reader.take
        return .type (← typeDefinition text keyword)) :=
      .bind fun _ => .bind fun _ => .bind fun _ => .pure id
    have directive : Declares (do
        discard description?
        discard Reader.take
        return .directive (← directiveDefinition text)) :=
      .bind fun _ => .bind fun _ => .bind fun _ => .pure id
    refine .choose (schema.executes _) (.choose ((type _).executes _)
      (.choose (directive.executes _) (.choose executes_operation (.choose executes_fragment
      (.choose (.throw _ _) (.choose ((declares_extension text).executes _) (.throw _ _)))))))
  · exact .throw _ _

/-- To ask for a mark takes no token. -/
theorem looks_atMark (mark : Mark) : Looks (atMark mark) := by
  intro tokens value rest read
  rw [atMark, StateT.run_bind] at read
  obtain ⟨⟨_, _⟩, front, same⟩ := bind_eq_ok.1 read
  cases same
  exact (peek_ok front).1

/-- Of the definitions in two texts with the same tokens, those that can be executed are the
same. -/
theorem executes_definition (text other : String) :
    Executes (definition text) (definition other) := by
  refine .bind (looks_atMark .braceOpen) fun bare => .choose executes_operation ?_
  refine .bind looks_peek fun front => .choose ?_ ?_
  · exact .bind looks_peekSecond fun deciding => executes_definitionAt text other _ deciding
  · exact .bind looks_peek fun deciding => executes_definitionAt text other _ deciding

/-! ## Whole documents -/

/-- All tokens are taken. -/
def AtEnd (tokens : Tokens) : Prop :=
  peek.run tokens = .ok (.endOfDocument, tokens)

/-- A text of definitions has at least one. -/
theorem definitions_ne_nil {text : String} {bound : Nat} {tokens rest : Tokens} :
    (definitions text (bound + 1)).run tokens ≠ .ok ([], rest) := by
  intro read
  rw [definitions, StateT.run_bind] at read
  obtain ⟨⟨first, between⟩, _, read⟩ := bind_eq_ok.1 read
  rw [StateT.run_bind] at read
  obtain ⟨⟨front, _⟩, _, read⟩ := bind_eq_ok.1 read
  split at read
  · cases read
  · obtain ⟨⟨_, _⟩, _, same⟩ := bind_eq_ok.1 read
    cases same

/-- A single definition is read from a text as the only one of its definitions. -/
theorem definitions_single {text : String} {bound : Nat} {tokens rest : Tokens}
    {definition : Definition} (ended : AtEnd rest) :
    (definitions text (bound + 1)).run tokens = .ok ([definition], rest) ↔
      (Reader.definition text).run tokens = .ok (definition, rest) := by
  rw [definitions, StateT.run_bind]
  constructor
  · intro read
    obtain ⟨⟨first, between⟩, found, read⟩ := bind_eq_ok.1 read
    rw [StateT.run_bind] at read
    obtain ⟨⟨front, _⟩, front_, read⟩ := bind_eq_ok.1 read
    obtain ⟨rfl, _⟩ := peek_ok front_
    split at read
    · cases read
      exact found
    · next other =>
      rw [StateT.run_bind] at read
      obtain ⟨⟨others, _⟩, further, same⟩ := bind_eq_ok.1 read
      cases same
      cases bound with
      | zero =>
          cases further
          rw [ended] at front_
          cases front_
          exact absurd rfl other
      | succ bound => exact absurd further definitions_ne_nil
  · intro found
    refine bind_eq_ok.2 ⟨_, found, ?_⟩
    rw [StateT.run_bind, ended]
    rfl

/-- The end of a document is where the tokens are at their end. -/
theorem endOfDocument_ok {tokens rest : Tokens} :
    endOfDocument.run tokens = .ok ((), rest) ↔ rest = tokens ∧ AtEnd tokens := by
  rw [endOfDocument, StateT.run_bind, bind_eq_ok]
  constructor
  · rintro ⟨⟨front, _⟩, found, ended⟩
    obtain ⟨rfl, _⟩ := peek_ok found
    dsimp only at ended
    split at ended
    · next isEnd =>
      obtain rfl := eq_of_beq isEnd
      cases ended
      exact ⟨rfl, found⟩
    · cases ended
  · rintro ⟨rfl, ended⟩
    exact ⟨_, ended, rfl⟩

/-- What is read from a whole text leaves nothing behind. -/
theorem readAll_ok {α : Type} {reader : Reader α} {text : String} {value : α} :
    readAll reader text = .ok value ↔
      ∃ rest, AtEnd rest ∧ reader.run (Tokens.ofText text) = .ok (value, rest) := by
  rw [readAll]
  simp only [StateT.run_bind, bind_eq_ok, Prod.exists]
  constructor
  · rintro ⟨_, _, ⟨found, rest, read, _, _, ended, same⟩, last⟩
    obtain ⟨rfl, ended⟩ := endOfDocument_ok.1 ended
    cases same
    cases last
    exact ⟨_, ended, read⟩
  · rintro ⟨rest, ended, read⟩
    exact ⟨_, _, ⟨_, _, read, _, _, endOfDocument_ok.2 ⟨rfl, ended⟩, rfl⟩, rfl⟩

/-- A document of one definition is read by its reader. -/
theorem document_single {text : String} {tokens rest : Tokens} {definition : Definition}
    (ended : AtEnd rest) : (document text).run tokens = .ok ([definition], rest) ↔
      (Reader.definition text).run tokens = .ok (definition, rest) := by
  rw [← @definitions_single text tokens.length _ _ _ ended]
  cases tokens with
  | done => exact Iff.rfl
  | cons => exact Iff.rfl
  | fault fault =>
      constructor
      · intro same
        cases same
      · intro same
        cases same

end Reader

open Reader

/-- A text is a document of one definition exactly if the definition is all that it holds. -/
theorem ofText_single {text : String} {definition : Definition} :
    Document.ofText text = .ok [definition] ↔ ∃ rest, AtEnd rest ∧
      (Reader.definition text).run (Tokens.ofText text) = .ok (definition, rest) := by
  rw [Document.ofText, readAll_ok]
  exact exists_congr fun rest => and_congr_right fun ended => document_single ended

/-- The tokens have the characters of their kinds. -/
def Tokens.AllLexical : Tokens → Prop
  | done => True
  | .fault _ => True
  | cons token rest => token.IsLexical ∧ rest.AllLexical

/-- Every token of a text has the characters of its kind. -/
theorem Lexer.scan_lexical (skip : Nat) (text : List Char) : (scan skip text).AllLexical := by
  fun_induction scan skip text with
  | case1 => trivial
  | case2 skip c rest ih => exact ih
  | case3 c rest separator ih => exact ih
  | case4 rest separator ih => exact ih
  | case5 => trivial
  | case6 c rest _ _ token count found ih => exact ⟨lexeme_spelled found, ih⟩

/-- Tokens with the characters of their kinds can be split anywhere. -/
theorem Tokens.AllLexical.of_behind {taken : List Token} {rest : Tokens}
    (lexical : (Tokens.behind taken rest).AllLexical) :
    (∀ token ∈ taken, token.IsLexical) ∧ rest.AllLexical := by
  induction taken with
  | nil => exact ⟨fun _ member => absurd member List.not_mem_nil, lexical⟩
  | cons token taken ih =>
      obtain ⟨others, last⟩ := ih lexical.2
      exact ⟨List.forall_mem_cons.2 ⟨lexical.1, others⟩, last⟩

/-- The words of a definition are words of the text, and its strings are those of the text. -/
theorem strings_of_ofText {text : String} {definition : Definition}
    (executable : definition.IsExecutable) (read : Document.ofText text = .ok [definition]) :
    (Tokens.ofText text).strings? = some definition.literals ∧
      ∀ word ∈ definition.words, word.IsLexical := by
  obtain ⟨rest, ended, found⟩ := ofText_single.1 read
  obtain ⟨_, taken, same, has⟩ := executes_definition text text _ _ _ found executable
  have lexical := Lexer.scan_lexical 0 text.toList
  rw [← Tokens.ofText, same] at lexical
  obtain ⟨words, last⟩ := lexical.of_behind
  have last : rest = .done := by
    cases rest with
    | done => rfl
    | fault => cases ended
    | cons token others =>
        cases ended
        exact absurd last.1 id
  refine ⟨?_, fun word member => words word (has.subset member)⟩
  rw [same, last, Tokens.strings_behind, has.literals_eq]
  rfl

/-- What a text reads as is a matter of its tokens. -/
theorem ofText_congr {text other : String} {definition : Definition}
    (executable : definition.IsExecutable) (read : Document.ofText text = .ok [definition])
    (same : Tokens.ofText other = Tokens.ofText text) :
    Document.ofText other = .ok [definition] := by
  obtain ⟨rest, ended, found⟩ := ofText_single.1 read
  rw [← same] at found
  exact ofText_single.2 ⟨rest, ended, (executes_definition text other _ _ _ found executable).1⟩

end TypedClient.Document
