import TypedClient.Proofs.Document.Single

/-! # Names of a document

The operations of a document that is read from a text are named as the grammar says, and so are
their variables (`hasNames_of_ofText`). The tokens of a text have the characters of their kinds, an
operation has its names from the tokens that its reader takes, and all that has to be known of the
readers of other definitions is that they leave tokens of the text behind (`Advances`).
-/

namespace TypedClient.Document

/-- The operation and its variables have names of the grammar; the operation may have none. -/
structure Operation.HasNames (operation : Operation) : Prop where
  name : ∀ text ∈ operation.name, IsName text
  declared : ∀ definition ∈ operation.variableDefinitions, IsName definition.name

/-- An operation has names of the grammar if its words are such as texts have. -/
theorem Operation.hasNames_of_words {operation : Operation}
    (lexical : ∀ word ∈ operation.words, word.IsLexical) : operation.HasNames := by
  constructor
  · intro text named
    apply lexical (.name text)
    rw [words, Option.mem_def.1 named]
    simp
  · intro definition member
    apply lexical (.name definition.name)
    have own : Token.name definition.name ∈ definition.words := by
      rw [VariableDefinition.words]
      simp
    have inside := List.mem_flatMap.2 ⟨definition, member, own⟩
    rw [words]
    simp [inside]

namespace Reader

variable {α β : Type}

/-- Where all tokens have the characters of their kinds, so have those that the reader leaves. -/
def Advances (reader : Reader α) : Prop :=
  ∀ tokens value rest, reader.run tokens = .ok (value, rest) → tokens.AllLexical → rest.AllLexical

namespace Advances

/-- What has words among its tokens only leaves tokens of its text. -/
theorem of_reads {reader : Reader α} {before : List Token} {words : α → List Token}
    (reads : Reads before reader words) : Advances reader := by
  intro tokens value rest read lexical
  obtain ⟨taken, _, rfl, _, _⟩ := reads _ _ _ read
  exact lexical.of_behind.2

/-- A reader that only looks ahead leaves all tokens. -/
theorem of_looks {reader : Reader α} (looks : Looks reader) : Advances reader := by
  intro tokens value rest read lexical
  rw [looks _ _ _ read]
  exact lexical

theorem pure (value : α) : Advances (pure value) := by
  intro tokens found rest read lexical
  cases read
  exact lexical

theorem throw (fault : SyntaxFault) : Advances (throw fault : Reader α) := by
  intro tokens found rest read
  cases read

/-- One reader after another leaves tokens of the text if each of them does. -/
theorem bind {first : Reader α} {next : α → Reader β} (advances : Advances first)
    (others : ∀ value, Advances (next value)) : Advances (first >>= next) := by
  intro tokens value rest read lexical
  rw [StateT.run_bind] at read
  obtain ⟨⟨found, between⟩, firstRead, nextRead⟩ := bind_eq_ok.1 read
  exact others found _ _ _ nextRead (advances _ _ _ firstRead lexical)

theorem discard {reader : Reader α} (advances : Advances reader) : Advances (discard reader) := by
  change Advances (reader >>= fun _ => Pure.pure ())
  exact advances.bind fun _ => .pure ()

/-- A choice leaves tokens of the text either way. -/
theorem choose {chosen : Prop} [Decidable chosen] {first second : Reader α}
    (yes : Advances first) (no : Advances second) :
    Advances (if chosen then first else second) := by
  split
  · exact yes
  · exact no

end Advances

/-- The first token is left out. -/
theorem advances_take : Advances take := by
  intro tokens value rest read lexical
  cases tokens with
  | done => cases read; exact lexical
  | fault => cases read
  | cons token behind =>
      cases behind with
      | done => cases read; exact lexical.2
      | fault => cases read
      | cons => cases read; exact lexical.2

theorem advances_refuse : Advances (refuse : Reader α) :=
  Advances.bind (.of_looks looks_peek) fun _ => .throw _

theorem advances_description : Advances (Functor.discard description?) :=
  Advances.discard (.of_reads reads_description)

/-! ## Lists -/

section Lists

variable {item : Reader α} (advances : Advances item)

include advances

/-- Items are read one after the other, up to their closing mark. -/
theorem advances_itemsUntil (close : Mark) (bound : Nat) :
    Advances (itemsUntil item close bound) := by
  induction bound with
  | zero => exact .pure []
  | succ bound ih =>
      apply Advances.bind (.of_reads (reads_skip close))
      intro closed
      apply Advances.choose
      · exact .pure []
      · exact advances.bind fun first => ih.bind fun others => .pure _

/-- At least one item stands between the marks. -/
theorem advances_bracketedSome (start close : Mark) :
    Advances (bracketedSome start item close) := by
  apply Advances.bind (.of_reads (reads_mark start))
  intro _
  apply Advances.bind advances
  intro first
  apply Advances.bind (.of_reads reads_remaining)
  intro count
  exact (advances_itemsUntil advances close _).bind fun others => .pure _

/-- The marks and the items between them can be missing. -/
theorem advances_bracketed? (start close : Mark) : Advances (bracketed? start item close) := by
  apply Advances.bind (.of_reads (reads_atMark start))
  intro found
  exact .choose (advances_bracketedSome advances start close) (.pure [])

/-- All items that start with the mark, perhaps none. -/
theorem advances_allAt (start : Mark) : Advances (allAt start item) := by
  have items : ∀ bound, Advances (itemsAt start item bound) := by
    intro bound
    induction bound with
    | zero => exact .pure []
    | succ bound ih =>
        apply Advances.bind (.of_reads (reads_atMark start))
        intro found
        apply Advances.choose
        · exact advances.bind fun first => ih.bind fun others => .pure _
        · exact .pure []
  apply Advances.bind (.of_reads (reads_atMark start))
  intro found
  apply Advances.choose
  · exact Advances.bind (.of_reads reads_remaining) fun count => items _
  · exact .pure []

/-- Items with a separator between them are read one by one. -/
theorem advances_separated (separator : Mark) : Advances (separated separator item) := by
  have items : ∀ bound, Advances (itemsAfter separator item bound) := by
    intro bound
    induction bound with
    | zero => exact .pure []
    | succ bound ih =>
        apply Advances.bind (.of_reads (reads_skip separator))
        intro found
        apply Advances.choose
        · exact advances.bind fun next => ih.bind fun others => .pure _
        · exact .pure []
  apply Advances.bind (Advances.discard (.of_reads (reads_skip separator)))
  intro _
  apply Advances.bind advances
  intro first
  apply Advances.bind (.of_reads reads_remaining)
  intro count
  exact (items _).bind fun others => .pure _

end Lists

/-! ## Definitions of a type system -/

theorem advances_name : Advances name :=
  .of_reads reads_name

theorem advances_mark (mark : Mark) : Advances (Reader.mark mark) :=
  .of_reads (reads_mark mark)

variable (text : String)

/-- The place is looked up in what remains, and nothing is read for it. -/
theorem advances_place : Advances (place text) :=
  Advances.bind (.of_reads reads_remaining) fun _ => .pure _

/-- An argument with the place where it stands. -/
theorem advances_placedArgument : Advances (placedArgument text) := by
  apply advances_name.bind
  intro argumentName
  apply (advances_mark .colon).bind
  intro _
  apply (advances_place text).bind
  intro start
  exact Advances.bind (.of_reads (reads_value true nestingLimit)) fun _ => .pure _

/-- Directives with the places where they stand, for definitions of a type system. -/
theorem advances_placedDirectives : Advances (placedDirectives text) := by
  apply advances_allAt
  apply (advances_place text).bind
  intro start
  apply (advances_mark .atSign).bind
  intro _
  apply advances_name.bind
  intro directiveName
  exact (advances_bracketed? (advances_placedArgument text) _ _).bind fun _ => .pure _

/-- An argument that a definition declares, or a field of an input type. -/
theorem advances_inputValueDefinition : Advances (inputValueDefinition text) := by
  apply advances_description.bind
  intro _
  apply advances_name.bind
  intro found
  apply (advances_mark .colon).bind
  intro _
  apply Advances.bind (.of_reads (reads_type nestingLimit))
  intro inputType
  apply Advances.bind (.of_reads (reads_skip .equals))
  intro given
  dsimp only
  apply Advances.choose
  · apply Advances.bind (.of_reads (reads_value true nestingLimit))
    intro value
    exact (advances_placedDirectives text).bind fun _ => .pure _
  · exact (advances_placedDirectives text).bind fun _ => .pure _

theorem advances_argumentDefinitions : Advances (argumentDefinitions text) :=
  advances_bracketed? (advances_inputValueDefinition text) _ _

/-- The fields that a type declares, with their arguments. -/
theorem advances_fieldDefinitions : Advances (fieldDefinitions text) := by
  apply advances_bracketed?
  apply advances_description.bind
  intro _
  apply advances_name.bind
  intro found
  apply (advances_argumentDefinitions text).bind
  intro taken
  apply (advances_mark .colon).bind
  intro _
  apply Advances.bind (.of_reads (reads_type nestingLimit))
  intro fieldType
  exact (advances_placedDirectives text).bind fun _ => .pure _

/-- The interfaces of a type, if it names any. -/
theorem advances_implementedInterfaces : Advances implementedInterfaces := by
  apply Advances.bind (.of_reads (reads_skipWord "implements"))
  intro found
  exact .choose (advances_separated advances_name _) (.pure [])

/-- A value of an enumeration, unless it is named like a literal. -/
theorem advances_enumValueDefinition : Advances (enumValueDefinition text) := by
  apply advances_description.bind
  intro _
  apply Advances.bind (.of_looks looks_peek)
  intro front
  apply Advances.choose
  · exact .throw _
  · exact advances_name.bind fun found => (advances_placedDirectives text).bind fun _ => .pure _

/-- The type for a kind of operation. -/
theorem advances_rootType : Advances rootType := by
  apply Advances.bind (.of_reads reads_operationKind)
  intro kind
  exact (advances_mark .colon).bind fun _ => advances_name.bind fun _ => .pure _

/-- The kinds of operations of a schema, behind its directives. -/
theorem advances_schemaDefinition : Advances schemaDefinition := by
  apply Advances.bind (.of_reads (reads_directives true nestingLimit))
  intro found
  exact (advances_bracketedSome advances_rootType _ _).bind fun _ => .pure _

/-- An extension of a schema adds directives or kinds of operations. -/
theorem advances_schemaExtension : Advances schemaExtension := by
  apply Advances.bind (.of_reads (reads_directives true nestingLimit))
  intro found
  apply (advances_bracketed? advances_rootType _ _).bind
  intro roots
  exact .choose advances_refuse (.pure _)

/-- The definition of a type of any kind, from its keyword on. -/
theorem advances_typeDefinition (keyword : String) : Advances (typeDefinition text keyword) := by
  apply advances_name.bind
  intro found
  have directives := advances_placedDirectives text
  have fields := advances_fieldDefinitions text
  split
  · exact advances_implementedInterfaces.bind fun _ => directives.bind fun _ =>
      fields.bind fun _ => .pure _
  · exact advances_implementedInterfaces.bind fun _ => directives.bind fun _ =>
      fields.bind fun _ => .pure _
  · apply directives.bind
    intro annotations
    apply Advances.bind (.of_reads (reads_skip .equals))
    intro given
    dsimp only
    exact .choose ((advances_separated advances_name _).bind fun _ => .pure _) (.pure _)
  · exact directives.bind fun _ =>
      (advances_bracketed? (advances_enumValueDefinition text) _ _).bind fun _ => .pure _
  · exact directives.bind fun _ =>
      (advances_bracketed? (advances_inputValueDefinition text) _ _).bind fun _ => .pure _
  · exact directives.bind fun _ => .pure _

/-- The definition of a directive, with the locations that it can stand in. -/
theorem advances_directiveDefinition : Advances (directiveDefinition text) := by
  have location : Advances directiveLocation := by
    apply advances_name.bind
    intro found
    split
    · exact .pure _
    · exact .throw _
  apply (advances_mark .atSign).bind
  intro _
  apply advances_name.bind
  intro found
  apply (advances_argumentDefinitions text).bind
  intro taken
  apply Advances.bind (.of_reads (reads_skipWord "repeatable"))
  intro repeatable
  apply Advances.bind (.of_reads (reads_word "on"))
  intro _
  exact (advances_separated location _).bind fun _ => .pure _

/-- The extension of a schema or of a type. -/
theorem advances_extension : Advances (extension text) := by
  have taken := advances_take.discard
  apply Advances.bind (.of_looks looks_peekSecond)
  intro deciding
  split
  · exact taken.bind fun _ => taken.bind fun _ => advances_schemaExtension.bind fun _ => .pure _
  · apply Advances.choose
    · apply taken.bind
      intro _
      apply taken.bind
      intro _
      apply (advances_typeDefinition text _).bind
      intro definition
      exact .choose advances_refuse (.pure _)
    · exact .throw _
  · exact .throw _

/-- Whatever the deciding token says, a definition leaves tokens of its text. -/
theorem advances_definitionAt (described : Bool) (deciding : Token) :
    Advances (definitionAt text described deciding) := by
  have taken := advances_take.discard
  unfold definitionAt
  split
  · exact .throw _
  · apply Advances.choose
    · exact advances_description.bind fun _ => taken.bind fun _ =>
        advances_schemaDefinition.bind fun _ => .pure _
    apply Advances.choose
    · exact advances_description.bind fun _ => taken.bind fun _ =>
        (advances_typeDefinition text _).bind fun _ => .pure _
    apply Advances.choose
    · exact advances_description.bind fun _ => taken.bind fun _ =>
        (advances_directiveDefinition text).bind fun _ => .pure _
    apply Advances.choose
    · exact Advances.bind (.of_reads reads_operation) fun _ => .pure _
    apply Advances.choose
    · exact Advances.bind (.of_reads reads_fragment) fun _ => .pure _
    apply Advances.choose
    · exact .throw _
    · exact .choose (advances_extension text) (.throw _)
  · exact .throw _

/-- A definition leaves tokens of its text, so what is read behind it has names of the grammar
too. -/
theorem advances_definition : Advances (definition text) := by
  apply Advances.bind (.of_reads (reads_atMark .braceOpen))
  intro bare
  apply Advances.choose
  · exact Advances.bind (.of_reads reads_operation) fun _ => .pure _
  · apply Advances.bind (.of_looks looks_peek)
    intro front
    apply Advances.choose
    · exact Advances.bind (.of_looks looks_peekSecond) fun _ => advances_definitionAt text _ _
    · exact Advances.bind (.of_looks looks_peek) fun _ => advances_definitionAt text _ _

/-! ## Documents -/

variable {text}

/-- A reader of definitions gives operations with names, from tokens of the text. -/
theorem hasNames_of_definition {tokens rest : Tokens} {operation : Operation}
    (read : (definition text).run tokens = .ok (.operation operation, rest))
    (lexical : tokens.AllLexical) : operation.HasNames := by
  obtain ⟨_, taken, rfl, has⟩ := executes_definition text text _ _ _ read trivial
  apply Operation.hasNames_of_words
  intro word member
  exact lexical.of_behind.1 word (has.subset member)

/-- Every operation among the definitions of a text has names of the grammar. -/
theorem hasNames_of_definitions {bound : Nat} {tokens rest : Tokens} {found : List Definition}
    (read : (definitions text bound).run tokens = .ok (found, rest))
    (lexical : tokens.AllLexical) :
    ∀ operation, .operation operation ∈ found → operation.HasNames := by
  induction bound generalizing tokens found with
  | zero =>
      cases read
      intro operation member
      cases member
  | succ bound ih =>
      rw [definitions, StateT.run_bind] at read
      obtain ⟨⟨first, between⟩, firstRead, read⟩ := bind_eq_ok.1 read
      have later := advances_definition text _ _ _ firstRead lexical
      rw [StateT.run_bind] at read
      obtain ⟨⟨front, _⟩, looked, read⟩ := bind_eq_ok.1 read
      obtain ⟨rfl, _⟩ := peek_ok looked
      have own : ∀ operation, .operation operation = first → operation.HasNames := by
        intro operation same
        subst same
        exact hasNames_of_definition firstRead lexical
      split at read
      · cases read
        intro operation member
        exact own operation (List.mem_singleton.1 member)
      · rw [StateT.run_bind] at read
        obtain ⟨⟨others, _⟩, othersRead, same⟩ := bind_eq_ok.1 read
        cases same
        intro operation member
        rcases List.mem_cons.1 member with same | member
        · exact own operation same
        · exact ih othersRead later operation member

end Reader

open Reader

/-- **Names.** Whatever text a document is read from, its operations have names of the grammar. -/
theorem hasNames_of_ofText {text : String} {document : Document}
    (read : Document.ofText text = .ok document) :
    ∀ operation ∈ document.operations, operation.HasNames := by
  obtain ⟨rest, _, found⟩ := readAll_ok.1 read
  rw [Reader.document, StateT.run_bind] at found
  obtain ⟨⟨_, between⟩, looked, found⟩ := bind_eq_ok.1 found
  have lexical : between.AllLexical := by
    have looks : Advances (Functor.discard peek) := .discard (.of_looks looks_peek)
    apply looks _ _ _ looked
    rw [Tokens.ofText]
    exact Lexer.scan_lexical 0 text.toList
  intro operation member
  obtain ⟨definition, inside, same⟩ := List.mem_filterMap.1 member
  have own : definition = .operation operation := by
    cases definition <;> cases same
    rfl
  rw [own] at inside
  exact hasNames_of_definitions found lexical operation inside

end TypedClient.Document
