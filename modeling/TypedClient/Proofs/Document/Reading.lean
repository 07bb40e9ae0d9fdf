import TypedClient.Document.Reader.TypeSystem
import TypedClient.Proofs.Document.Lexeme

/-! # What readers take

A reader of values, selections or executable definitions takes tokens from the front, and the words
of what it reads are among them, the strings in order and no others (`Reads`). So the strings of a
definition are those of the text that it is read from, and its names and numbers are names and
numbers of the text.
-/

namespace TypedClient.Document

/-- The tokens with others in front of them. -/
def Tokens.behind (taken : List Token) (rest : Tokens) : Tokens :=
  taken.foldr .cons rest

/-- The words are among the tokens, and so are their strings and no others. -/
structure HasWords (taken words : List Token) : Prop where
  subset : words ⊆ taken
  literals_eq : literals taken = literals words

/-- What is taken in two parts has the words of both. -/
theorem HasWords.append {taken words more others : List Token} (first : HasWords taken words)
    (second : HasWords more others) : HasWords (taken ++ more) (words ++ others) :=
  ⟨List.append_subset.2 ⟨List.subset_append_of_subset_left more first.subset,
      List.subset_append_of_subset_right taken second.subset⟩, by
    rw [literals_append, literals_append, first.literals_eq, second.literals_eq]⟩

theorem HasWords.refl (words : List Token) : HasWords words words :=
  ⟨List.Subset.refl words, rfl⟩

/-- A token that holds no string can be taken for no word at all. -/
theorem HasWords.of_literal {token : Token} (bare : token.literal? = .none) :
    HasWords [token] [] :=
  ⟨List.nil_subset _, by rw [literals, List.filterMap_cons_none bare]; rfl⟩

namespace Reader

variable {α β : Type} {before : List Token} {words : α → List Token}

/-- What the reader takes has the words of what it gives, apart from those taken before. -/
def Reads (before : List Token) (reader : Reader α) (words : α → List Token) : Prop :=
  ∀ tokens value rest, reader.run tokens = .ok (value, rest) →
    ∃ taken more, tokens = .behind taken rest ∧ words value = before ++ more ∧ HasWords taken more

/-- The same where the token is in front. -/
def ReadsAt (token : Token) (before : List Token) (reader : Reader α) (words : α → List Token) :
    Prop :=
  ∀ tokens value rest, peek.run tokens = .ok (token, tokens) →
    reader.run tokens = .ok (value, rest) →
      ∃ taken more, tokens = .behind taken rest ∧ words value = before ++ more ∧ HasWords taken more

/-- What a reader takes whatever comes first, it takes if this token does. -/
theorem Reads.at {reader : Reader α} (reads : Reads before reader words) (token : Token) :
    ReadsAt token before reader words :=
  fun tokens value rest _ => reads tokens value rest

/-- A value of the right words ends a reading. -/
theorem Reads.pure {value : α} (same : words value = before) : Reads before (pure value) words := by
  intro tokens found rest read
  cases read
  exact ⟨[], [], rfl, by rw [same, List.append_nil], .refl []⟩

/-- A reading that fails has no words to account for. -/
theorem Reads.throw (fault : SyntaxFault) : Reads before (throw fault : Reader α) words := by
  intro tokens found rest read
  cases read

/-- The words of one value stand in front of those of the next. -/
theorem Reads.bind {first : Reader β} {firstWords : β → List Token} {next : β → Reader α}
    (reads : Reads [] first firstWords)
    (others : ∀ value, Reads (before ++ firstWords value) (next value) words) :
    Reads before (first >>= next) words := by
  intro tokens found rest read
  rw [StateT.run_bind] at read
  obtain ⟨⟨value, between⟩, firstRead, nextRead⟩ := bind_eq_ok.1 read
  obtain ⟨taken, more, rfl, own, has⟩ := reads _ _ _ firstRead
  obtain ⟨further, others, rfl, behind, hasOthers⟩ := others value _ _ _ nextRead
  refine ⟨taken ++ further, more ++ others, ?_, ?_, has.append hasOthers⟩
  · rw [Tokens.behind, Tokens.behind, Tokens.behind, List.foldr_append]
  · rw [behind, own, List.nil_append, List.append_assoc]

/-! ## The token in front -/

/-- Looking ahead takes nothing, and what is seen is the next token. -/
theorem peek_ok {tokens rest : Tokens} {token : Token}
    (read : peek.run tokens = .ok (token, rest)) :
    rest = tokens ∧ (token ≠ .endOfDocument → ∃ behind, tokens = .cons token behind) := by
  cases tokens with
  | done => cases read; exact ⟨rfl, fun other => absurd rfl other⟩
  | fault => cases read
  | cons => cases read; exact ⟨rfl, fun _ => ⟨_, rfl⟩⟩

/-- To look ahead, and then to read on in a way that may depend on what was seen. -/
theorem Reads.peek {next : Token → Reader α}
    (others : ∀ token, ReadsAt token before (next token) words) :
    Reads before (peek >>= next) words := by
  intro tokens found rest read
  rw [StateT.run_bind] at read
  obtain ⟨⟨token, between⟩, front, nextRead⟩ := bind_eq_ok.1 read
  obtain ⟨rfl, _⟩ := peek_ok front
  exact others token _ _ _ front nextRead

/-- Taking a token that is in front. -/
theorem ReadsAt.take {token : Token} {own : List Token} {next : Unit → Reader α}
    (real : token ≠ .endOfDocument) (has : HasWords [token] own)
    (others : Reads (before ++ own) (next ()) words) :
    ReadsAt token before (discard take >>= next) words := by
  intro tokens found rest front read
  obtain ⟨_, cons⟩ := peek_ok front
  obtain ⟨behind, rfl⟩ := cons real
  have taken : (next ()).run behind = .ok (found, rest) := by
    cases behind with
    | fault => cases read
    | done => exact read
    | cons => exact read
  obtain ⟨further, more, rfl, same, hasMore⟩ := others _ _ _ taken
  exact ⟨token :: further, own ++ more, rfl, by rw [same, List.append_assoc], has.append hasMore⟩

/-- What has no words. -/
def noWords {β : Type} (_ : β) : List Token := []

/-- To ask for a mark takes no words. -/
theorem reads_atMark (mark : Mark) : Reads [] (atMark mark) noWords :=
  Reads.peek fun token => (Reads.pure rfl).at token

/-- To ask for a mark, and then to read on in a way that depends on the answer. -/
theorem Reads.atMark {mark : Mark} {next : Bool → Reader α}
    (others : ∀ token, ReadsAt token before (next (token == .mark mark)) words) :
    Reads before (atMark mark >>= next) words := by
  have same : Reader.atMark mark >>= next = Reader.peek >>= fun token =>
      next (token == .mark mark) := by
    rw [Reader.atMark, bind_assoc]
    simp only [pure_bind]
  rw [same]
  exact Reads.peek others

/-- A mark that is skipped is no word. -/
theorem reads_skip (mark : Mark) : Reads [] (skip? mark) noWords := by
  refine Reads.atMark fun token => ?_
  split
  · next same =>
    obtain rfl := eq_of_beq same
    exact ReadsAt.take Token.noConfusion (.of_literal rfl) (.pure rfl)
  · exact (Reads.pure rfl).at token

/-- A mark is no word. -/
theorem reads_mark (mark : Mark) : Reads [] (Reader.mark mark) noWords := by
  refine (reads_skip mark).bind fun taken => ?_
  split
  · exact .pure rfl
  · exact .peek fun token => (Reads.throw _).at token

theorem reads_skipWord (word : String) : Reads [] (skipWord? word) noWords := by
  refine Reads.peek fun token => ?_
  split
  · next same =>
    obtain rfl := eq_of_beq same
    exact ReadsAt.take Token.noConfusion ⟨List.nil_subset _, rfl⟩ (.pure rfl)
  · exact (Reads.pure rfl).at token

/-- A keyword that has to stand here is none of the words of a value. -/
theorem reads_word (word : String) : Reads [] (Reader.word word) noWords := by
  refine (reads_skipWord word).bind fun taken => ?_
  split
  · exact .pure rfl
  · exact .peek fun token => (Reads.throw _).at token

theorem reads_remaining : Reads [] remaining noWords := by
  intro tokens count rest read
  cases read
  exact ⟨[], [], rfl, rfl, .refl []⟩

/-- The word that a name is. -/
def nameWords (text : String) : List Token := [.name text]

/-- A name is taken as a word. -/
theorem reads_name : Reads [] name nameWords := by
  refine Reads.peek fun token => ?_
  split
  · exact ReadsAt.take Token.noConfusion (.refl _) (.pure rfl)
  · exact (Reads.throw _).at _

theorem reads_refuse : Reads before (refuse : Reader α) words :=
  .peek fun token => (Reads.throw _).at token

/-! ## Lists -/

variable {item : Reader α}

/-- The items up to a closing mark have their words one after the other. -/
theorem reads_itemsUntil (reads : Reads [] item words) (close : Mark) (bound : Nat) :
    Reads [] (itemsUntil item close bound) (List.flatMap words) := by
  induction bound with
  | zero => exact .pure rfl
  | succ bound ih =>
      refine (reads_skip close).bind fun closed => ?_
      split
      · exact .pure rfl
      · refine reads.bind fun first => ih.bind fun others => .pure ?_
        simp [noWords]

theorem reads_bracketed (start : Mark) (reads : Reads [] item words) (close : Mark) :
    Reads [] (bracketed start item close) (List.flatMap words) :=
  (reads_mark start).bind fun _ => reads_remaining.bind fun _ =>
    reads_itemsUntil reads close _

/-- Items between two marks, of which there is at least one. -/
theorem reads_bracketedSome (start : Mark) (reads : Reads [] item words) (close : Mark) :
    Reads [] (bracketedSome start item close) (List.flatMap words) := by
  refine (reads_mark start).bind fun _ => reads.bind fun first => reads_remaining.bind fun _ =>
    (reads_itemsUntil reads close _).bind fun others => .pure ?_
  simp [noWords]

/-- Items between two marks, or nothing. -/
theorem reads_bracketed? (start : Mark) (reads : Reads [] item words) (close : Mark) :
    Reads [] (bracketed? start item close) (List.flatMap words) := by
  refine (reads_atMark start).bind fun found => ?_
  split
  · exact reads_bracketedSome start reads close
  · exact .pure rfl

/-- Items that each begin with a mark, as long as there are more. -/
theorem reads_itemsAt (start : Mark) (reads : Reads [] item words) (bound : Nat) :
    Reads [] (itemsAt start item bound) (List.flatMap words) := by
  induction bound with
  | zero => exact .pure rfl
  | succ bound ih =>
      refine (reads_atMark start).bind fun found => ?_
      split
      · refine reads.bind fun first => ih.bind fun others => .pure ?_
        simp [noWords]
      · exact .pure rfl

/-- All items that begin with a mark. -/
theorem reads_allAt (start : Mark) (reads : Reads [] item words) :
    Reads [] (allAt start item) (List.flatMap words) := by
  refine (reads_atMark start).bind fun found => ?_
  split
  · exact reads_remaining.bind fun _ => reads_itemsAt start reads _
  · exact .pure rfl

/-! ## Values and types -/

/-- The words of what may be missing. -/
def someWords (words : α → List Token) (found : Option α) : List Token :=
  found.elim [] words

/-- A description is a string, or it is missing. -/
theorem reads_description :
    Reads [] description? fun found => found.toList.map (·.token) := by
  refine Reads.peek fun token => ?_
  split
  · exact ReadsAt.take Token.noConfusion (.refl _) (.pure rfl)
  · exact ReadsAt.take Token.noConfusion (.refl _) (.pure rfl)
  · exact (Reads.pure rfl).at _

theorem reads_variableName : Reads [] variableName nameWords :=
  (reads_mark .dollar).bind fun _ => reads_name

/-- A keyword gives a value without words. -/
theorem reads_leafValue (constant : Bool) : Reads [] (leafValue constant) Value.words := by
  refine Reads.peek fun token => ?_
  split
  · split
    · refine ReadsAt.take Token.noConfusion (.of_literal rfl) (.peek fun token => ?_)
      split <;> exact (Reads.throw _).at _
    · refine (reads_variableName.bind fun name => .pure ?_).at _
      rfl
  · exact ReadsAt.take Token.noConfusion (.refl _) (.pure rfl)
  · exact ReadsAt.take Token.noConfusion (.refl _) (.pure rfl)
  · exact ReadsAt.take Token.noConfusion (.refl _) (.pure rfl)
  · exact ReadsAt.take Token.noConfusion (.refl _) (.pure rfl)
  · next text =>
    have keyword : HasWords [Token.name text] [] := ⟨List.nil_subset _, rfl⟩
    split
    · exact ReadsAt.take Token.noConfusion keyword (.pure rfl)
    · exact ReadsAt.take Token.noConfusion keyword (.pure rfl)
    · exact ReadsAt.take Token.noConfusion keyword (.pure rfl)
    · exact ReadsAt.take Token.noConfusion (.refl _) (.pure rfl)
  · exact reads_refuse.at _

/-- A value, constant or not, has the words that it consists of. -/
theorem reads_value (constant : Bool) (room : Nat) :
    Reads [] (value constant room) Value.words := by
  induction room with
  | zero =>
      refine .peek fun token => ?_
      split
      · exact (Reads.throw _).at _
      · exact (Reads.throw _).at _
      · exact (reads_leafValue constant).at _
  | succ room ih =>
      refine .peek fun token => ?_
      split
      · refine ((reads_bracketed .bracketOpen ih .bracketClose).bind fun items => .pure ?_).at _
        rw [Value.words, Value.itemWords_eq, List.nil_append]
      · refine ((reads_bracketed .braceOpen (?_ : Reads [] _ fun field : String × Value =>
          .name field.1 :: field.2.words) .braceClose).bind fun fields => .pure ?_).at _
        · refine reads_name.bind fun name => (reads_mark .colon).bind fun _ => ih.bind fun value =>
            .pure rfl
        · rw [Value.words, Value.fieldWords_eq, List.nil_append]
      · exact (reads_leafValue constant).at _

/-- A type with its mark for values that are always there. -/
theorem reads_markedType (inner : TypeRef) :
    Reads inner.words (markedType inner) TypeRef.words := by
  refine (reads_skip .bang).bind fun marked => ?_
  split
  · exact .pure (by rw [TypeRef.words, noWords, List.append_nil])
  · exact .pure (by rw [noWords, List.append_nil])

/-- A type, with the lists that it is nested in. -/
theorem reads_type (room : Nat) : Reads [] (type room) TypeRef.words := by
  induction room with
  | zero =>
      refine (reads_skip .bracketOpen).bind fun opened => ?_
      split
      · exact .throw _
      · exact reads_name.bind fun name => reads_markedType (.named name)
  | succ room ih =>
      refine (reads_skip .bracketOpen).bind fun opened => ?_
      split
      · refine ih.bind fun item => (reads_mark .bracketClose).bind fun _ => ?_
        rw [noWords, noWords, List.append_nil]
        exact reads_markedType (.list item)
      · exact reads_name.bind fun name => reads_markedType (.named name)

/-! ## Arguments and directives -/

theorem reads_argument (constant : Bool) (room : Nat) :
    Reads [] (argument constant room) Argument.words :=
  reads_name.bind fun _ => (reads_mark .colon).bind fun _ => (reads_value constant room).bind
    fun _ => .pure rfl

/-- Arguments have the words of each. -/
theorem reads_arguments (constant : Bool) (room : Nat) :
    Reads [] (arguments constant room) (List.flatMap Argument.words) :=
  reads_bracketed? .parenOpen (reads_argument constant room) .parenClose

theorem reads_directive (constant : Bool) (room : Nat) :
    Reads [] (directive constant room) Directive.words :=
  (reads_mark .atSign).bind fun _ => reads_name.bind fun _ => (reads_arguments constant room).bind
    fun _ => .pure rfl

/-- Directives have the words of each. -/
theorem reads_directives (constant : Bool) (room : Nat) :
    Reads [] (directives constant room) (List.flatMap Directive.words) :=
  reads_allAt .atSign (reads_directive constant room)

/-! ## Selections and definitions -/

/-- The name of a fragment is any name but one. -/
theorem reads_fragmentName : Reads [] fragmentName nameWords := by
  refine .peek fun token => ?_
  split
  · exact reads_refuse.at _
  · exact reads_name.at _

/-- What follows the names of a field. -/
theorem reads_field {room : Nat} {front : List Token}
    {build : List Argument → List Directive → List Selection → Selection}
    (nested : Reads [] (selections room) (List.flatMap Selection.words))
    (words : ∀ given found selections, (build given found selections).words =
      front ++ given.flatMap Argument.words ++ found.flatMap Directive.words ++
        selections.flatMap Selection.words) :
    Reads front
      (do
        let given ← arguments false room
        let found ← directives false room
        let nested ← do
          if ← atMark .braceOpen then selections room else pure []
        return build given found nested) Selection.words := by
  refine (reads_arguments false room).bind fun given => (reads_directives false room).bind
    fun found => (reads_atMark .braceOpen).bind fun opened => ?_
  rw [noWords, List.append_nil]
  dsimp only
  split
  · exact nested.bind fun selections => .pure (words given found selections)
  · refine .pure ?_
    rw [words, List.flatMap_nil, List.append_nil]

/-- Selections have the words of each, at any depth. -/
theorem reads_selections (room : Nat) :
    Reads [] (selections room) (List.flatMap Selection.words) := by
  induction room with
  | zero => exact .throw _
  | succ room ih =>
      refine reads_bracketedSome .braceOpen ?_ .braceClose
      refine (reads_skip .ellipsis).bind fun spread => ?_
      split
      · refine (reads_skipWord "on").bind fun typed => ?_
        split
        · refine reads_name.bind fun onType => (reads_directives false room).bind fun found =>
            ih.bind fun nested => .pure ?_
          simp [Selection.words, Selection.allWords_eq, noWords, nameWords]
        · refine .peek fun token => ?_
          split
          · refine (reads_fragmentName.bind fun name => (reads_directives false room).bind
              fun found => .pure ?_).at _
            simp [Selection.words, noWords, nameWords]
          · refine ((reads_directives false room).bind fun found =>
              ih.bind fun nested => .pure ?_).at _
            simp [Selection.words, Selection.allWords_eq, noWords]
      · refine reads_name.bind fun first => ?_
        refine (reads_skip .colon).bind fun given => ?_
        rw [noWords, List.append_nil, noWords, List.append_nil, List.nil_append]
        dsimp only
        split
        · refine reads_name.bind fun name => reads_field ih fun given found nested => ?_
          simp [Selection.words, Selection.allWords_eq, nameWords]
        · refine reads_field ih fun given found nested => ?_
          simp [Selection.words, Selection.allWords_eq, nameWords]

/-- The definition of a variable, with its default value and directives. -/
theorem reads_variableDefinition : Reads [] variableDefinition VariableDefinition.words := by
  refine reads_description.bind fun description => reads_variableName.bind fun declared =>
    (reads_mark .colon).bind fun _ => (reads_type nestingLimit).bind fun type =>
    (reads_skip .equals).bind fun given => ?_
  dsimp only
  split
  · refine (reads_value true nestingLimit).bind fun value =>
      (reads_directives true nestingLimit).bind fun found => .pure ?_
    simp [VariableDefinition.words, noWords, nameWords]
  · refine (reads_directives true nestingLimit).bind fun found => .pure ?_
    simp [VariableDefinition.words, noWords, nameWords]

/-- The kind of an operation is a keyword, so the name is not among the words. -/
theorem reads_operationKind : Reads [] operationKind noWords := by
  have named : Reads [] name noWords := by
    intro tokens value rest read
    obtain ⟨taken, more, same, own, has⟩ := reads_name _ _ _ read
    refine ⟨taken, [], same, rfl, List.nil_subset _, ?_⟩
    rw [has.literals_eq, ← List.nil_append more, ← own]
    rfl
  refine named.bind fun found => ?_
  split
  · exact .pure rfl
  · exact .throw _

/-- An operation has its words, whether it begins with a keyword or is only a selection. -/
theorem reads_operation : Reads [] operation Operation.words := by
  refine (reads_atMark .braceOpen).bind fun bare => ?_
  split
  · refine (reads_selections nestingLimit).bind fun found => .pure ?_
    simp [Operation.words, Selection.allWords_eq, noWords]
  · refine reads_description.bind fun description => reads_operationKind.bind fun kind => ?_
    have named (name : Option String) : Reads
        (description.toList.map (·.token) ++ someWords nameWords name)
        (do
          let declared ← bracketed? .parenOpen variableDefinition .parenClose
          let found ← directives false nestingLimit
          return ⟨description, kind, name, declared, found, ← selections nestingLimit⟩)
        Operation.words := by
      refine (reads_bracketed? .parenOpen reads_variableDefinition .parenClose).bind fun declared =>
        (reads_directives false nestingLimit).bind fun found =>
        (reads_selections nestingLimit).bind fun selected => .pure ?_
      cases name <;> simp [Operation.words, Selection.allWords_eq, nameWords, someWords]
    refine .peek fun token => ?_
    rw [noWords, List.append_nil, noWords, List.append_nil, List.nil_append]
    dsimp only
    split
    · exact (reads_name.bind fun name => named (some name)).at _
    · have unnamed := named none
      rw [someWords, Option.elim_none, List.append_nil] at unnamed
      exact unnamed.at _

/-- A fragment has its words. -/
theorem reads_fragment : Reads [] fragment Fragment.words := by
  refine reads_description.bind fun description => (reads_word "fragment").bind fun _ =>
    reads_fragmentName.bind fun name => (reads_word "on").bind fun _ =>
    reads_name.bind fun onType =>
    (reads_directives false nestingLimit).bind fun found =>
    (reads_selections nestingLimit).bind fun selected => .pure ?_
  simp [Fragment.words, Selection.allWords_eq, noWords, nameWords]

end Reader

end TypedClient.Document
