import TypedClient.Proofs.Document.Lexeme
import TypedClient.Proofs.Document.Printed
import TypedClient.Proofs.Text.Solid

/-! # The printed text of a definition

Values, selections and definitions whose words have the characters of their kinds are printed as
plain characters with their strings between them (`Definition.prints`).
-/

namespace TypedClient.Document

/-- The text is the printed form of something that has the words. -/
def Prints (text : String) (words : List Token) : Prop :=
  (∀ word ∈ words, word.IsLexical) → Printed text.toList (literals words)

/-- The text does not start with a quote. -/
def IsApart (text : String) : Prop :=
  text.toList.head? ≠ some '"'

instance (text : String) : Decidable (IsApart text) :=
  inferInstanceAs (Decidable (text.toList.head? ≠ some '"'))

/-- The text has plain characters and starts with one. -/
def IsMark (mark : String) : Prop :=
  (mark.toList.head?.isSome = true ∧ IsApart mark) ∧ ∀ c ∈ mark.toList, IsOutside c ∧ c ≠ '$'

instance (mark : String) : Decidable (IsMark mark) :=
  inferInstanceAs (Decidable ((mark.toList.head?.isSome = true ∧ mark.toList.head? ≠ some '"') ∧
    ∀ c ∈ mark.toList, IsOutside c ∧ c ≠ '$'))

/-- A mark keeps what follows it apart from a string in front. -/
theorem IsMark.apart_append {mark : String} (isMark : IsMark mark) (text : String) :
    IsApart (mark ++ text) := by
  obtain ⟨⟨starts, apart⟩, _⟩ := isMark
  obtain ⟨c, front⟩ := Option.isSome_iff_exists.1 starts
  rw [IsApart, front] at apart
  rw [IsApart, String.toList_append, List.head?_append, front]
  exact apart

/-- What begins apart stays apart, whatever follows. -/
theorem IsApart.append {text other : String} (first : IsApart text) (second : IsApart other) :
    IsApart (text ++ other) := by
  rw [IsApart, String.toList_append]
  rw [IsApart] at first
  cases front : text.toList with
  | nil => exact second
  | cons c rest => rwa [front] at first

/-- What is wrapped is kept apart by the mark in front. -/
theorem isApart_wrap {start : String} (isMark : IsMark start) (text close : String) :
    IsApart (wrap start text close) := by
  rw [wrap]
  split
  · decide
  · rw [String.append_assoc]
    exact isMark.apart_append _

namespace Prints

variable {text other : String} {words more : List Token}

/-- A mark is printed without words. -/
theorem mark {mark : String} (isMark : IsMark mark) : Prints mark [] :=
  fun _ => .chars isMark.2

/-- Nothing is printed without words. -/
theorem empty : Prints "" [] :=
  fun _ => .nil

/-- What is printed one after the other has the words of both, as long as strings are kept apart. -/
theorem append (first : Prints text words) (second : Prints other more)
    (apart : literals words = [] ∨ IsApart other) : Prints (text ++ other) (words ++ more) := by
  intro lexical
  rw [String.toList_append, literals_append]
  exact (first fun word member => lexical word (List.mem_append_left _ member)).append
    (second fun word member => lexical word (List.mem_append_right _ member)) apart

/-- A mark may stand in front of anything. -/
theorem after (second : Prints other more) {mark : String} (isMark : IsMark mark) :
    Prints (mark ++ other) more :=
  (Prints.mark isMark).append second (.inl rfl)

/-- A mark may stand behind anything, whatever comes after it. -/
theorem before (first : Prints text words) {mark : String} (isMark : IsMark mark) :
    Prints (text ++ mark) words := by
  have both := first.append (Prints.mark isMark) (.inr isMark.1.2)
  rwa [List.append_nil] at both

/-- Words that are printed deeper are the same words. -/
theorem nest (prints : Prints text words) : Prints (nest text) words := by
  intro lexical
  rw [Document.nest, String.toList_ofList]
  exact (prints lexical).indent (by decide)

/-- Marks around what is printed bring no words. -/
theorem wrap (prints : Prints text words) {start close : String}
    (starts : start = "" ∨ IsMark start) (closes : close = "" ∨ IsMark close) :
    Prints (wrap start text close) words := by
  have started : Prints (start ++ text) words := by
    rcases starts with rfl | starts
    · rwa [String.empty_append]
    · exact prints.after starts
  rw [Document.wrap]
  split
  · next empty =>
    rw [String.isEmpty_iff] at empty
    exact empty ▸ prints
  · rcases closes with rfl | closes
    · rwa [String.append_empty]
    · exact started.before closes

/-- What has no quotes has no strings. -/
theorem literals_eq_nil (prints : Prints text words) (quiet : '"' ∉ text.toList)
    (lexical : ∀ word ∈ words, word.IsLexical) : literals words = [] :=
  (prints lexical).eq_nil_of_quiet quiet

section Lists

variable {α : Type} {print : α → String} {itemWords : α → List Token}

/-- Items with a mark between them have the words of each, one after the other. -/
theorem intercalate {separator : String} (isMark : IsMark separator) {items : List α}
    (prints : ∀ item ∈ items, Prints (print item) (itemWords item)) :
    Prints (String.intercalate separator (items.map print)) (items.flatMap itemWords) := by
  induction items with
  | nil => exact .empty
  | cons first items ih =>
      have others := ih fun item member => prints item (List.mem_cons_of_mem _ member)
      have own := prints first List.mem_cons_self
      cases items with
      | nil =>
          rw [List.map_singleton, String.intercalate_singleton, List.flatMap_singleton]
          exact own
      | cons second items =>
          rw [List.map_cons, List.map_cons, String.intercalate_cons_cons, String.append_assoc,
            List.flatMap_cons]
          exact own.append (others.after isMark) (.inr (isMark.apart_append _))

/-- Items without a text have no strings. -/
theorem joinFilled {separator : String} (isMark : IsMark separator) {items : List α}
    (prints : ∀ item ∈ items, Prints (print item) (itemWords item)) :
    Prints (joinFilled separator (items.map print)) (items.flatMap itemWords) := by
  intro lexical
  have kept : literals (items.flatMap itemWords) =
      literals ((items.filter fun item => !(print item).isEmpty).flatMap itemWords) := by
    induction items with
    | nil => rfl
    | cons first items ih =>
        rw [List.flatMap_cons] at lexical
        have others := ih (fun item member => prints item (List.mem_cons_of_mem _ member))
          fun word member => lexical word (List.mem_append_right _ member)
        rw [List.flatMap_cons, literals_append, others, List.filter_cons]
        split
        · rw [List.flatMap_cons, literals_append]
        · next empty =>
          simp only [Bool.not_eq_true', Bool.not_eq_false, String.isEmpty_iff] at empty
          have own := prints first List.mem_cons_self
          rw [empty] at own
          rw [own.literals_eq_nil List.not_mem_nil fun word member =>
            lexical word (List.mem_append_left _ member), List.nil_append]
  rw [kept, Document.joinFilled, List.filter_map]
  refine intercalate isMark (fun item member => prints item (List.mem_of_mem_filter member))
    fun word member => lexical word ?_
  obtain ⟨item, inside, own⟩ := List.mem_flatMap.1 member
  exact List.mem_flatMap.2 ⟨item, List.mem_of_mem_filter inside, own⟩

end Lists

end Prints

/-! ## Words -/

/-- Names and numbers have plain characters. -/
theorem isOutside_of_kind {kind : Char → Bool} {c : Char} (isKind : kind c = true)
    (printable : 0x20 ≤ c.toNat ∧ c.toNat < 0x7f)
    (others : ∀ d ∈ ['"', '#', '\\', '`', '$'], kind d = false) : IsOutside c ∧ c ≠ '$' := by
  have apart {d : Char} (member : d ∈ ['"', '#', '\\', '`', '$']) : c ≠ d := by
    rintro rfl
    rw [others _ member] at isKind
    cases isKind
  exact ⟨⟨.inr printable, apart (by decide), apart (by decide), apart (by decide),
    apart (by decide)⟩, apart (by decide)⟩

/-- A character of a name can stand outside of strings. -/
theorem isOutside_of_isNameChar {c : Char} (name : Lexer.isNameChar c = true) :
    IsOutside c ∧ c ≠ '$' := by
  refine isOutside_of_kind name ?_ (by decide)
  simp only [Lexer.isNameChar, Bool.or_eq_true, decide_eq_true_eq] at name
  rcases name with letter | rfl
  · exact (Text.graphic_of_isAlphanum letter).imp_left Nat.le_of_lt
  · decide

/-- A character of a number can stand outside of strings. -/
theorem isOutside_of_isNumberChar {c : Char} (number : Lexer.isNumberChar c = true) :
    IsOutside c ∧ c ≠ '$' := by
  refine isOutside_of_kind number ?_ (by decide)
  simp only [Lexer.isNumberChar, Bool.or_eq_true, decide_eq_true_eq] at number
  rcases number with ((((digit | rfl) | rfl) | rfl) | rfl) | rfl
  · have letter : c.isAlphanum = true := by
      rw [Char.isAlphanum, digit, Bool.or_true]
    exact (Text.graphic_of_isAlphanum letter).imp_left Nat.le_of_lt
  all_goals decide

/-- A name is printed as it is. -/
theorem prints_name (name : String) : Prints name [.name name] :=
  fun lexical => .chars fun c member =>
    isOutside_of_isNameChar (isNameChar_of_isName (lexical _ List.mem_cons_self) c member)

theorem prints_int (digits : String) : Prints digits [.int digits] :=
  fun lexical => .chars fun c member =>
    isOutside_of_isNumberChar (lexical (.int digits) List.mem_cons_self c member)

theorem prints_float (digits : String) : Prints digits [.float digits] :=
  fun lexical => .chars fun c member =>
    isOutside_of_isNumberChar (lexical (.float digits) List.mem_cons_self c member)

/-- The dollar sign of a variable stands before a name. -/
theorem prints_variable (name : String) : Prints ("$" ++ name) [.name name] := by
  intro lexical
  obtain ⟨first, rest, split, start, _⟩ := lexical (.name name) List.mem_cons_self
  rw [String.toList_append, split]
  refine .char (by decide) (fun _ => ⟨first, rest, rfl, ?_⟩) ?_
  · rintro rfl
    cases start
  · have named := prints_name name lexical
    rw [split] at named
    exact named

/-- A string is printed with its quotes, and in blocks with its margin. -/
theorem prints_literal (literal : StringLiteral) : Prints literal.print [literal.token] := by
  intro _
  rw [literals, List.filterMap_cons_some literal.literal?_token]
  exact printed_literal literal

/-! ## Values and types -/

/-- The items of a list are printed one by one. -/
theorem Value.printItems_eq (items : List Value) : printItems items = items.map print := by
  induction items with
  | nil => rw [printItems]; rfl
  | cons item rest ih => rw [printItems, ih, List.map_cons]

/-- The fields of an object are printed one by one, each behind its key. -/
theorem Value.printFields_eq (fields : List (String × Value)) :
    printFields fields = fields.map fun field => field.1 ++ ": " ++ field.2.print := by
  induction fields with
  | nil => rw [printFields]; rfl
  | cons field rest ih => rw [printFields, ih, List.map_cons]

/-- A name, a colon and what belongs to the name. -/
theorem prints_named (name : String) {text : String} {words : List Token}
    (prints : Prints text words) : Prints (name ++ ": " ++ text) (.name name :: words) :=
  ((prints_name name).before (by decide)).append prints (.inl rfl)

mutual

/-- A value is printed with its words. -/
theorem Value.prints (value : Value) : Prints value.print value.words := by
  match value with
  | .variable name => rw [Value.print, Value.words]; exact prints_variable name
  | .int digits => rw [Value.print, Value.words]; exact prints_int digits
  | .float digits => rw [Value.print, Value.words]; exact prints_float digits
  | .string literal => rw [Value.print, Value.words]; exact prints_literal literal
  | .boolean true => rw [Value.print, Value.words]; exact .mark (by decide)
  | .boolean false => rw [Value.print, Value.words]; exact .mark (by decide)
  | .null => rw [Value.print, Value.words]; exact .mark (by decide)
  | .enum name => rw [Value.print, Value.words]; exact prints_name name
  | .list items =>
      rw [Value.print, Value.words, Value.itemWords_eq, Value.printItems_eq]
      exact ((Prints.intercalate (by decide) (Value.prints_items items)).after (by decide)).before
        (by decide)
  | .object fields =>
      rw [Value.print, Value.words, Value.fieldWords_eq, Value.printFields_eq]
      exact ((Prints.intercalate (by decide) (Value.prints_fields fields)).after
        (by decide)).before (by decide)

theorem Value.prints_items (items : List Value) :
    ∀ item ∈ items, Prints item.print item.words := by
  match items with
  | [] => exact fun _ member => absurd member List.not_mem_nil
  | item :: rest =>
      exact List.forall_mem_cons.2 ⟨Value.prints item, Value.prints_items rest⟩

theorem Value.prints_fields (fields : List (String × Value)) :
    ∀ field ∈ fields,
      Prints (field.1 ++ ": " ++ field.2.print) (.name field.1 :: field.2.words) := by
  match fields with
  | [] => exact fun _ member => absurd member List.not_mem_nil
  | (name, value) :: rest =>
      exact List.forall_mem_cons.2
        ⟨prints_named name (Value.prints value), Value.prints_fields rest⟩

end

/-- A type is printed with its words. -/
theorem TypeRef.prints (type : TypeRef) : Prints type.print type.words := by
  induction type with
  | named name => exact prints_name name
  | list item ih => exact (ih.after (by decide)).before (by decide)
  | nonNull type ih => exact ih.before (by decide)

/-! ## Arguments and directives -/

/-- An argument is its name and its value. -/
theorem Argument.prints (argument : Argument) : Prints argument.print argument.words :=
  prints_named argument.name argument.value.prints

/-- Arguments with a mark between them, on one line or on several. -/
theorem prints_arguments {separator : String} (isMark : IsMark separator)
    (arguments : List Argument) :
    Prints (String.intercalate separator (arguments.map Argument.print))
      (arguments.flatMap Argument.words) :=
  .intercalate isMark fun argument _ => argument.prints

/-- A directive is its name and its arguments. -/
theorem Directive.prints (directive : Directive) : Prints directive.print directive.words :=
  ((prints_name directive.name).after (by decide)).append
    ((prints_arguments (by decide) directive.arguments).wrap (.inr (by decide)) (.inr (by decide)))
    (.inl rfl)

/-- Directives stand one behind the other. -/
theorem prints_directives (directives : List Directive) :
    Prints (printDirectives directives) (directives.flatMap Directive.words) :=
  .intercalate (by decide) fun directive _ => directive.prints

/-! ## Selections -/

/-- Arguments behind a label, on one line or on several ones. -/
theorem prints_labelled {label : String} {own : List Token} (prints : Prints label own)
    (noString : literals own = []) (arguments : List Argument) {long : Prop} [Decidable long] :
    Prints
      (if long then
        label ++ wrap "(\n  " (nest (String.intercalate "\n" (arguments.map Argument.print))) "\n)"
      else label ++ wrap "(" (String.intercalate ", " (arguments.map Argument.print)) ")")
      (own ++ arguments.flatMap Argument.words) := by
  split
  · have lines := prints_arguments (by decide : IsMark "\n") arguments
    exact prints.append (lines.nest.wrap (.inr (by decide)) (.inr (by decide))) (.inl noString)
  · have line := prints_arguments (by decide : IsMark ", ") arguments
    exact prints.append (line.wrap (.inr (by decide)) (.inr (by decide))) (.inl noString)

/-- The head of a field has its name in the response, its own name and its arguments. -/
theorem prints_fieldHead (responseName : Option String) (name : String)
    (arguments : List Argument) : Prints (printFieldHead responseName name arguments)
      (responseName.toList.map .name ++ [.name name] ++ arguments.flatMap Argument.words) := by
  cases responseName with
  | none => exact prints_labelled (prints_name name) rfl arguments
  | some alternative =>
      exact prints_labelled (prints_named alternative (prints_name name)) rfl arguments

/-- Selections are printed one by one. -/
theorem Selection.printAll_eq (selections : List Selection) :
    printAll selections = selections.map print := by
  induction selections with
  | nil => rw [printAll]; rfl
  | cons selection rest ih => rw [printAll, ih, List.map_cons]

/-- A block of selections has the words of each. -/
theorem prints_block {selections : List Selection}
    (prints : ∀ selection ∈ selections, Prints selection.print selection.words) :
    Prints (printBlock (Selection.printAll selections)) (Selection.allWords selections) := by
  rw [Selection.printAll_eq, Selection.allWords_eq, printBlock]
  split
  · next empty =>
    obtain rfl := List.map_eq_nil_iff.1 (List.isEmpty_iff.1 empty)
    exact .empty
  · exact ((Prints.intercalate (by decide) prints).nest.after (by decide)).before (by decide)

/-- Texts with a blank between those that are not empty. -/
theorem prints_filled (pairs : List (String × List Token))
    (prints : ∀ pair ∈ pairs, Prints pair.1 pair.2) :
    Prints (joinFilled " " (pairs.map (·.1))) (pairs.flatMap (·.2)) :=
  .joinFilled (by decide) prints

mutual

/-- A selection is printed with its words, at any depth. -/
theorem Selection.prints (selection : Selection) : Prints selection.print selection.words := by
  match selection with
  | .field responseName name arguments directives selections =>
      have block := prints_block (Selection.prints_all selections)
      have all := prints_filled [(printFieldHead responseName name arguments, _),
        (printDirectives directives, directives.flatMap Directive.words),
        (printBlock (Selection.printAll selections), _)]
        (List.forall_mem_cons.2 ⟨prints_fieldHead responseName name arguments,
          List.forall_mem_cons.2 ⟨prints_directives directives,
            List.forall_mem_singleton.2 block⟩⟩)
      rw [Selection.print, Selection.words]
      simpa using all
  | .spread name directives =>
      rw [Selection.print, Selection.words]
      exact ((prints_name name).after (by decide)).append
        ((prints_directives directives).wrap (.inr (by decide)) (.inl rfl)) (.inl rfl)
  | .inline onType directives selections =>
      have typed : Prints (onType.elim "" ("on " ++ ·)) (onType.toList.map .name) := by
        cases onType with
        | none => exact .empty
        | some name => exact (prints_name name).after (by decide)
      have block := prints_block (Selection.prints_all selections)
      have all := prints_filled [("...", []), (onType.elim "" ("on " ++ ·), _),
        (printDirectives directives, directives.flatMap Directive.words),
        (printBlock (Selection.printAll selections), _)]
        (List.forall_mem_cons.2 ⟨.mark (by decide), List.forall_mem_cons.2 ⟨typed,
          List.forall_mem_cons.2 ⟨prints_directives directives,
            List.forall_mem_singleton.2 block⟩⟩⟩)
      rw [Selection.print, Selection.words]
      simpa using all

theorem Selection.prints_all (selections : List Selection) :
    ∀ selection ∈ selections, Prints selection.print selection.words := by
  match selections with
  | [] => exact fun _ member => absurd member List.not_mem_nil
  | selection :: rest =>
      exact List.forall_mem_cons.2 ⟨Selection.prints selection, Selection.prints_all rest⟩

end

/-! ## Definitions -/

/-- Selections are printed in a block, or not at all. -/
theorem prints_selections (selections : List Selection) :
    Prints (printSelections selections) (Selection.allWords selections) :=
  prints_block (Selection.prints_all selections)

/-- A description is printed above the rest, as a block string or in quotes. -/
theorem prints_description (description : Option StringLiteral) :
    Prints (printDescription description) (description.toList.map (·.token)) := by
  cases description with
  | none => exact .empty
  | some literal => exact (prints_literal literal).before (by decide)

/-- What comes behind a description stands on a line of its own. -/
theorem Prints.described {text : String} {words : List Token} (prints : Prints text words)
    (apart : IsApart text) (description : Option StringLiteral) :
    Prints (printDescription description ++ text) (description.toList.map (·.token) ++ words) :=
  (prints_description description).append prints (.inr apart)

/-- The definition of a variable, with its default value and directives. -/
theorem VariableDefinition.prints (definition : VariableDefinition) :
    Prints definition.print definition.words := by
  have defaultValue : Prints (definition.defaultValue.elim "" (" = " ++ ·.print))
        (definition.defaultValue.elim [] Value.words) ∧
      IsApart (definition.defaultValue.elim "" (" = " ++ ·.print)) := by
    cases definition.defaultValue with
    | none => exact ⟨.empty, (by decide : IsApart "")⟩
    | some value => exact ⟨value.prints.after (by decide), IsMark.apart_append (by decide) _⟩
  obtain ⟨defaultValue, apart⟩ := defaultValue
  have space : IsMark " " := by decide
  have found := (prints_directives definition.directives).wrap (.inr space) (.inl rfl)
  have last := defaultValue.append found (.inr (isApart_wrap space _ _))
  have typed := definition.type.prints.append last
    (.inr (apart.append (isApart_wrap space _ _)))
  have named := (prints_variable definition.name).append
    (typed.after (by decide : IsMark ": ")) (.inl rfl)
  have dollar (text : String) : IsApart ("$" ++ text) := by
    rw [IsApart, String.toList_append]
    exact fun same => by cases same
  have whole := named.described (by rw [String.append_assoc]; exact dollar _)
    definition.description
  rw [VariableDefinition.print, VariableDefinition.words]
  simpa only [String.append_assoc, List.singleton_append] using whole

/-- The texts of the variables are the same on one line and on several ones. -/
theorem prints_variables (definitions : List VariableDefinition) :
    Prints (printVariables definitions) (definitions.flatMap VariableDefinition.words) := by
  have texts {separator : String} (isMark : IsMark separator) :=
    Prints.intercalate isMark fun definition (_ : definition ∈ definitions) => definition.prints
  unfold printVariables
  dsimp only
  split
  · exact (texts (by decide)).wrap (.inr (by decide)) (.inr (by decide))
  · exact (texts (by decide)).wrap (.inr (by decide)) (.inr (by decide))

/-- An operation is printed with its words; without a name it can be its selections alone. -/
theorem Operation.prints (operation : Operation) : Prints operation.print operation.words := by
  have keyword : IsMark operation.kind.keyword := by
    cases operation.kind <;> decide
  have name : Prints (operation.name.getD "") (operation.name.toList.map .name) := by
    cases operation.name with
    | none => exact .empty
    | some name => exact prints_name name
  have noString : literals (operation.name.toList.map .name) = [] := by
    cases operation.name <;> rfl
  have head := prints_filled [(operation.kind.keyword, []),
    (operation.name.getD "" ++ printVariables operation.variableDefinitions, _),
    (printDirectives operation.directives, operation.directives.flatMap Directive.words)]
    (List.forall_mem_cons.2 ⟨.mark keyword, List.forall_mem_cons.2
      ⟨name.append (prints_variables operation.variableDefinitions) (.inl noString),
        List.forall_mem_singleton.2 (prints_directives operation.directives)⟩⟩)
  simp only [List.map_cons, List.map_nil, List.flatMap_cons, List.flatMap_nil, List.append_nil,
    List.nil_append, List.append_assoc] at head
  have body := prints_selections operation.selections
  have space : IsMark " " := by decide
  have whole := head.append (body.after space) (.inr (space.apart_append _))
  unfold Operation.print Operation.words
  dsimp only
  cases operation.description with
  | some literal =>
      have described := (prints_literal literal).append (whole.after (by decide : IsMark "\n"))
        (.inr (IsMark.apart_append (by decide) _))
      simpa [String.append_assoc] using described
  | none =>
      dsimp only
      split
      · next bare =>
        intro lexical
        rw [Option.toList_none, List.map_nil, List.nil_append, ← List.append_assoc,
          ← List.append_assoc, List.append_assoc (List.map _ _)] at lexical ⊢
        rw [bare] at head
        have noString := head.literals_eq_nil (by decide) fun word member =>
          lexical word (List.mem_append_left _ member)
        rw [literals_append, noString, List.nil_append]
        exact body fun word member => lexical word (List.mem_append_right _ member)
      · simpa [String.append_assoc] using whole

/-- Selections begin with a mark. -/
theorem isApart_selections (selections : List Selection) :
    IsApart (printSelections selections) := by
  rw [printSelections, printBlock]
  split
  · decide
  · rw [String.append_assoc]
    exact IsMark.apart_append (by decide) _

/-- A fragment is printed with its words. -/
theorem Fragment.prints (fragment : Fragment) : Prints fragment.print fragment.words := by
  have space : IsMark " " := by decide
  have annotations : Prints (wrap "" (printDirectives fragment.directives) " ")
      (fragment.directives.flatMap Directive.words) :=
    (prints_directives fragment.directives).wrap (.inl rfl) (.inr space)
  have found := annotations.append (prints_selections fragment.selections)
    (.inr (isApart_selections _))
  have typed := (prints_name fragment.onType).append (found.after space) (.inl rfl)
  have named := (prints_name fragment.name).append (typed.after (by decide : IsMark " on "))
    (.inl rfl)
  have whole := (named.after (by decide : IsMark "fragment ")).described
    (IsMark.apart_append (by decide) _) fragment.description
  rw [Fragment.print, Fragment.words]
  simpa only [String.append_assoc, List.singleton_append] using whole

/-- The text of an operation or a fragment. -/
def Definition.text : Definition → String
  | .operation body => body.print
  | .fragment body => body.print
  | _ => ""

/-- A definition is printed with its strings and plain characters between them. -/
theorem Definition.prints (definition : Definition) : Prints definition.text definition.words := by
  cases definition with
  | operation body => exact body.prints
  | fragment body => exact body.prints
  | _ => exact .empty

end TypedClient.Document
