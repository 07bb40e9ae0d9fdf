import TypedClient.Proofs.Document.Names
import TypedClient.Proofs.Naming.VariableName
import TypedClient.Proofs.Text.LineFeed

/-! # Doc comments of wrappers

A wrapper starts with a doc comment that is put together from the name of its function and the names
of its variables, some of them over several lines. What the configuration says freely stands behind
the comment only: inside, the conventions leave nothing of a name but letters, digits and
underscores. So the comment ends where the template ends it, and its two usage examples name the
variables one by one (`ofText_hasDocComment`).
-/

namespace TypedClient

open Document

/-! ## Well-formed doc comments -/

/-- The line goes on with a comment: it starts with an asterisk, does not end the comment, and is a
single line by whatever counts as a line end. -/
structure GoesOn (line : String) : Prop where
  starred : "*".toList <+: line.toList
  unended : ¬"*/".toList <:+: line.toList
  single : ∀ c ∈ line.toList, Text.isLineBoundary c = false

/-- What is said of a variable in a usage example. -/
def placeholderMark : List Char :=
  "// value for ".toList

/-- The line names a variable of a usage example. -/
def IsPlaceholder (line : String) : Prop :=
  placeholderMark <:+: line.toList

/-- The lines of a usage example have these placeholders, one after the other, and no others. -/
def HasPlaceholders (lines placeholders : List String) : Prop :=
  ∃ before after, lines = before ++ placeholders ++ after ∧
    ∀ line ∈ before ++ after, ¬IsPlaceholder line

/-- A wrapper has a doc comment of a preamble and two usage examples for the variables. -/
structure IsDocumented (names : List String) (wrapper : String)
    (preamble first second code : List String) : Prop where
  lines : linesOf wrapper =
    "/**" :: (preamble ++ "* @example" :: first ++ "* @example" :: second) ++ "*/" :: code
  /-- The function is declared right behind the comment. -/
  declared : ∃ line ∈ code.head?, "export const ".toList <+: line.toList
  inside : ∀ line ∈ preamble ++ "* @example" :: first ++ "* @example" :: second, GoesOn line
  /-- There are no other examples. -/
  examples : ∀ line ∈ preamble ++ first ++ second, line ≠ "* @example"
  preamble : ∀ line ∈ preamble, ¬IsPlaceholder line
  /-- Four tabs in front of the variables in the first example. -/
  first : HasPlaceholders first (names.map fun name =>
    "* \t\t\t\t" ++ name ++ ": // value for " ++ name)
  /-- Three tabs in the second. -/
  second : HasPlaceholders second (names.map fun name =>
    "* \t\t\t" ++ name ++ ": // value for " ++ name)

/-! ## Lines of comments -/

/-- The character can stand in a line of a comment. -/
def isCommentChar (c : Char) : Bool :=
  c != '*' && !Text.isLineBoundary c

/-- An asterisk, alone or with a space and other characters behind it. -/
def isCommentLine : List Char → Bool
  | ['*'] => true
  | '*' :: ' ' :: text => text.all isCommentChar
  | _ => false

/-- A comment goes on at a line of its shape. -/
theorem goesOn_of_isCommentLine {line : String} (own : isCommentLine line.toList = true) :
    GoesOn line := by
  obtain ⟨rest, split, plain, apart⟩ : ∃ rest, line.toList = '*' :: rest ∧
      (∀ c ∈ rest, isCommentChar c = true) ∧ rest.head? ≠ some '/' := by
    unfold isCommentLine at own
    split at own
    · next same => exact ⟨[], same, List.forall_mem_nil _, by simp⟩
    · next text same =>
      exact ⟨' ' :: text, same, List.forall_mem_cons.2 ⟨rfl, List.all_eq_true.1 own⟩, by simp⟩
    · cases own
  have chars : ∀ c ∈ rest, c ≠ '*' ∧ Text.isLineBoundary c = false := by
    intro c member
    have comment := plain c member
    rw [isCommentChar, Bool.and_eq_true, bne_iff_ne, Bool.not_eq_true'] at comment
    exact comment
  refine ⟨?_, ?_, ?_⟩
  · rw [split]
    exact ⟨rest, rfl⟩
  · rw [split]
    intro inside
    rcases List.infix_cons_iff.1 inside with ⟨after, front⟩ | later
    · apply apart
      rw [← (List.cons.inj front).2]
      rfl
    · exact (chars '*' (later.subset List.mem_cons_self)).1 rfl
  · rw [split, List.forall_mem_cons]
    exact ⟨rfl, fun c member => (chars c member).2⟩

/-- A line of a comment has no line feed in it. -/
theorem not_mem_of_isCommentLine {line : String} (own : isCommentLine line.toList = true) :
    '\n' ∉ line.toList := by
  intro member
  cases (goesOn_of_isCommentLine own).single '\n' member

/-- A line of a comment that neither names a variable nor starts an example. -/
structure IsPassing (line : String) : Prop where
  comment : isCommentLine line.toList = true
  unnamed : ¬IsPlaceholder line
  noExample : line ≠ "* @example"

/-- Characters that begin no mark and end no comment make a passing line. -/
theorem isPassing_ofList {chars : List Char} (own : isCommentLine chars = true ∧
    ¬placeholderMark <:+: chars ∧ chars ≠ "* @example".toList) :
    IsPassing (String.ofList chars) := by
  obtain ⟨comment, unnamed, noExample⟩ := own
  refine ⟨?_, ?_, ?_⟩
  · rw [String.toList_ofList]
    exact comment
  · rw [IsPlaceholder, String.toList_ofList]
    exact unnamed
  · intro same
    apply noExample
    rw [← same, String.toList_ofList]

/-- The character has no meaning in a line of a comment: it is no part of a mark. -/
def isModestChar (c : Char) : Bool :=
  isCommentChar c && c != '/' && c != '@'

/-- A modest character can stand in a comment and neither ends it nor begins a tag. -/
theorem isModestChar_iff {c : Char} :
    isModestChar c = true ↔ isCommentChar c = true ∧ c ≠ '/' ∧ c ≠ '@' := by
  rw [isModestChar, Bool.and_eq_true, Bool.and_eq_true, bne_iff_ne, bne_iff_ne, and_assoc]

/-- A text without marks. -/
def IsModest (text : String) : Prop :=
  ∀ c ∈ text.toList, isModestChar c = true

instance (text : String) : Decidable (IsModest text) :=
  inferInstanceAs (Decidable (∀ c ∈ text.toList, isModestChar c = true))

/-- Modest texts can be joined. -/
theorem IsModest.append {first second : String} (front : IsModest first) (back : IsModest second) :
    IsModest (first ++ second) := by
  rw [IsModest, String.toList_append]
  exact List.forall_mem_append.2 ⟨front, back⟩

theorem isModest_ofList {chars : List Char} (own : chars.all isModestChar = true) :
    IsModest (String.ofList chars) := by
  rw [IsModest, String.toList_ofList]
  exact List.all_eq_true.1 own

/-- The names of variables are modest. -/
theorem isModest_of_continuesVariable {text : String}
    (chars : ∀ c ∈ text.toList, continuesVariable c = true) : IsModest text := by
  intro c member
  have own := chars c member
  have other : ∀ mark, continuesVariable mark = false → c ≠ mark := by
    intro mark no same
    rw [← same, own] at no
    cases no
  have inner : Text.isLineBoundary c = false := by
    apply Bool.eq_false_iff.2
    intro boundary
    rw [Text.isLineBoundary, decide_eq_true_eq] at boundary
    have excluded : ∀ code ∈ [0x0a, 0x0b, 0x0c, 0x0d, 0x1c, 0x1d, 0x1e, 0x85, 0x2028, 0x2029],
        continuesVariable (Char.ofNat code) = false := by
      decide
    exact other _ (excluded _ boundary) (Char.ofNat_toNat c).symm
  have comment : isCommentChar c = true := by
    rw [isCommentChar, Bool.and_eq_true, bne_iff_ne, inner]
    exact ⟨other '*' rfl, rfl⟩
  exact isModestChar_iff.2 ⟨comment, other '/' rfl, other '@' rfl⟩

/-- A text without marks makes up a line. -/
theorem isPassing_of_isModest {text : String} (modest : IsModest text) :
    IsPassing ("* " ++ text) := by
  have split : ("* " ++ text).toList = '*' :: ' ' :: text.toList := String.toList_append
  have marks : ∀ c ∈ text.toList, isCommentChar c = true ∧ c ≠ '/' ∧ c ≠ '@' :=
    fun c member => isModestChar_iff.1 (modest c member)
  have absent : ∀ mark, mark ≠ '*' ∧ mark ≠ ' ' → (∀ c ∈ text.toList, c ≠ mark) →
      mark ∉ ("* " ++ text).toList := by
    intro mark other free member
    rw [split, List.mem_cons, List.mem_cons] at member
    rcases member with same | same | member
    · exact other.1 same
    · exact other.2 same
    · exact free mark member rfl
  refine ⟨?_, ?_, ?_⟩
  · rw [split, isCommentLine, List.all_eq_true]
    exact fun c member => (marks c member).1
  · intro inside
    have slash : '/' ∈ placeholderMark := by decide
    apply absent '/' (by decide) (fun c member => (marks c member).2.1)
    exact inside.subset slash
  · intro same
    apply absent '@' (by decide) (fun c member => (marks c member).2.2)
    rw [same]
    decide

/-! ## Calls in usage examples -/

/-- The line that names a variable behind some tabs. -/
def placeholderOf (tabs : Nat) (name : String) : String :=
  "* " ++ String.ofList (List.replicate tabs '\t') ++ name ++ ": // value for " ++ name

/-- The lines of a call down to the placeholders of variables. Without variables the call takes a
single line. -/
def callFront (opening closing : String) (names : List String) : List String :=
  if names.isEmpty then [opening ++ closing]
  else [opening ++ ", \x7b", "*       variables: \x7b"]

/-- The lines of a call below the placeholders. -/
def callBack (closing : String) (names : List String) : List String :=
  if names.isEmpty then [] else ["*       \x7d", "*   \x7d" ++ closing]

/-- The lines of a call. -/
def callLines (opening closing : String) (names : List String) (tabs : Nat) : List String :=
  callFront opening closing names ++ names.map (placeholderOf tabs) ++ callBack closing names

/-- Joined texts are the first one and the others behind separators. -/
theorem intercalate_cons_eq_join (separator first : String) (rest : List String) :
    String.intercalate separator (first :: rest) =
      first ++ String.join (rest.map (separator ++ ·)) := by
  induction rest generalizing first with
  | nil => simp
  | cons second rest ih =>
      rw [String.intercalate_cons_cons, ih, List.map_cons, String.join_cons]
      simp only [String.append_assoc]

/-- A call is laid out with its arguments on lines of their own. -/
theorem intercalate_callLines (opening closing : String) (names : List String) (tabs : Nat) :
    String.intercalate "\n" (callLines opening closing names tabs) =
      opening ++ Template.exampleArguments names tabs ++ closing := by
  by_cases empty : names.isEmpty = true
  · rw [callLines, callFront, callBack, Template.exampleArguments, if_pos empty, if_pos empty,
      if_pos empty, List.isEmpty_iff.1 empty]
    simp
  · have lines : names.map (Template.placeholderLine tabs) =
        (names.map (placeholderOf tabs)).map ("\n" ++ ·) := by
      rw [List.map_map]
      apply List.map_congr_left
      intro name _
      have opening : "\n* " = "\n" ++ "* " := rfl
      rw [Template.placeholderLine, Template.placeholderStart, Template.placeholderMiddle,
        Function.comp_apply, placeholderOf, opening]
      simp only [String.append_assoc]
    have front : Template.exampleStart = ", \x7b" ++ "\n" ++ "*       variables: \x7b" := rfl
    have back : Template.exampleEnd = "\n" ++ "*       \x7d" ++ "\n" ++ "*   \x7d" := rfl
    rw [callLines, callFront, callBack, Template.exampleArguments, if_neg empty, if_neg empty,
      if_neg empty, Template.variablePlaceholders, lines, List.cons_append, List.cons_append,
      intercalate_cons_eq_join, front, back]
    simp only [List.map_append, List.map_cons, List.map_nil, List.cons_append, List.nil_append,
      String.join_cons, String.join_append, String.join_nil, String.append_assoc,
      String.append_empty]

/-- A call between other lines has its lines if there is no line feed in any of them. -/
theorem flatMap_linesOf_call {opening closing : String} {names front back : List String}
    {tabs : Nat}
    (single : ∀ line ∈ front ++ callLines opening closing names tabs ++ back, '\n' ∉ line.toList) :
    (front ++ (opening ++ Template.exampleArguments names tabs ++ closing) ::
        back).flatMap linesOf =
      front ++ callLines opening closing names tabs ++ back := by
  rw [List.forall_mem_append, List.forall_mem_append] at single
  obtain ⟨⟨above, call⟩, below⟩ := single
  have filled : callLines opening closing names tabs ≠ [] := by
    rw [callLines, callFront]
    split <;> simp
  rw [List.flatMap_append, List.flatMap_cons, ← intercalate_callLines, linesOf_intercalate filled,
    flatMap_linesOf above, flatMap_linesOf call, flatMap_linesOf below, List.append_assoc]

section Calls

variable {opening closing : String} {names : List String}
  (before : IsModest opening) (after : IsModest closing)

include before after

/-- The lines of a call in front of its arguments are passing. -/
theorem isPassing_of_mem_callFront :
    ∀ line ∈ callFront ("* " ++ opening) closing names, IsPassing line := by
  intro line member
  rw [callFront] at member
  split at member
  · rw [List.mem_singleton.1 member, String.append_assoc]
    exact isPassing_of_isModest (before.append after)
  · rcases List.mem_cons.1 member with same | same
    · rw [same, String.append_assoc]
      exact isPassing_of_isModest (before.append (isModest_ofList rfl))
    · rw [List.mem_singleton.1 same]
      exact isPassing_ofList (by decide +kernel)

omit before in
/-- The lines of a call behind its arguments are passing. -/
theorem isPassing_of_mem_callBack : ∀ line ∈ callBack closing names, IsPassing line := by
  intro line member
  rw [callBack] at member
  split at member
  · cases member
  · rcases List.mem_cons.1 member with same | same
    · rw [same]
      exact isPassing_ofList (by decide +kernel)
    · have opened : "*   \x7d" = "* " ++ "  \x7d" := rfl
      rw [List.mem_singleton.1 same, opened, String.append_assoc]
      exact isPassing_of_isModest (IsModest.append (isModest_ofList rfl) after)

end Calls

/-- A line with an argument goes on with the comment. -/
theorem isCommentLine_placeholderOf (tabs : Nat) {name : String} (modest : IsModest name) :
    isCommentLine (placeholderOf tabs name).toList = true := by
  have own : ∀ c ∈ name.toList, isCommentChar c = true :=
    fun c member => (isModestChar_iff.1 (modest c member)).1
  have tab : ∀ c ∈ List.replicate tabs '\t', isCommentChar c = true := by
    intro c member
    rw [List.eq_of_mem_replicate member]
    rfl
  have mark : ∀ c ∈ ": // value for ".toList, isCommentChar c = true := by decide
  have opened : "* ".toList = ['*', ' '] := rfl
  rw [placeholderOf]
  simp only [String.toList_append, String.toList_ofList, List.append_assoc]
  rw [opened, List.cons_append, List.cons_append, List.nil_append, isCommentLine, List.all_eq_true]
  simp only [List.forall_mem_append]
  exact ⟨tab, own, mark, own⟩

/-- A line with an argument is told from the others by its mark. -/
theorem isPlaceholder_placeholderOf (tabs : Nat) (name : String) :
    IsPlaceholder (placeholderOf tabs name) := by
  have mark : ": // value for ".toList = [':', ' '] ++ placeholderMark := rfl
  rw [IsPlaceholder, placeholderOf]
  simp only [String.toList_append, mark]
  rw [← List.append_assoc]
  exact List.infix_append _ _ _

/-- The lines of a usage example: none starts another one, and the variables have their
placeholders. -/
structure IsExample (lines placeholders : List String) : Prop where
  comment : ∀ line ∈ lines, isCommentLine line.toList = true
  noExample : ∀ line ∈ lines, line ≠ "* @example"
  placeholders : HasPlaceholders lines placeholders

/-- A call between other lines makes up an example. -/
theorem isExample_callLines {opening closing : String} {names front back : List String}
    (tabs : Nat) (before : IsModest opening) (after : IsModest closing)
    (modest : ∀ name ∈ names, IsModest name) (above : ∀ line ∈ front, IsPassing line)
    (below : ∀ line ∈ back, IsPassing line) :
    IsExample (front ++ callLines ("* " ++ opening) closing names tabs ++ back)
      (names.map (placeholderOf tabs)) := by
  have split : front ++ callLines ("* " ++ opening) closing names tabs ++ back =
      (front ++ callFront ("* " ++ opening) closing names) ++ names.map (placeholderOf tabs) ++
        (callBack closing names ++ back) := by
    rw [callLines]
    simp only [List.append_assoc]
  have passing : ∀ line ∈ (front ++ callFront ("* " ++ opening) closing names) ++
      (callBack closing names ++ back), IsPassing line := by
    simp only [List.forall_mem_append]
    exact ⟨⟨above, isPassing_of_mem_callFront before after⟩,
      isPassing_of_mem_callBack after, below⟩
  have each : ∀ line ∈ front ++ callLines ("* " ++ opening) closing names tabs ++ back,
      IsPassing line ∨ ∃ name ∈ names, placeholderOf tabs name = line := by
    intro line member
    rw [split, List.mem_append, List.mem_append] at member
    rcases member with (member | member) | member
    · exact .inl (passing line (List.mem_append_left _ member))
    · exact .inr (List.mem_map.1 member)
    · exact .inl (passing line (List.mem_append_right _ member))
  refine ⟨?_, ?_, ?_⟩
  · intro line member
    rcases each line member with passes | ⟨name, own, rfl⟩
    · exact passes.comment
    · exact isCommentLine_placeholderOf tabs (modest name own)
  · intro line member
    rcases each line member with passes | ⟨name, _, rfl⟩
    · exact passes.noExample
    · intro same
      have plain : ¬IsPlaceholder "* @example" := by
        rw [IsPlaceholder]
        decide
      apply plain
      rw [← same]
      exact isPlaceholder_placeholderOf tabs name
  · exact ⟨_, _, split, fun line member => (passing line member).unnamed⟩

/-! ## The comment of a wrapper -/

/-- The names that a wrapper shows in its comment are made of letters, digits, underscores and
dollar signs, and the rest are the words of a kind. -/
structure OperationSpec.HasPlainNames (spec : OperationSpec) : Prop where
  function : ∀ c ∈ spec.functionName.toList, continuesVariable c = true
  declared : ∀ name ∈ spec.variableNames, ∀ c ∈ name.toList, continuesVariable c = true
  words : ∃ kind : OperationKind, spec.documentKeyword = kind.documentKeyword ∧
    spec.action = kind.action

/-- The lines around the calls of the examples are the same for all operations. -/
theorem isPassing_of_subset {lines : List String} (fixed : lines ⊆ ["* ```typescript", "* try \x7b",
    "*", "*   // process data", "* \x7d catch (error) \x7b", "*   // handle error", "* \x7d",
    "* ```", "*   .then(result => // process data)", "*   .catch(error => // handle error);"]) :
    ∀ line ∈ lines, IsPassing line := by
  intro line member
  have own := fixed member
  simp only [List.mem_cons, List.not_mem_nil, or_false] at own
  rcases own with rfl | rfl | rfl | rfl | rfl | rfl | rfl | rfl | rfl | rfl <;>
    exact isPassing_ofList (by decide +kernel)

/-- The line about the options differs between kinds by two words, and has marks in it. -/
theorem isPassing_parameter (kind : OperationKind) :
    IsPassing ("* @param options options that will be passed into the " ++ kind.documentKeyword ++
      ", supported options are listed on: " ++
      "https://www.apollographql.com/docs/react/api/core/#ApolloClient." ++ kind.action) := by
  rw [← @String.ofList_toList (_ ++ kind.action)]
  apply isPassing_ofList
  simp only [String.toList_append]
  rw [String.toList_ofList, String.toList_ofList, String.toList_ofList]
  cases kind <;> decide +kernel

section Comment

variable (spec : OperationSpec)

/-- The lines of a doc comment above its examples. -/
def preambleLines : List String :=
  ["* " ++ spec.functionName,
    "*",
    "* To execute a " ++ spec.documentKeyword ++
      " against the apollo client simply call this method",
    "* with a client and pass it any options that you require then await or chain the method call.",
    "*",
    "* @param options options that will be passed into the " ++ spec.documentKeyword ++
      ", supported options are listed on: " ++
      "https://www.apollographql.com/docs/react/api/core/#ApolloClient." ++ spec.action,
    "*"]

/-- The lines of the example that awaits the result. -/
def awaitLines : List String :=
  ["* ```typescript", "* try \x7b"] ++
    callLines ("*   const data = await " ++ spec.functionName ++ "(client") ");"
      spec.variableNames 4 ++
    ["*", "*   // process data", "* \x7d catch (error) \x7b", "*   // handle error", "* \x7d",
      "* ```", "*"]

/-- The lines of the example that chains the method call. -/
def chainLines : List String :=
  ["* ```typescript"] ++
    callLines ("* " ++ spec.functionName ++ "(client") ")" spec.variableNames 3 ++
    ["*   .then(result => // process data)", "*   .catch(error => // handle error);", "* ```"]

variable {spec} (plain : spec.HasPlainNames)

include plain

/-- The lines in front of the examples are passing. -/
theorem isPassing_of_mem_preambleLines : ∀ line ∈ preambleLines spec, IsPassing line := by
  obtain ⟨kind, keyword, action⟩ := plain.words
  intro line member
  rw [preambleLines, keyword, action] at member
  simp only [List.mem_cons, List.not_mem_nil, or_false] at member
  rcases member with rfl | rfl | rfl | rfl | rfl | rfl | rfl
  · exact isPassing_of_isModest (isModest_of_continuesVariable plain.function)
  · exact isPassing_ofList (by decide +kernel)
  · have opened : "* To execute a " = "* " ++ "To execute a " := rfl
    have word : IsModest kind.documentKeyword := by
      cases kind <;> decide
    rw [opened, String.append_assoc, String.append_assoc]
    apply isPassing_of_isModest
    apply IsModest.append (isModest_ofList rfl)
    exact word.append (isModest_ofList rfl)
  · exact isPassing_ofList (by decide +kernel)
  · exact isPassing_ofList (by decide +kernel)
  · exact isPassing_parameter kind
  · exact isPassing_ofList (by decide +kernel)

/-- The first example names the variables. -/
theorem isExample_awaitLines :
    IsExample (awaitLines spec) (spec.variableNames.map (placeholderOf 4)) := by
  have opening : "*   const data = await " ++ spec.functionName ++ "(client" =
      "* " ++ ("  const data = await " ++ spec.functionName ++ "(client") := by
    have opened : "*   const data = await " = "* " ++ "  const data = await " := rfl
    rw [opened]
    simp only [String.append_assoc]
  have function : IsModest spec.functionName := isModest_of_continuesVariable plain.function
  rw [awaitLines, opening]
  apply isExample_callLines
  · exact (IsModest.append (isModest_ofList rfl) function).append (isModest_ofList rfl)
  · exact isModest_ofList rfl
  · exact fun name own => isModest_of_continuesVariable (plain.declared name own)
  · exact isPassing_of_subset (by simp)
  · exact isPassing_of_subset (by simp)

/-- The second example names the variables. -/
theorem isExample_chainLines :
    IsExample (chainLines spec) (spec.variableNames.map (placeholderOf 3)) := by
  have function : IsModest spec.functionName := isModest_of_continuesVariable plain.function
  rw [chainLines, String.append_assoc]
  apply isExample_callLines
  · exact function.append (isModest_ofList rfl)
  · exact isModest_ofList rfl
  · exact fun name own => isModest_of_continuesVariable (plain.declared name own)
  · exact isPassing_of_subset (by simp)
  · exact isPassing_of_subset (by simp)

/-- The lines of a doc comment. -/
theorem flatMap_linesOf_docComment : (Template.docComment spec).flatMap linesOf =
    "/**" :: (preambleLines spec ++ "* @example" :: awaitLines spec ++
      "* @example" :: chainLines spec) ++ ["*/"] := by
  have preamble : ∀ line ∈ preambleLines spec, '\n' ∉ line.toList :=
    fun line member =>
      not_mem_of_isCommentLine (isPassing_of_mem_preambleLines plain line member).comment
  have await : ∀ line ∈ awaitLines spec, '\n' ∉ line.toList :=
    fun line member => not_mem_of_isCommentLine ((isExample_awaitLines plain).comment line member)
  have chain : ∀ line ∈ chainLines spec, '\n' ∉ line.toList :=
    fun line member => not_mem_of_isCommentLine ((isExample_chainLines plain).comment line member)
  -- Only the texts of the two calls have lines of their own.
  obtain ⟨first, second, split, awaited, chained⟩ : ∃ first second, Template.docComment spec =
      ["/**"] ++ preambleLines spec ++ ["* @example"] ++ first ++ ["* @example"] ++ second ++
          ["*/"] ∧
        first.flatMap linesOf = awaitLines spec ∧ second.flatMap linesOf = chainLines spec := by
    refine ⟨_, _, ?_, flatMap_linesOf_call await, flatMap_linesOf_call chain⟩
    rfl
  have opened : ["/**"].flatMap linesOf = ["/**"] := flatMap_linesOf (by decide)
  have ended : ["*/"].flatMap linesOf = ["*/"] := flatMap_linesOf (by decide)
  have started : ["* @example"].flatMap linesOf = ["* @example"] := flatMap_linesOf (by decide)
  rw [split]
  simp only [List.flatMap_append, opened, ended, started, awaited, chained,
    flatMap_linesOf preamble]
  simp only [List.append_assoc, List.cons_append, List.nil_append]

/-- A wrapper with plain names is documented. -/
theorem isDocumented_renderOperation : IsDocumented spec.variableNames
    (Template.renderOperation spec) (preambleLines spec) (awaitLines spec) (chainLines spec)
    ((Template.wrapperFunction spec).flatMap linesOf) := by
  have passing := isPassing_of_mem_preambleLines plain
  have await := isExample_awaitLines plain
  have chain := isExample_chainLines plain
  have heading : GoesOn "* @example" := goesOn_of_isCommentLine (by decide)
  have four : placeholderOf 4 = fun name => "* \t\t\t\t" ++ name ++ ": // value for " ++ name := rfl
  have three : placeholderOf 3 = fun name => "* \t\t\t" ++ name ++ ": // value for " ++ name := rfl
  constructor
  case lines =>
    rw [Template.renderOperation, linesOf_intercalate (by simp [Template.docComment]),
      List.flatMap_append, flatMap_linesOf_docComment plain]
    simp only [List.append_assoc, List.cons_append, List.nil_append]
  case declared =>
    rw [Template.wrapperFunction, List.flatMap_cons]
    simp only [String.append_assoc]
    obtain ⟨line, first, starts⟩ := @head?_linesOf_append "export const " (by decide) _
    refine ⟨line, ?_, starts⟩
    rw [List.head?_append, Option.mem_def.1 first]
    rfl
  case inside =>
    simp only [List.forall_mem_append, List.forall_mem_cons]
    refine ⟨⟨?_, heading, ?_⟩, heading, ?_⟩
    · exact fun line member => goesOn_of_isCommentLine (passing line member).comment
    · exact fun line member => goesOn_of_isCommentLine (await.comment line member)
    · exact fun line member => goesOn_of_isCommentLine (chain.comment line member)
  case examples =>
    simp only [List.forall_mem_append]
    exact ⟨⟨fun line member => (passing line member).noExample, await.noExample⟩, chain.noExample⟩
  case preamble => exact fun line member => (passing line member).unnamed
  case first => exact four ▸ await.placeholders
  case second => exact three ▸ chain.placeholders

end Comment

/-! ## The main statement -/

/-- An operation with names of the grammar has plain names. -/
theorem hasPlainNames_spec (config : Config) {operation : Operation} (named : operation.HasNames) :
    (operation.spec config).HasPlainNames := by
  have isName : IsNameOrEmpty (operation.name.getD "") := by
    cases name : operation.name with
    | none => exact .inl rfl
    | some text => exact .inr (named.name text name)
  have suffix : IsVariableName (Text.pascalCase operation.kind.keyword) := by
    cases operation.kind <;> decide
  have action : ∀ c ∈ operation.kind.action.toList, continuesVariable c = true := by
    cases operation.kind <;> decide
  refine ⟨?_, ?_, operation.kind, rfl, rfl⟩
  · rw [OperationSpec.functionName, String.toList_append]
    exact List.forall_mem_append.2
      ⟨action, continuesVariable_of_mem_converted config isName suffix⟩
  · intro name member c inside
    obtain ⟨definition, declared, rfl⟩ := List.mem_map.1 member
    have char := isNameChar_of_isName (named.declared definition declared) c inside
    rw [continuesVariable, ← Lexer.isNameChar, char, Bool.true_or]

/-- **Doc comments.** Whatever text an operation is read from, and whatever the configuration says,
its wrapper has a doc comment that ends right above the function and that names the variables in two
examples. This is the text that is emitted for a query or a mutation with a wrapper. -/
theorem ofText_hasDocComment (config : Config) (fragments : List FragmentDescriptor) {text : String}
    {document : Document} (read : Document.ofText text = .ok document) {operation : Operation}
    (member : operation ∈ document.operations) :
    (∃ preamble first second code,
      IsDocumented (operation.variableDefinitions.map (·.name))
        (Template.renderOperation (operation.spec config)) preamble first second code) ∧
      ∃ emitted, (({ config, fragments } : Generator).emit operation).outcome = .ok emitted ∧
        emitted.wrapper =
          if operation.kind = .query ∨
              operation.kind = .mutation ∧ config.mutationPolicy = .emit then
            Template.renderOperation (operation.spec config)
          else "" := by
  constructor
  · have plain := hasPlainNames_spec config (hasNames_of_ofText read operation member)
    exact ⟨_, _, _, _, isDocumented_renderOperation plain⟩
  · refine ⟨_, congrArg Trace.outcome (Generator.emit_packaged rfl operation), ?_⟩
    rw [Generator.wrapperText, Operation.isWrapped]
    cases operation.kind <;> simp

/-- A query with two variables, one of which starts with underscores. -/
def pagedQuery : Operation :=
  ⟨none, .query, some "get_page",
    [⟨none, "first", .nonNull (.named "Int"), none, []⟩, ⟨none, "__after", .named "ID", none, []⟩],
    [], [.field none "page" [] [] []]⟩

/-- What stands around the names of types would end a comment. -/
def markedConfig : Config where
  typesPrefix := "*/\n"
  typesSuffix := "\n* // value for x"
  documentVariableSuffix := "/**"

theorem pagedQuery_hasDocComment :
    Document.ofText "query get_page($first: Int!, $__after: ID) \x7b page \x7d" =
        .ok [.operation pagedQuery] ∧
      pagedQuery ∈ Document.operations [.operation pagedQuery] ∧
      (∃ preamble first second code,
        IsDocumented ["first", "__after"]
          (Template.renderOperation (pagedQuery.spec markedConfig)) preamble first second code) ∧
        ∃ emitted, (({ config := markedConfig } : Generator).emit pagedQuery).outcome =
            .ok emitted ∧
          emitted.wrapper =
            if pagedQuery.kind = .query ∨
                pagedQuery.kind = .mutation ∧ markedConfig.mutationPolicy = .emit then
              Template.renderOperation (pagedQuery.spec markedConfig)
            else "" := by
  have read : Document.ofText "query get_page($first: Int!, $__after: ID) \x7b page \x7d" =
      .ok [.operation pagedQuery] := by
    cbv
  have member : pagedQuery ∈ Document.operations [.operation pagedQuery] :=
    List.mem_singleton_self _
  exact ⟨read, member, ofText_hasDocComment markedConfig [] read member⟩

end TypedClient
