import TypedClient.Naming
import TypedClient.Proofs.Document.Lexeme
import TypedClient.Proofs.Document.Words
import TypedClient.Proofs.Fragment.Reach
import TypedClient.Proofs.Template.Cooked
import TypedClient.Proofs.Template.Raw
import TypedClient.Proofs.Text.Casing
import TypedClient.Template.Packaged

/-! # The references of a constant

A constant ends with the references to the constants of the fragments that it needs. These go by
names of the documents (`needed_isName`) under the affixes of the configuration, so they are
identifiers (`fragmentVariable_isIdentifier`), and a template literal substitutes them in order
(`read_references`).
-/

namespace TypedClient

open Document Template

/-! ## Identifiers -/

/-- The text consists of characters of identifiers. -/
def IsIdentifier (text : String) : Prop :=
  ∀ c ∈ text.toList, Literal.isIdentifierChar c = true

instance (text : String) : Decidable (IsIdentifier text) :=
  inferInstanceAs (Decidable (∀ c ∈ text.toList, Literal.isIdentifierChar c = true))

/-- Letters and digits can stand in an identifier. -/
theorem isIdentifierChar_of_alphanum {c : Char} (alphanum : c.isAlphanum = true) :
    Literal.isIdentifierChar c = true := by
  rw [Char.isAlphanum, Bool.or_eq_true] at alphanum
  rw [Literal.isIdentifierChar, Text.isNameChar, Text.isNameStart]
  rcases alphanum with letter | digit
  · rw [letter]
    rfl
  · rw [digit, Bool.or_true]
    rfl

/-- What can stand in a name can stand in an identifier. -/
theorem isIdentifierChar_of_isNameChar {c : Char} (nameChar : Lexer.isNameChar c = true) :
    Literal.isIdentifierChar c = true := by
  rw [Lexer.isNameChar, Bool.or_eq_true, decide_eq_true_eq] at nameChar
  rcases nameChar with alphanum | rfl
  · exact isIdentifierChar_of_alphanum alphanum
  · decide

/-- A name is made of characters of identifiers. -/
theorem Document.IsName.isIdentifier {name : String} (isName : IsName name) : IsIdentifier name :=
  fun c member => isIdentifierChar_of_isNameChar (isNameChar_of_isName isName c member)

/-- Identifiers can be joined. -/
theorem IsIdentifier.append {first second : String} (front : IsIdentifier first)
    (back : IsIdentifier second) : IsIdentifier (first ++ second) := by
  intro c member
  rw [String.toList_append] at member
  exact (List.mem_append.1 member).elim (front c) (back c)

/-- Pascal case leaves characters of identifiers. -/
theorem isIdentifier_pascalCase (text : String) : IsIdentifier (Text.pascalCase text) := by
  intro c member
  rw [Text.pascalCase, String.toList_ofList] at member
  obtain ⟨word, inside, own⟩ := List.mem_flatMap.1 member
  have alphanum : ∀ d ∈ word, d.isAlphanum = true := by
    intro d letter
    have kept : d ∈ (Text.words text.toList).flatten := List.mem_flatten.2 ⟨word, inside, letter⟩
    rw [Text.words_flatten] at kept
    exact (List.mem_filter.1 kept).2
  cases word with
  | nil => cases own
  | cons first rest =>
      refine isIdentifierChar_of_alphanum ?_
      rcases List.mem_cons.1 own with rfl | own
      · exact (Text.isAlphanum_cases (alphanum first List.mem_cons_self)).1
      · obtain ⟨d, letter, rfl⟩ := List.mem_map.1 own
        exact (Text.isAlphanum_cases (alphanum d (List.mem_cons_of_mem _ letter))).2

/-- Pascal case with underscores leaves characters of identifiers. -/
theorem isIdentifier_pascalPieces (text : String) : IsIdentifier (Text.pascalPieces text) := by
  rw [Text.pascalPieces]
  induction Text.pieces '_' text.toList with
  | nil => exact fun _ member => absurd member List.not_mem_nil
  | cons first rest ih =>
      cases rest with
      | nil =>
          rw [List.map_singleton, String.intercalate_singleton]
          exact isIdentifier_pascalCase _
      | cons second rest =>
          rw [List.map_cons, List.map_cons, String.intercalate_cons_cons]
          have underscore : IsIdentifier "_" := by decide
          exact ((isIdentifier_pascalCase _).append underscore).append ih

/-- The constant of a fragment goes by an identifier. -/
theorem fragmentVariable_isIdentifier {config : Config}
    (suffix : IsIdentifier config.fragmentVariableSuffix) {name : String} (isName : IsName name) :
    IsIdentifier (config.fragmentVariable name) := by
  have converted : IsIdentifier (config.convert name) := by
    rw [Config.convert]
    split
    · exact isName.isIdentifier
    · split
      · exact isIdentifier_pascalCase name
      · exact isIdentifier_pascalPieces name
  have empty : IsIdentifier "" := fun _ member => absurd member List.not_mem_nil
  exact (((empty.append empty).append converted).append suffix).append empty

/-! ## The names that are needed -/

/-- What is spread is a word of the selection. -/
theorem mem_words_of_spreads {name : String} {selection : Selection}
    (spreads : selection.Spreads name) : .name name ∈ selection.words := by
  have nested {selections : List Selection} {selection : Selection}
      (member : selection ∈ selections) (own : .name name ∈ selection.words) :
      .name name ∈ Selection.allWords selections := by
    rw [Selection.allWords_eq]
    exact List.mem_flatMap.2 ⟨selection, member, own⟩
  induction spreads with
  | here =>
      rw [Selection.words]
      exact List.mem_cons_self
  | inField member _ ih =>
      rw [Selection.words]
      refine List.mem_append_right _ (List.mem_cons_of_mem _ (List.mem_append_right _ ?_))
      exact List.mem_append_right _ (nested member ih)
  | inInline member _ ih =>
      rw [Selection.words]
      exact List.mem_append_right _ (List.mem_append_right _ (nested member ih))

/-- The words of the selections have the characters of their kinds. -/
def AllLexical (selections : List Selection) : Prop :=
  ∀ word ∈ Selection.allWords selections, word.IsLexical

/-- What selections of a text spread has a name of the grammar. -/
theorem isName_of_mem_directSpreads {selections : List Selection} (lexical : AllLexical selections)
    {name : String} (member : name ∈ directSpreads selections) : IsName name := by
  obtain ⟨selection, inside, spreads⟩ := mem_directSpreads.1 member
  refine lexical (.name name) ?_
  rw [Selection.allWords_eq]
  exact List.mem_flatMap.2 ⟨selection, inside, mem_words_of_spreads spreads⟩

/-- What is needed goes by names. -/
theorem needed_isName {fragments : List FragmentDescriptor} {selections : List Selection}
    (lexical : AllLexical selections)
    (others : ∀ descriptor ∈ fragments, AllLexical descriptor.node.selections) {name : String}
    (member : name ∈ neededFragments fragments selections) : IsName name := by
  refine (walk_neededFragments fragments selections).sound IsName
    (fun _ member => absurd member List.not_mem_nil) ?_ ?_ name member
  · exact fun _ spread _ => isName_of_mem_directSpreads lexical spread
  · intro name spreads _ known next spread _
    obtain ⟨descriptor, first, rfl⟩ := Option.map_eq_some_iff.1 known
    exact isName_of_mem_directSpreads (others descriptor (mem_of_findFragment? first)) spread

/-! ## Reading references -/

namespace Template

open Literal

/-- The lines with the references to constants, and the end of the literal behind them. -/
def referenceLines (names : List String) : List Char :=
  names.flatMap (fun name => documentMargin.toList ++ '$' :: '{' :: (name.toList ++ ['}', '\n'])) ++
    ['`', ';']

/-- **References.** The references are substituted in order, and nothing stands between them but
blanks and line feeds. -/
theorem read_references {names : List String} (identifiers : ∀ name ∈ names, IsIdentifier name) :
    ∃ parts, read 0 (referenceLines names) = some (parts, [';']) ∧ substitutions parts = names ∧
      ∀ c ∈ blanked parts, c = ' ' ∨ c = '\n' := by
  induction names with
  | nil => exact ⟨[], rfl, rfl, fun _ member => absurd member List.not_mem_nil⟩
  | cons name names ih =>
      obtain ⟨own, others⟩ := List.forall_mem_cons.1 identifiers
      obtain ⟨parts, found, substituted, blank⟩ := ih others
      have split : referenceLines (name :: names) = documentMargin.toList ++
          '$' :: '{' :: (name.toList ++ '}' :: '\n' :: referenceLines names) := by
        simp [referenceLines]
      have margin : IsInert documentMargin.toList := by decide
      refine ⟨documentMargin.toList.map .char ++ .substitution name :: .char '\n' :: parts, ?_, ?_,
        ?_⟩
      · rw [split, read_raw margin (by decide) (fun same => by cases same), read_substitution own,
          read_char (by decide) (by decide) (by decide) (fun same => by cases same), found]
        simp [prepend]
      · rw [substitutions_append]
        exact congrArg (name :: ·) substituted
      · intro c member
        rw [blanked_append, blanked_chars, blanked_substitution, blanked_char] at member
        have margins : ∀ c ∈ documentMargin.toList, c = ' ' := by decide
        rcases List.mem_append.1 member with member | member
        · exact .inl (margins c member)
        · rcases List.mem_cons.1 member with rfl | member
          · exact .inl rfl
          · rcases List.mem_cons.1 member with rfl | member
            · exact .inr rfl
            · exact blank c member

end Template

end TypedClient
