import TypedClient.Proofs.Document.Embedded
import TypedClient.Proofs.Document.Print
import TypedClient.Proofs.Generation.Module
import TypedClient.Proofs.Generation.Reference

/-! # What a constant denotes

A constant holds its document in a template literal. The generated module reads the literal, with
its escapes and substitutions, and what it becomes is read as a document again. The text of a
definition is put there as it was printed, so this comes back to the definition only if no string
of it needs an escape.

The main statement, `constants_denote_iff`, says that the strings are all there is to it: a constant
denotes its definition exactly if each string of the definition is plain.
-/

namespace TypedClient

open Document Template Literal

/-- The definition is what its printed text is read as. -/
def Document.Definition.ReadsBack (definition : Definition) : Prop :=
  Document.ofText definition.text = .ok [definition]

/-- All strings of the definition are plain. -/
def Document.Definition.IsPlain (definition : Definition) : Prop :=
  ∀ literal ∈ definition.literals, literal.IsPlain

instance (definition : Definition) : Decidable definition.IsPlain :=
  inferInstanceAs (Decidable (∀ literal ∈ definition.literals, literal.IsPlain))

/-- The literal of a constant denotes the definition: it goes up to the last backtick, its
substitutions are the references to the fragments that are needed, and its text with blanks for them
is read as the definition. -/
def Generator.Denotes (generator : Generator) (literal : String) (definition : Definition) : Prop :=
  ∃ parts, Literal.ofText? literal = some (parts, ";") ∧
    generator.references definition.selections = .ok (substitutions parts) ∧
    Document.ofText (String.ofList (blanked parts)) = .ok [definition]

/-! ## The literal -/

/-- The characters of a literal behind its backtick: a text under a margin, and references. -/
def literalChars (margin text : List Char) (names : List String) : List Char :=
  '\n' :: (margin ++ (Text.moved margin false text ++ '\n' :: referenceLines names))

/-- The literal with a text and references. -/
def literalText (text : String) (names : List String) : String :=
  String.ofList ('`' :: literalChars documentMargin.toList text.toList names)

/-- A constant is its name and a template literal. -/
theorem renderDocument_eq (name : String) {text : String}
    (ends : text.toList.getLast? ≠ some '\r') (names : List String) :
    renderDocument name text names =
      "export const " ++ name ++ " = gql" ++ literalText text names := by
  have references : (String.join (names.map fun constant =>
      documentMargin ++ fragmentReference constant ++ "\n") ++ "`;").toList =
        referenceLines names := by
    rw [String.toList_append, String.toList_join, List.flatMap_map, referenceLines]
    refine congrArg (· ++ ['`', ';']) (List.flatMap_congr fun constant _ => ?_)
    rw [fragmentReference, String.toList_append, String.toList_append, String.toList_append,
      String.toList_append, List.append_assoc, List.append_assoc, List.append_assoc]
    rfl
  have opening : " = gql`\n" = " = gql" ++ "`\n" := by decide
  have behind : literalText text names =
      "`\n" ++ Text.indent documentMargin text ++ "\n" ++
        (String.join (names.map fun constant =>
          documentMargin ++ fragmentReference constant ++ "\n") ++ "`;") := by
    rw [← String.toList_inj, String.toList_append, String.toList_append, String.toList_append,
      references, Text.indent_toList _ _ ends, literalText, String.toList_ofList, literalChars]
    simp
  unfold renderDocument
  simp only [opening, behind, String.append_assoc]

/-- The literal of a constant is read up to its semicolon. -/
theorem ofText?_literalText {text : String} {names : List String} {parts : List LiteralPart} :
    Literal.ofText? (literalText text names) = some (parts, ";") ↔
      Literal.read 0 (literalChars documentMargin.toList text.toList names) =
        some (parts, [';']) := by
  rw [Literal.ofText?, literalText, String.toList_ofList]
  change Option.map _ (Literal.read 0 _) = _ ↔ _
  rw [Option.map_eq_some_iff]
  constructor
  · rintro ⟨⟨own, left⟩, found, same⟩
    obtain ⟨rfl, last⟩ := Prod.mk.inj same
    have semicolon : left = [';'] := by
      rw [← String.toList_inj, String.toList_ofList] at last
      exact last
    rw [found, semicolon]
  · intro found
    exact ⟨_, found, rfl⟩

/-- The references are scanned as nothing. -/
theorem scan_blank {text : List Char} (blank : ∀ c ∈ text, c = ' ' ∨ c = '\n') :
    Lexer.scan 0 text = .done := by
  induction text with
  | nil => rfl
  | cons c text ih =>
      have separator : Lexer.isSeparator c = true := by
        rcases blank c List.mem_cons_self with rfl | rfl <;> rfl
      rw [Lexer.scan_separator separator]
      exact ih fun d member => blank d (List.mem_cons_of_mem _ member)

section Reading

variable {margin : List Char} (margins : ∀ c ∈ margin, c = ' ') {definition : Definition}
  {names : List String} (executable : definition.IsExecutable)
  (readsBack : definition.ReadsBack) (identifiers : ∀ name ∈ names, IsIdentifier name)

include margins executable readsBack identifiers

/-- The literal of a plain definition is read as the definition. -/
theorem exists_parts_of_plain (plain : definition.IsPlain) :
    ∃ parts,
      Literal.read 0 (literalChars margin definition.text.toList names) = some (parts, [';']) ∧
      substitutions parts = names ∧
      Document.ofText (String.ofList (blanked parts)) = .ok [definition] := by
  obtain ⟨whole, lexical⟩ := strings_of_ofText executable readsBack
  obtain ⟨shown, isShown⟩ := (definition.prints lexical).exists_shown margins plain
  obtain ⟨references, found, substituted, blank⟩ := read_references identifiers
  obtain ⟨inert, carriage, dollar⟩ := isInert_blanks margins
  refine ⟨.char '\n' :: (margin.map .char ++
    (shown.map .char ++ .char '\n' :: references)), ?_, ?_, ?_⟩
  · rw [literalChars, read_char (by decide) (by decide) (by decide) (fun same => by cases same),
      read_raw inert carriage (fun _ => dollar), isShown.reads,
      read_char (by decide) (by decide) (by decide) (fun same => by cases same), found]
    simp [prepend]
  · rw [substitutions_char, substitutions_append, substitutions_append, substitutions_chars,
      substitutions_chars, substitutions_char]
    exact substituted
  · apply ofText_congr executable readsBack
    have last : Lexer.scan 0 ('\n' :: blanked references) = .done :=
      scan_blank (List.forall_mem_cons.2 ⟨.inr rfl, blank⟩)
    have nothing : Lexer.IsQuiet [] := fun _ member => absurd member List.not_mem_nil
    rw [Tokens.ofText, String.toList_ofList, blanked_char, blanked_append, blanked_append,
      blanked_chars, blanked_chars, blanked_char, Lexer.scan_separator rfl,
      Lexer.scan_blanks margins]
    exact isShown.scans _ [] last nothing (by rw [List.nil_append, ← Tokens.ofText, whole]; rfl)

/-- A definition that its literal is read as is plain. -/
theorem plain_of_parts {parts : List LiteralPart}
    (found : Literal.read 0 (literalChars margin definition.text.toList names) =
      some (parts, [';']))
    (substituted : substitutions parts = names)
    (denoted : Document.ofText (String.ofList (blanked parts)) = .ok [definition]) :
    definition.IsPlain := by
  obtain ⟨_, lexical⟩ := strings_of_ofText executable readsBack
  obtain ⟨references, behind, own, _⟩ := read_references identifiers
  obtain ⟨inert, carriage, dollar⟩ := isInert_blanks margins
  rw [literalChars, read_char (by decide) (by decide) (by decide) (fun same => by cases same),
    read_raw inert carriage (fun _ => dollar), map_prepend, Option.map_eq_some_iff] at found
  obtain ⟨⟨others, left⟩, found, same⟩ := found
  obtain ⟨rfl, rfl⟩ : .char '\n' :: (margin.map .char ++ others) = parts ∧ left = [';'] := by
    rw [prepend, List.append_assoc] at same
    exact Prod.mk.inj same
  have noReturn : '\r' ∉ Text.moved margin false definition.text.toList :=
    Text.not_mem_moved rfl (by decide) carriage false _
  obtain ⟨before, after, rfl, cooks, rest⟩ := read_upTo (.inr rfl) noReturn found (by
    rw [referenceLines, List.length_append]
    exact Nat.le_add_left_of_le (by decide))
  rw [behind] at rest
  obtain ⟨rfl, _⟩ := Prod.mk.inj (Option.some.inj rest)
  rw [substitutions_char, substitutions_append, substitutions_chars, List.nil_append,
    substitutions_append, own, List.append_left_eq_self] at substituted
  obtain ⟨strings, _⟩ := strings_of_ofText executable denoted
  rw [Tokens.ofText, String.toList_ofList, blanked_char, blanked_append, blanked_chars,
    blanked_append, Lexer.scan_separator rfl] at strings
  have printed := definition.prints lexical
  exact printed.plain margins cooks substituted (Lexer.isQuiet_blanks margins) strings

end Reading

/-! ## The main statement -/

/-- A definition that is read back has names and numbers of the grammar. -/
theorem Document.Definition.ReadsBack.lexical {definition : Definition}
    (readsBack : definition.ReadsBack) (executable : definition.IsExecutable) :
    AllLexical definition.selections := by
  obtain ⟨_, lexical⟩ := strings_of_ofText executable readsBack
  intro word member
  apply lexical
  cases definition with
  | operation body =>
      refine List.mem_append_right _ (List.mem_append_right _ (List.mem_append_right _ ?_))
      exact List.mem_append_right _ member
  | fragment body =>
      refine List.mem_append_right _ (List.mem_cons_of_mem _ (List.mem_cons_of_mem _ ?_))
      exact List.mem_append_right _ member
  | _ => cases executable

namespace Generator

variable {generator : Generator} (named : HasTextNames generator.fragments)
  (suffix : IsIdentifier generator.config.fragmentVariableSuffix)
  (known : ∀ descriptor ∈ generator.fragments, (Definition.fragment descriptor.node).ReadsBack)

include named suffix known

/-- A literal denotes its definition exactly if the strings in it are plain. -/
theorem denotes_iff {definition : Definition} (executable : definition.IsExecutable)
    (readsBack : definition.ReadsBack) :
    generator.Denotes
        (literalText definition.text (generator.referenceNames definition.selections)) definition ↔
      definition.IsPlain := by
  have identifiers : ∀ name ∈ generator.referenceNames definition.selections,
      IsIdentifier name := by
    intro name member
    obtain ⟨fragment, needed, rfl⟩ := List.mem_map.1 member
    apply fragmentVariable_isIdentifier suffix
    apply needed_isName (readsBack.lexical executable) _ needed
    intro descriptor inside
    exact (known descriptor inside).lexical trivial
  have margins : ∀ c ∈ documentMargin.toList, c = ' ' := by decide
  rw [Denotes, references_ok named, literalText]
  constructor
  · rintro ⟨parts, found, substituted, denoted⟩
    exact plain_of_parts margins executable readsBack identifiers (ofText?_literalText.1 found)
      (Except.ok.inj substituted).symm denoted
  · intro plain
    obtain ⟨parts, found, substituted, denoted⟩ :=
      exists_parts_of_plain margins executable readsBack identifiers plain
    exact ⟨parts, ofText?_literalText.2 found, by rw [substituted], denoted⟩

end Generator

/-- **What constants denote.** The constants of operations and fragments are rendered, and such a
constant denotes its definition exactly if all strings of the definition are plain. -/
theorem constants_denote_iff {generator : Generator} (packaged : generator.templates = {})
    (named : HasTextNames generator.fragments)
    (suffix : IsIdentifier generator.config.fragmentVariableSuffix)
    (known : ∀ descriptor ∈ generator.fragments,
      (Definition.fragment descriptor.node).ReadsBack) :
    (∀ operation : Operation, (Definition.operation operation).ReadsBack →
      ∃ literal, (generator.documentConstant operation).outcome =
          .ok ("export const " ++ generator.config.documentVariable (operation.name.getD "") ++
            " = gql" ++ literal) ∧
        (generator.Denotes literal (.operation operation) ↔
          (Definition.operation operation).IsPlain)) ∧
    ∀ descriptor ∈ generator.fragments,
      ∃ literal, (generator.fragmentConstant descriptor).outcome =
          .ok ("export const " ++ generator.config.fragmentVariable descriptor.name.inline ++
            " = gql" ++ literal) ∧
        (generator.Denotes literal (.fragment descriptor.node) ↔
          (Definition.fragment descriptor.node).IsPlain) := by
  have ends {definition : Definition} (executable : definition.IsExecutable)
      (readsBack : definition.ReadsBack) : definition.text.toList.getLast? ≠ some '\r' :=
    (definition.prints (strings_of_ofText executable readsBack).2).getLast_ne
  constructor
  · intro operation readsBack
    refine ⟨_, ?_, Generator.denotes_iff named suffix known trivial readsBack⟩
    rw [Generator.documentConstant, Generator.constant_packaged packaged named]
    exact congrArg Except.ok
      (renderDocument_eq _ (@ends (.operation operation) trivial readsBack) _)
  · intro descriptor member
    have readsBack := known descriptor member
    refine ⟨_, ?_, Generator.denotes_iff named suffix known trivial readsBack⟩
    rw [Generator.fragmentConstant_packaged packaged named member]
    exact congrArg Except.ok
      (renderDocument_eq _ (@ends (.fragment descriptor.node) trivial readsBack) _)

/-- A fragment with a plain string. -/
def labelledFragment : Fragment :=
  ⟨none, "A", "T", [], [.field none "x" [⟨"s", .string ⟨"a\tb", false⟩⟩] [] []]⟩

/-- A query with a plain block string that spreads the fragment. -/
def blockQuery : Operation :=
  ⟨none, .query, some "P", [], [],
    [.spread "A" [], .field none "f" [⟨"s", .string ⟨"a\nb", true⟩⟩] [] []]⟩

/-- A generator that knows the fragment. -/
def labelledGenerator : Generator where
  fragments := [.ofFragment labelledFragment false]

theorem labelledFragment_readsBack : (Definition.fragment labelledFragment).ReadsBack := by
  unfold Definition.ReadsBack
  cbv

theorem blockQuery_readsBack : (Definition.operation blockQuery).ReadsBack := by
  unfold Definition.ReadsBack
  cbv

theorem labelledGenerator_denotes :
    HasTextNames labelledGenerator.fragments ∧
      (∀ descriptor ∈ labelledGenerator.fragments,
        (Definition.fragment descriptor.node).ReadsBack) ∧
      (Definition.operation blockQuery).ReadsBack ∧
      (∃ literal, (labelledGenerator.documentConstant blockQuery).outcome =
          .ok ("export const " ++ labelledGenerator.config.documentVariable "P" ++ " = gql" ++
            literal) ∧
        labelledGenerator.Denotes literal (.operation blockQuery)) ∧
      ∃ literal, (labelledGenerator.fragmentConstant (.ofFragment labelledFragment false)).outcome =
          .ok ("export const " ++ labelledGenerator.config.fragmentVariable "A" ++ " = gql" ++
            literal) ∧
        labelledGenerator.Denotes literal (.fragment labelledFragment) := by
  have named : HasTextNames labelledGenerator.fragments := by
    intro descriptor member
    exact ⟨"A", by rw [List.mem_singleton.1 member]; rfl⟩
  have known : ∀ descriptor ∈ labelledGenerator.fragments,
      (Definition.fragment descriptor.node).ReadsBack := by
    intro descriptor member
    rw [List.mem_singleton.1 member]
    exact labelledFragment_readsBack
  have suffix : IsIdentifier labelledGenerator.config.fragmentVariableSuffix := by decide
  obtain ⟨operations, fragments⟩ :=
    @constants_denote_iff labelledGenerator rfl named suffix known
  refine ⟨named, known, blockQuery_readsBack, ?_, ?_⟩
  · obtain ⟨literal, rendered, denotes⟩ := operations blockQuery blockQuery_readsBack
    exact ⟨literal, rendered, denotes.2 (by decide +kernel)⟩
  · obtain ⟨literal, rendered, denotes⟩ := fragments _ List.mem_cons_self
    exact ⟨literal, rendered, denotes.2 (by decide +kernel)⟩

/-- A query with a backtick in a string. -/
def backtickQuery : Operation :=
  ⟨none, .query, some "Q", [], [], [.field none "f" [⟨"s", .string ⟨"`", false⟩⟩] [] []]⟩

/-- A backtick in a string ends the literal there. -/
theorem backtickQuery_not_denoted :
    (Definition.operation backtickQuery).ReadsBack ∧
      ∃ literal, (({} : Generator).documentConstant backtickQuery).outcome =
          .ok ("export const QDocument = gql" ++ literal) ∧
        ¬({} : Generator).Denotes literal (.operation backtickQuery) := by
  refine ⟨?_, "`\n    query Q \x7b\n      f(s: \"`\")\n    \x7d\n`;", by decide +kernel, ?_⟩
  · unfold Definition.ReadsBack
    cbv
  · rintro ⟨parts, found, _⟩
    have behind : (Literal.ofText? "`\n    query Q \x7b\n      f(s: \"`\")\n    \x7d\n`;").map
        (·.2) = some "\")\n    \x7d\n`;" := by decide +kernel
    have same : some ";" = some "\")\n    \x7d\n`;" := by
      rw [found] at behind
      exact behind
    exact absurd same (by decide)

end TypedClient
