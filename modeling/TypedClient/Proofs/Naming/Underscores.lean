import TypedClient.Naming
import TypedClient.Proofs.Text.Pascal

/-! # Underscores in converted names

Pascal case has two modes for names with underscores. In the one, underscores only separate words;
in the other they stay, and each piece between them is converted by itself. No word goes on behind
an underscore, and no word ends earlier because of what stands there (`words_append_separator`), so
the pieces have the words of the whole name. Thus the two modes differ by the underscores alone
(`convertName_underscores`), and where underscores stay a name of letters, digits and underscores
changes in nothing but the case of its letters.
-/

namespace TypedClient

namespace Text

/-! ## Words between separators -/

/-- What stands behind a separator does not decide on the characters in front of it. -/
theorem joins_append_separator {separator : Char} (other : isWordChar separator = false) (c : Char)
    (front rest : List Char) : joins c (front ++ separator :: rest) = joins c front := by
  match front with
  | [] => exact (not_joins_of_not_isWordChar other c rest).2
  | [next] =>
      have lower : separator.isLower = false := by
        simp only [isWordChar, Bool.or_eq_false_iff] at other
        exact other.1.2
      simp [joins, lower]
  | next :: second :: more => rfl

/-- A character is put in front of the first text, whatever follows. -/
theorem extendFirst_append (c : Char) {texts : List (List Char)} (filled : texts ≠ [])
    (others : List (List Char)) :
    extendFirst c (texts ++ others) = extendFirst c texts ++ others := by
  cases texts with
  | nil => exact absurd rfl filled
  | cons first texts => rfl

/-- A character that is joined to the next one has a word behind it. -/
theorem words_ne_nil_of_joins {c : Char} {rest : List Char} (together : joins c rest = true) :
    words rest ≠ [] := by
  cases rest with
  | nil => cases together
  | cons next after =>
      rw [words_cons (isWordChar_of_joins together)]
      exact List.cons_ne_nil _ _

/-- The words of a text are those in front of a separator and those behind it. -/
theorem words_append_separator {separator : Char} (other : isWordChar separator = false)
    (front rest : List Char) :
    words (front ++ separator :: rest) = words front ++ words rest := by
  induction front with
  | nil =>
      have dropped : words (separator :: rest) = words rest := by
        rw [words, other]
        rfl
      exact dropped
  | cons c front ih =>
      rw [List.cons_append, words, words, ih, joins_append_separator other]
      cases own : isWordChar c with
      | false => rfl
      | true =>
          cases together : joins c front with
          | false => rfl
          | true => exact extendFirst_append c (words_ne_nil_of_joins together) (words rest)

/-- The words of a text are those of its pieces. -/
theorem words_eq_flatMap_pieces {separator : Char} (other : isWordChar separator = false)
    (text : List Char) : words text = (pieces separator text).flatMap words := by
  have joined (parts : List (List Char)) :
      words ([separator].intercalate parts) = parts.flatMap words := by
    induction parts with
    | nil => rfl
    | cons part rest ih =>
        cases rest with
        | nil => rw [List.intercalate_singleton, List.flatMap_singleton]
        | cons second rest =>
            rw [List.flatMap_cons, ← ih, List.intercalate_cons_of_ne_nil (List.cons_ne_nil _ _),
              List.append_assoc, List.singleton_append, words_append_separator other]
  rw [← joined, intercalate_pieces]

/-! ## Without underscores -/

/-- The text without its underscores. -/
def dropUnderscores (text : String) : String :=
  String.ofList (text.toList.filter (· != '_'))

/-- Underscores are dropped from each part. -/
theorem dropUnderscores_append (first second : String) :
    dropUnderscores (first ++ second) = dropUnderscores first ++ dropUnderscores second := by
  rw [dropUnderscores, String.toList_append, List.filter_append, String.ofList_append]
  rfl

/-- The characters of words, in either case, are no underscores. -/
theorem dropUnderscores_pascalCase (text : String) :
    dropUnderscores (pascalCase text) = pascalCase text := by
  have free : ∀ c ∈ (pascalCase text).toList, (c != '_') = true := by
    intro c member
    have folded : c.toLower ∈ fold (pascalCase text) := List.mem_map_of_mem member
    rw [fold_pascalCase] at folded
    obtain ⟨d, kept, same⟩ := List.mem_map.1 folded
    have own := (List.mem_filter.1 kept).2
    apply bne_iff_ne.2
    intro underscore
    rw [underscore] at same
    -- No letter has an underscore for its lower-case form, and no digit is one.
    rcases isWordChar_iff.1 own with letter | digit
    · have lower : d.toLower.isLower = true := by
        rw [Char.isLower_toLower_eq_isAlpha]
        exact letter
      rw [same] at lower
      cases lower
    · rw [(case_of_isDigit digit).2] at same
      rw [same] at digit
      cases digit
  rw [dropUnderscores, List.filter_eq_self.2 free, String.ofList_toList]

/-- Pieces in Pascal case make the whole in Pascal case, but for the underscores between them. -/
theorem dropUnderscores_pascalPieces (text : String) :
    dropUnderscores (pascalPieces text) = pascalCase text := by
  have joined (parts : List (List Char)) :
      dropUnderscores
          (String.intercalate "_" (parts.map fun part => pascalCase (String.ofList part))) =
        String.ofList ((parts.flatMap words).flatMap capitalize) := by
    induction parts with
    | nil => rfl
    | cons part rest ih =>
        have first : pascalCase (String.ofList part) =
            String.ofList ((words part).flatMap capitalize) := by
          rw [pascalCase, String.toList_ofList]
        have separator : dropUnderscores "_" = "" := rfl
        cases rest with
        | nil =>
            rw [List.map_singleton, String.intercalate_singleton, dropUnderscores_pascalCase, first,
              List.flatMap_singleton]
        | cons second rest =>
            rw [List.flatMap_cons, List.flatMap_append, String.ofList_append, ← ih, ← first,
              List.map_cons, String.intercalate_cons_of_ne_nil (by simp), dropUnderscores_append,
              dropUnderscores_append, separator, dropUnderscores_pascalCase, String.append_empty]
  rw [pascalPieces, joined, ← words_eq_flatMap_pieces (by rfl), pascalCase]

/-! ## Apart from case -/

/-- Texts that are the same apart from case have their underscores at the same positions. -/
theorem underscore_iff_of_fold {first second : String} (same : fold first = fold second)
    (position : Nat) :
    first.toList[position]? = some '_' ↔ second.toList[position]? = some '_' := by
  have folded (text : String) :
      text.toList[position]? = some '_' ↔ (fold text)[position]? = some '_' := by
    rw [fold, List.getElem?_map]
    cases text.toList[position]? with
    | none => exact Iff.rfl
    | some c =>
        rw [Option.map_some, Option.some.injEq, Option.some.injEq]
        apply Iff.intro
        · intro underscore
          rw [underscore]
          rfl
        · intro underscore
          by_cases upper : c.isUpper = true
          · have lower : c.toLower.isLower = true := by
              rw [Char.isLower_toLower_eq_isAlpha]
              exact isAlpha_of_isUpper upper
            rw [underscore] at lower
            cases lower
          · rwa [Char.toLower_eq_of_not_isUpper upper] at underscore
  rw [folded, folded, same]

/-- Texts that differ in case alone are equally long. -/
theorem length_eq_of_fold {first second : String} (same : fold first = fold second) :
    first.length = second.length := by
  have lengths := congrArg List.length same
  rwa [fold, fold, List.length_map, List.length_map, String.length_toList,
    String.length_toList] at lengths

end Text

/-! ## The main statement -/

/-- Nothing is put around a converted name. -/
structure Config.LeavesBare (config : Config) (affixes : Config.Affixes) : Prop where
  before : affixes.before = ""
  after : affixes.after = ""
  typesPrefix : affixes.withTypesPrefix = true → config.typesPrefix = ""
  typesSuffix : affixes.withTypesSuffix = true → config.typesSuffix = ""

theorem Config.LeavesBare.convertName {config : Config} {affixes : Config.Affixes}
    (bare : config.LeavesBare affixes) (name : String) :
    config.convertName name affixes = config.convert name := by
  have front : (if affixes.withTypesPrefix then config.typesPrefix else "") = "" := by
    split
    · next put => exact bare.typesPrefix put
    · rfl
  have back : (if affixes.withTypesSuffix then config.typesSuffix else "") = "" := by
    split
    · next put => exact bare.typesSuffix put
    · rfl
  rw [Config.convertName, Config.surround, front, back, bare.before, bare.after]
  simp

/-- How the conversions of a name are related, the one with its underscores and the one without. -/
structure DifferByUnderscores (name kept joined : String) : Prop where
  joined_eq : Text.dropUnderscores kept = joined
  /-- A name of letters, digits and underscores keeps its length, its characters apart from case,
  and the positions of its underscores. -/
  length_eq : (∀ c ∈ name.toList, c.isAlphanum = true ∨ c = '_') → kept.length = name.length
  fold_eq : (∀ c ∈ name.toList, c.isAlphanum = true ∨ c = '_') → Text.fold kept = Text.fold name
  underscores : (∀ c ∈ name.toList, c.isAlphanum = true ∨ c = '_') → ∀ position : Nat,
    kept.toList[position]? = some '_' ↔ name.toList[position]? = some '_'

/-- **Underscores in converted names.** In Pascal case and without affixes, the conversion that
keeps underscores differs from the one that does not by the underscores alone, and from the name by
the case of letters alone. -/
theorem convertName_underscores {config : Config} (pascal : config.namingConvention = .pascalCase)
    {affixes : Config.Affixes} (bare : config.LeavesBare affixes) (name : String) :
    DifferByUnderscores name
      ({ config with transformUnderscore := false }.convertName name affixes)
      ({ config with transformUnderscore := true }.convertName name affixes) := by
  have bareIn (transform : Bool) :
      { config with transformUnderscore := transform }.LeavesBare affixes :=
    ⟨bare.before, bare.after, bare.typesPrefix, bare.typesSuffix⟩
  have kept : { config with transformUnderscore := false }.convertName name affixes =
      Text.pascalPieces name := by
    rw [(bareIn false).convertName, Config.convert, pascal]
    rfl
  have joined : { config with transformUnderscore := true }.convertName name affixes =
      Text.pascalCase name := by
    rw [(bareIn true).convertName, Config.convert, pascal]
    rfl
  have folded (plain : ∀ c ∈ name.toList, c.isAlphanum = true ∨ c = '_') :
      Text.fold (Text.pascalPieces name) = Text.fold name :=
    Text.fold_pascalPieces plain
  rw [kept, joined]
  refine ⟨Text.dropUnderscores_pascalPieces name, ?_, folded, ?_⟩
  · intro plain
    exact Text.length_eq_of_fold (folded plain)
  · intro plain
    exact Text.underscore_iff_of_fold (folded plain)

/-- A name with acronyms, a digit and underscores on all sides. The suffix of types is there, but
not for names of this kind. -/
theorem convertName_underscores_acronym :
    ({ typesSuffix := "T" } : Config).namingConvention = .pascalCase ∧
      ({ typesSuffix := "T" } : Config).LeavesBare { withTypesSuffix := false } ∧
      DifferByUnderscores "__getHTTP_URLs2x__v_"
        (({ typesSuffix := "T", transformUnderscore := false } : Config).convertName
          "__getHTTP_URLs2x__v_" { withTypesSuffix := false })
        (({ typesSuffix := "T", transformUnderscore := true } : Config).convertName
          "__getHTTP_URLs2x__v_" { withTypesSuffix := false }) :=
  have pascal : ({ typesSuffix := "T" } : Config).namingConvention = .pascalCase := rfl
  have bare : ({ typesSuffix := "T" } : Config).LeavesBare { withTypesSuffix := false } :=
    ⟨rfl, rfl, fun _ => rfl, fun put => by cases put⟩
  ⟨pascal, bare, convertName_underscores pascal bare "__getHTTP_URLs2x__v_"⟩

example : Text.pascalPieces "__getHTTP_URLs2x__v_" = "__GetHttp_UrLs2X__V_" := by decide

end TypedClient
