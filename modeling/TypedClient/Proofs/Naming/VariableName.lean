import TypedClient.Proofs.Generation.Export

/-! # Names of variables

The names that are made from the names of a document stand where the generated module declares its
variables and where its factory has keys. A convention that drops underscores can lay a digit bare:
`_1` becomes `1`. Whatever else the name and the convention are, the names that are made of it are
names of variables (`namesVariables_iff_not_baresDigit`).
-/

namespace TypedClient

open Document

/-! ## Names of variables -/

/-- The character can start the name of a variable. -/
def startsVariable (c : Char) : Bool :=
  c.isAlpha || c = '_' || c = '$'

/-- The character can stand in the name of a variable. -/
def continuesVariable (c : Char) : Bool :=
  c.isAlphanum || c = '_' || c = '$'

/-- The text can name a variable: it consists of ASCII letters, digits, underscores and dollar
signs, and starts with one of them that is no digit. -/
structure IsVariableName (text : String) : Prop where
  start : ∃ first ∈ text.toList.head?, startsVariable first = true
  chars : ∀ c ∈ text.toList, continuesVariable c = true

/-- Whether a text is the name of a variable can be read off its characters. -/
theorem isVariableName_iff {text : String} : IsVariableName text ↔
    text.toList.head?.any startsVariable = true ∧ text.toList.all continuesVariable = true := by
  rw [Option.any_eq_true, List.all_eq_true]
  exact ⟨fun named => ⟨named.start, named.chars⟩, fun both => ⟨both.1, both.2⟩⟩

instance (text : String) : Decidable (IsVariableName text) :=
  decidable_of_iff' _ isVariableName_iff

/-- Only digits can continue a name and not start one. -/
theorem startsVariable_iff {c : Char} :
    startsVariable c = true ↔ continuesVariable c = true ∧ c.isDigit = false := by
  by_cases letter : c.isAlpha = true
  · simp [startsVariable, continuesVariable, Char.isAlphanum, letter,
      Text.isDigit_of_isAlpha letter]
  · by_cases digit : c.isDigit = true
    · have apart : c ≠ '_' ∧ c ≠ '$' := by
        constructor <;> (rintro rfl; cases digit)
      simp [startsVariable, letter, digit, apart]
    · simp [startsVariable, continuesVariable, Char.isAlphanum, letter, digit]

/-- The characters of variables are those of ASCII. -/
theorem ascii_of_continuesVariable {c : Char} (own : continuesVariable c = true) :
    c.toNat < 0x80 := by
  simp only [continuesVariable, Bool.or_eq_true, decide_eq_true_eq] at own
  rcases own with (letter | rfl) | rfl
  · exact Nat.lt_succ_of_lt (Text.graphic_of_isAlphanum letter).2
  · decide
  · decide

/-- Case makes a difference to letters only. -/
theorem toLower_cases (c : Char) : c.toLower = c ∨ c.isAlpha = true ∧ c.toLower.isAlpha = true := by
  by_cases upper : c.isUpper = true
  · right
    simp [Char.isAlpha, upper]
  · exact .inl (Char.toLower_eq_of_not_isUpper upper)

/-- Case does not decide on what a variable can begin with. -/
theorem startsVariable_toLower (c : Char) : startsVariable c.toLower = startsVariable c := by
  rcases toLower_cases c with same | ⟨own, lower⟩
  · rw [same]
  · rw [startsVariable, startsVariable, own, lower]
    rfl

/-- Case does not decide on what a variable can go on with. -/
theorem continuesVariable_toLower (c : Char) :
    continuesVariable c.toLower = continuesVariable c := by
  rcases toLower_cases c with same | ⟨own, lower⟩
  · rw [same]
  · simp [continuesVariable, Char.isAlphanum, own, lower]

theorem continuesVariable_of_mem_fold {text : String}
    (folded : ∀ c ∈ Text.fold text, continuesVariable c = true) :
    ∀ c ∈ text.toList, continuesVariable c = true := by
  intro c member
  rw [← continuesVariable_toLower]
  exact folded _ (List.mem_map_of_mem member)

/-- Case makes no difference to whether a text can name a variable. -/
theorem isVariableName_of_fold {first second : String} (same : Text.fold first = Text.fold second) :
    IsVariableName first ↔ IsVariableName second := by
  have folded (text : String) : IsVariableName text ↔
      (Text.fold text).head?.any startsVariable = true ∧
        (Text.fold text).all continuesVariable = true := by
    have chars : continuesVariable ∘ Char.toLower = continuesVariable :=
      funext continuesVariable_toLower
    rw [isVariableName_iff, Text.fold, List.head?_map, Option.any_map, List.all_map, chars]
    simp only [startsVariable_toLower]
  rw [folded, folded, same]

/-- In front of the name of a variable, the text must not start with a digit. -/
theorem isVariableName_append {front after : String}
    (chars : ∀ c ∈ front.toList, continuesVariable c = true) (back : IsVariableName after) :
    IsVariableName (front ++ after) ↔ ∀ c ∈ front.toList.head?, c.isDigit = false := by
  have all : ∀ c ∈ (front ++ after).toList, continuesVariable c = true := by
    rw [String.toList_append]
    exact List.forall_mem_append.2 ⟨chars, back.chars⟩
  cases split : front.toList with
  | nil =>
      have same : (front ++ after).toList = after.toList := by
        rw [String.toList_append, split, List.nil_append]
      constructor
      · rintro - c ⟨⟩
      · exact fun _ => ⟨same ▸ back.start, all⟩
  | cons first rest =>
      have head : (front ++ after).toList.head? = some first := by
        rw [String.toList_append, split, List.cons_append, List.head?_cons]
      have own := chars first (split ▸ List.mem_cons_self)
      constructor
      · rintro named _ ⟨⟩
        obtain ⟨_, found, starts⟩ := named.start
        rw [head] at found
        cases found
        exact (startsVariable_iff.1 starts).2
      · intro plain
        exact ⟨⟨first, head, startsVariable_iff.2 ⟨own, plain first rfl⟩⟩, all⟩

/-! ## Keys -/

/-- An ending is not taken from a text that would vanish with it: the text keeps its first character
if the ending starts with another one. -/
theorem dropEnding_toList {text : String} (ending : String) {first initial : Char}
    {rest letters : List Char} (split : text.toList = first :: rest)
    (own : ending.toList = initial :: letters) (apart : first ≠ initial) :
    ∃ kept, (Text.dropEnding text ending).toList = first :: kept ∧ kept ⊆ rest := by
  by_cases ends : Text.endsWith text ending = true
  · obtain ⟨front, rfl⟩ := Text.endsWith_iff.1 ends
    rw [Text.dropEnding_append]
    rw [String.toList_append] at split
    cases parts : front.toList with
    | nil =>
        rw [parts, own] at split
        exact absurd (List.cons.inj split).1.symm apart
    | cons c kept =>
        rw [parts, List.cons_append] at split
        obtain ⟨rfl, rfl⟩ := List.cons.inj split
        exact ⟨kept, rfl, List.subset_append_left _ _⟩
  · rw [Text.dropEnding_of_not (Bool.eq_false_iff.2 ends)]
    exact ⟨rest, split, List.Subset.refl rest⟩

/-- A key keeps the first character of the identifier, apart from case. -/
theorem factoryKey_toList {identifier : String} {first : Char} {rest : List Char}
    (split : identifier.toList = first :: rest) (ascii : first.toNat < 0x80) :
    ∃ kept, (factoryKey identifier).toList = first.toLower :: kept ∧ kept ⊆ rest := by
  have small (capital : Char) (upper : capital.isUpper = true) : first.toLower ≠ capital := by
    intro same
    have lower := Char.isUpper_toLower_eq_false first
    rw [same, upper] at lower
    cases lower
  have lowered : (Text.lowerFirst identifier).toList = first.toLower :: rest := by
    rw [Text.lowerFirst, split]
    simp [Text.lowercase_of_ascii ascii]
  obtain ⟨middle, found, inside⟩ := dropEnding_toList "Query" lowered rfl (small 'Q' rfl)
  obtain ⟨kept, done, within⟩ := dropEnding_toList "Mutation" found rfl
    (small 'M' rfl)
  exact ⟨kept, done, List.Subset.trans within inside⟩

/-- The key of an identifier can name a variable exactly if the identifier can. -/
theorem isVariableName_factoryKey_iff {identifier : String}
    (chars : ∀ c ∈ identifier.toList, continuesVariable c = true) :
    IsVariableName (factoryKey identifier) ↔ IsVariableName identifier := by
  cases split : identifier.toList with
  | nil =>
      have empty : identifier = "" := String.toList_inj.1 split
      rw [empty]
      decide
  | cons first rest =>
      rw [split, List.forall_mem_cons] at chars
      obtain ⟨kept, own, inside⟩ := factoryKey_toList split (ascii_of_continuesVariable chars.1)
      have keys : ∀ c ∈ (factoryKey identifier).toList, continuesVariable c = true := by
        rw [own, List.forall_mem_cons, continuesVariable_toLower]
        exact ⟨chars.1, fun c member => chars.2 c (inside member)⟩
      rw [isVariableName_iff, isVariableName_iff, List.all_eq_true.2 keys, own, split,
        List.all_eq_true.2 (List.forall_mem_cons.2 chars)]
      simp [startsVariable_toLower]

/-! ## Converted names -/

/-- The convention drops all that stands in front of the first digit of the name. -/
def Config.BaresDigit (config : Config) (name : String) : Prop :=
  config.namingConvention = .pascalCase ∧ config.transformUnderscore = true ∧
    ∃ c ∈ name.toList.find? Text.isWordChar, c.isDigit = true

/-- The characters of the name that the convention keeps. -/
def Config.keptChars (config : Config) (name : String) : List Char :=
  if config.namingConvention = .pascalCase ∧ config.transformUnderscore = true then
    name.toList.filter Text.isWordChar
  else name.toList

/-- The convention changes the case of letters, and apart from that keeps what it does not drop. -/
theorem fold_convert_keptChars (config : Config) {name : String} (isName : IsNameOrEmpty name) :
    Text.fold (config.convert name) = Text.fold (String.ofList (config.keptChars name)) := by
  by_cases drops : config.namingConvention = .pascalCase ∧ config.transformUnderscore = true
  · rw [Config.keptChars, if_pos drops, Config.convert, drops.1]
    dsimp only
    rw [if_pos drops.2, Text.fold_pascalCase, Text.fold, String.toList_ofList]
  · rw [Config.keptChars, if_neg drops, String.ofList_toList]
    by_cases keep : config.namingConvention = .keep
    · rw [Config.convert, keep]
    · have pascalCase : config.namingConvention = .pascalCase := by
        cases convention : config.namingConvention with
        | keep => exact absurd convention keep
        | pascalCase => rfl
      exact fold_convert (Bool.eq_false_iff.2 fun underscores => drops ⟨pascalCase, underscores⟩)
        isName

/-- What a conversion keeps was in the name. -/
theorem isNameChar_of_mem_keptChars {config : Config} {name : String}
    (isName : IsNameOrEmpty name) {c : Char} (member : c ∈ config.keptChars name) :
    Lexer.isNameChar c = true := by
  have own : c ∈ name.toList := by
    rw [Config.keptChars] at member
    split at member
    · exact (List.mem_filter.1 member).1
    · exact member
  rcases isName with rfl | isName
  · cases own
  · exact isNameChar_of_isName isName c own

/-- What the convention keeps starts with a digit only if it lays the digit bare, as no name starts
with one. -/
theorem baresDigit_iff {config : Config} {name : String} (isName : IsNameOrEmpty name) :
    config.BaresDigit name ↔ ∃ c ∈ (config.keptChars name).head?, c.isDigit = true := by
  by_cases drops : config.namingConvention = .pascalCase ∧ config.transformUnderscore = true
  · rw [Config.keptChars, if_pos drops, List.head?_filter, Config.BaresDigit]
    exact ⟨fun bares => bares.2.2, fun digit => ⟨drops.1, drops.2, digit⟩⟩
  · rw [Config.keptChars, if_neg drops]
    refine ⟨fun bares => absurd ⟨bares.1, bares.2.1⟩ drops, ?_⟩
    rintro ⟨c, first, digit⟩
    rcases isName with rfl | ⟨_, _, split, start, _⟩
    · cases first
    · rw [split] at first
      cases first
      have starts : startsVariable c = true := by
        rw [startsVariable, ← Lexer.isNameStart, start, Bool.true_or]
      rw [(startsVariable_iff.1 starts).2] at digit
      cases digit

/-- A converted name under a suffix, apart from case. -/
theorem fold_converted (config : Config) {name : String} (isName : IsNameOrEmpty name)
    (after : String) : Text.fold (config.convertName name (Config.plainAffixes after)) =
      Text.fold (String.ofList (config.keptChars name) ++ after) := by
  rw [Config.convertName_plainAffixes, Text.fold_append, Text.fold_append,
    fold_convert_keptChars config isName]

/-- What a conversion keeps can stand in a variable. -/
theorem continuesVariable_of_mem_keptChars {config : Config} {name : String}
    (isName : IsNameOrEmpty name) :
    ∀ c ∈ (String.ofList (config.keptChars name)).toList, continuesVariable c = true := by
  rw [String.toList_ofList]
  intro c member
  rw [continuesVariable, ← Lexer.isNameChar, isNameChar_of_mem_keptChars isName member,
    Bool.true_or]

/-- A converted name has characters of variables alone. -/
theorem continuesVariable_of_mem_converted (config : Config) {name after : String}
    (isName : IsNameOrEmpty name) (suffix : IsVariableName after) :
    ∀ c ∈ (config.convertName name (Config.plainAffixes after)).toList,
      continuesVariable c = true := by
  refine continuesVariable_of_mem_fold ?_
  rw [fold_converted config isName, Text.fold, String.toList_append]
  intro c member
  obtain ⟨d, own, rfl⟩ := List.mem_map.1 member
  rw [continuesVariable_toLower]
  exact (List.mem_append.1 own).elim (continuesVariable_of_mem_keptChars isName d)
    (suffix.chars d)

/-- A converted name under a suffix can name a variable, unless a digit is laid bare. -/
theorem isVariableName_converted_iff (config : Config) {name after : String}
    (isName : IsNameOrEmpty name) (suffix : IsVariableName after) :
    IsVariableName (config.convertName name (Config.plainAffixes after)) ↔
      ¬config.BaresDigit name := by
  rw [isVariableName_of_fold (fold_converted config isName after),
    isVariableName_append (continuesVariable_of_mem_keptChars isName) suffix,
    baresDigit_iff isName, String.toList_ofList]
  simp

/-! ## The main statement -/

/-- The names that are made of one name can name variables exactly under the condition: the
identifier of an operation, its key, and the constants of an operation and of a fragment. -/
structure NamesVariables (config : Config) (kind : OperationKind) (name : String)
    (condition : Prop) : Prop where
  identifier : IsVariableName (config.operationIdentifier name kind.keyword) ↔ condition
  key : IsVariableName (factoryKey (config.operationIdentifier name kind.keyword)) ↔ condition
  document : IsVariableName (config.documentVariable name) ↔ condition
  fragment : IsVariableName (config.fragmentVariable name) ↔ condition

/-- **Names of variables.** Whatever is made of a name under suffixes that are names of variables
themselves can name a variable, exactly if the convention does not lay a digit bare. -/
theorem namesVariables_iff_not_baresDigit (config : Config) (kind : OperationKind) {name : String}
    (isName : IsNameOrEmpty name) (documentSuffix : IsVariableName config.documentVariableSuffix)
    (fragmentSuffix : IsVariableName config.fragmentVariableSuffix) :
    NamesVariables config kind name (¬config.BaresDigit name) := by
  have kindSuffix : IsVariableName (Text.pascalCase kind.keyword) := by
    cases kind <;> decide
  have identifier := isVariableName_converted_iff config isName kindSuffix
  have chars := continuesVariable_of_mem_converted config isName kindSuffix
  constructor
  · exact identifier
  · exact (isVariableName_factoryKey_iff chars).trans identifier
  · exact isVariableName_converted_iff config isName documentSuffix
  · exact isVariableName_converted_iff config isName fragmentSuffix

/-- Names that lose their underscores, and suffixes with a dollar sign in front. -/
def joiningConfig : Config where
  transformUnderscore := true
  documentVariableSuffix := "$document"
  fragmentVariableSuffix := "$1"

theorem namesVariables_trailingDigit :
    IsNameOrEmpty "__get_2FA" ∧ IsVariableName joiningConfig.documentVariableSuffix ∧
      IsVariableName joiningConfig.fragmentVariableSuffix ∧
      ¬joiningConfig.BaresDigit "__get_2FA" ∧
      NamesVariables joiningConfig .mutation "__get_2FA" (¬joiningConfig.BaresDigit "__get_2FA") :=
  have isName : IsNameOrEmpty "__get_2FA" := .inr (by decide)
  have documentSuffix : IsVariableName joiningConfig.documentVariableSuffix := by decide
  have fragmentSuffix : IsVariableName joiningConfig.fragmentVariableSuffix := by decide
  have kept : ¬joiningConfig.BaresDigit "__get_2FA" := by
    rintro ⟨-, -, c, ⟨⟩, digit⟩
    cases digit
  ⟨isName, documentSuffix, fragmentSuffix, kept,
    namesVariables_iff_not_baresDigit joiningConfig .mutation isName documentSuffix fragmentSuffix⟩

/-- Without its underscore, the name of an operation can start with a digit. -/
theorem underscoredDigit_not_variableName :
    IsName "_1" ∧ IsVariableName joiningConfig.documentVariableSuffix ∧
      IsVariableName joiningConfig.fragmentVariableSuffix ∧
      joiningConfig.operationIdentifier "_1" OperationKind.query.keyword = "1Query" ∧
      ¬IsVariableName (joiningConfig.operationIdentifier "_1" OperationKind.query.keyword) := by
  decide

end TypedClient
