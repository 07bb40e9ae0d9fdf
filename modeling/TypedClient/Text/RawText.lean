import TypedClient.Naming
import TypedClient.Text.Quoted

/-! # Texts with surrogates

A running program can hold texts that no file can hold. Beside characters they have surrogates, code
points that stand for no character and that no encoding takes: the bytes of an argument that are not
in the encoding of texts become surrogates, and a template can write one as an escape.

Such a raw text is a text (`RawText.text?`) as long as there is no surrogate in it. What is done to
raw texts here is what is done to texts elsewhere (`RawText.quoted_ofString`,
`RawText.factoryKey_ofString`), with surrogates left as they are.
-/

namespace TypedClient

/-- A code point: a character or one of the surrogates, which are numbered from zero. -/
inductive CodePoint where
  | char (c : Char)
  | surrogate (index : Fin 0x800)
  deriving DecidableEq, Repr

namespace CodePoint

/-- The code point of a number, if the number is in the range of code points. -/
def ofNat? (code : Nat) : Option CodePoint :=
  if code.isValidChar then some (.char (Char.ofNat code))
  else if low : code - 0xd800 < 0x800 then some (.surrogate ⟨code - 0xd800, low⟩)
  else none

/-- The code point is a character. -/
def isChar : CodePoint → Bool
  | char _ => true
  | surrogate _ => false

/-- The character that shows the code point. All surrogates are shown by the same one. -/
def shown : CodePoint → Char
  | char c => c
  | surrogate _ => '\ufffd'

/-- The code point as it stands between the given quotes. -/
def escapeIn (quote : Char) : CodePoint → List Char
  | char c => Text.escapeIn quote c
  | surrogate index => '\\' :: 'u' :: Text.hexPadded 4 (0xd800 + index)

end CodePoint

/-- A text that may hold surrogates. -/
abbrev RawText := List CodePoint

namespace RawText

/-- A text has no surrogates. -/
def ofString (text : String) : RawText :=
  text.toList.map .char

/-- The raw text as it is shown. -/
def shown (raw : RawText) : String :=
  String.ofList (raw.map (·.shown))

/-- The raw text as a text, unless it holds a surrogate. -/
def text? (raw : RawText) : Option String :=
  if raw.all (·.isChar) then some (shown raw) else none

/-- The raw text between quotes, with escapes. -/
def quoted (raw : RawText) : String :=
  let quote := Text.quoteFor (raw.map (·.shown))
  String.ofList (quote :: (raw.flatMap (·.escapeIn quote) ++ [quote]))

/-- The raw text with its first character in lower case. -/
def lowerFirst : RawText → RawText
  | .char c :: rest => (Text.lowercase c).map .char ++ rest
  | raw => raw

/-- The raw text without one trailing `ending`, unchanged if it has none. -/
def dropEnding (raw : RawText) (ending : String) : RawText :=
  if (ofString ending).isSuffixOf raw then raw.take (raw.length - ending.length) else raw

/-- The key in the factory for an identifier that may hold surrogates. -/
def factoryKey (identifier : RawText) : RawText :=
  dropEnding (dropEnding (lowerFirst identifier) "Query") "Mutation"

/-! ## Texts as raw texts -/

theorem map_shown_ofString (text : String) : (ofString text).map (·.shown) = text.toList := by
  rw [ofString, List.map_map]
  exact List.map_id _

theorem shown_ofString (text : String) : shown (ofString text) = text := by
  rw [shown, map_shown_ofString, String.ofList_toList]

theorem text?_ofString (text : String) : text? (ofString text) = some text := by
  have chars : (ofString text).all (·.isChar) = true := by
    rw [ofString, List.all_map]
    exact List.all_eq_true.2 fun _ _ => rfl
  rw [text?, if_pos chars, shown_ofString]

/-- A raw text that is a text is that text. -/
theorem text?_eq_some {raw : RawText} {text : String} :
    raw.text? = some text ↔ raw = ofString text := by
  constructor
  · intro read
    unfold text? at read
    split at read
    · next chars =>
        rw [← Option.some.inj read, shown, ofString, String.toList_ofList, List.map_map]
        refine ((List.map_id raw).symm.trans (List.map_congr_left fun point member => ?_))
        have isChar := List.all_eq_true.1 chars point member
        cases point with
        | char c => rfl
        | surrogate index => cases isChar
    · cases read
  · rintro rfl
    exact text?_ofString text

/-- A text is quoted as it is elsewhere. -/
theorem quoted_ofString (text : String) : quoted (ofString text) = Text.quoted text := by
  rw [quoted, Text.quoted, map_shown_ofString]
  have escaped (quote : Char) : (ofString text).flatMap (·.escapeIn quote) =
      text.toList.flatMap (Text.escapeIn quote) := by
    rw [ofString, List.flatMap_map]
    rfl
  rw [escaped]

theorem isPrefixOf_map_char (front text : List Char) :
    (front.map CodePoint.char).isPrefixOf (text.map CodePoint.char) = front.isPrefixOf text := by
  induction front generalizing text with
  | nil => rfl
  | cons c rest ih =>
    cases text with
    | nil => rfl
    | cons d others =>
      have same : (CodePoint.char c == CodePoint.char d) = (c == d) := by
        rw [Bool.eq_iff_iff, beq_iff_eq, beq_iff_eq, CodePoint.char.injEq]
      rw [List.map_cons, List.map_cons, List.isPrefixOf, List.isPrefixOf, ih, same]

theorem dropEnding_ofString (text ending : String) :
    dropEnding (ofString text) ending = ofString (Text.dropEnding text ending) := by
  have ends : (ofString ending).isSuffixOf (ofString text) = Text.endsWith text ending := by
    rw [List.isSuffixOf, ofString, ofString, ← List.map_reverse, ← List.map_reverse,
      isPrefixOf_map_char]
    rfl
  rw [dropEnding, Text.dropEnding, ends]
  split
  · rw [ofString, ofString, String.toList_ofList, List.map_take, List.length_map,
      String.length_toList]
  · rfl

theorem lowerFirst_ofString (text : String) :
    lowerFirst (ofString text) = ofString (Text.lowerFirst text) := by
  rw [ofString, Text.lowerFirst]
  cases text.toList with
  | nil => rfl
  | cons c rest => rw [ofString, String.toList_ofList, List.map_append]; rfl

/-- A text has the key that it has elsewhere. -/
theorem factoryKey_ofString (identifier : String) :
    factoryKey (ofString identifier) = ofString (TypedClient.factoryKey identifier) := by
  rw [factoryKey, lowerFirst_ofString, dropEnding_ofString, dropEnding_ofString]
  rfl

end RawText

end TypedClient
