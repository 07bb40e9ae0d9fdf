import TypedClient.Text.Basic

/-! # Lines of a text

Three ways to read line ends. `normalizeNewlines` makes every line end of a file a line feed.
`textLines` cuts at the line ends of a GraphQL document and keeps an empty last line. `splitLines`
knows every Unicode line boundary and gives no line after a final one; `indent` moves lines of that
kind to the right.
-/

namespace TypedClient.Text

/-- A carriage return, alone or before a line feed, becomes a line feed. -/
def normalizeNewlines : List Char → List Char
  | [] => []
  | '\r' :: '\n' :: rest => '\n' :: normalizeNewlines rest
  | '\r' :: rest => '\n' :: normalizeNewlines rest
  | c :: rest => c :: normalizeNewlines rest

/-- The lines between line feeds, carriage returns and pairs of the two; never empty, since what
follows the last line end is a line too. -/
def textLines : List Char → List (List Char)
  | [] => [[]]
  | '\r' :: '\n' :: rest => [] :: textLines rest
  | '\r' :: rest => [] :: textLines rest
  | '\n' :: rest => [] :: textLines rest
  | c :: rest => extendFirst c (textLines rest)

/-- A text has a line. -/
theorem textLines_ne_nil (text : List Char) : textLines text ≠ [] := by
  fun_cases textLines text with
  | case5 c rest => cases textLines rest <;> simp [extendFirst]
  | _ => simp

theorem one_le_textLines_length (text : List Char) : 1 ≤ (textLines text).length :=
  List.length_pos_iff.2 (textLines_ne_nil text)

/-- The beginning of a text has no more lines than the text. -/
theorem textLines_length_take (count : Nat) (text : List Char) :
    (textLines (text.take count)).length ≤ (textLines text).length := by
  fun_induction textLines text generalizing count with
  | case1 => simp [textLines]
  | case2 rest ih =>
    match count with
    | 0 => simp [textLines]
    | 1 => simpa [textLines] using one_le_textLines_length rest
    | count + 2 => simpa [textLines] using ih count
  | case3 rest other ih =>
    match count, rest with
    | 0, _ => simp [textLines]
    | 1, rest => simpa [textLines] using one_le_textLines_length rest
    | count + 2, [] => simp [textLines]
    | count + 2, d :: rest =>
      have step := ih (count + 1)
      rw [List.take_succ_cons] at step ⊢
      rw [List.take_succ_cons, textLines]
      · simpa using step
      · simpa using other
  | case4 rest ih =>
    match count with
    | 0 => simp [textLines]
    | count + 1 => simpa [textLines] using ih count
  | case5 c rest pair single feed ih =>
    match count with
    | 0 => simpa [textLines, extendFirst_length, textLines_ne_nil] using
        one_le_textLines_length rest
    | count + 1 =>
      rw [List.take_succ_cons, textLines, extendFirst_length c (textLines_ne_nil _),
        extendFirst_length c (textLines_ne_nil _)]
      · exact ih count
      · exact fun _ carriage _ => single carriage
      · exact single
      · exact feed

/-- The characters that end a line, the separators of information and the Unicode line and
paragraph separators included. -/
def isLineBoundary (c : Char) : Bool :=
  c.toNat ∈ [0x0a, 0x0b, 0x0c, 0x0d, 0x1c, 0x1d, 0x1e, 0x85, 0x2028, 0x2029]

/-- The lines that end at a line boundary, and the rest after the last one unless it is empty. -/
def splitLines : List Char → List (List Char)
  | [] => []
  | '\r' :: '\n' :: rest => [] :: splitLines rest
  | c :: rest => if isLineBoundary c then [] :: splitLines rest else extendFirst c (splitLines rest)

/-- The text with `margin` before its first line and before every other line that is not empty. Its
lines are joined by line feeds. -/
def indent (margin : String) (text : String) : String :=
  match splitLines (text.toList ++ ['\n']) with
  | [] => margin
  | first :: others =>
    let moved := others.map fun line =>
      if line.isEmpty then "" else margin ++ String.ofList line
    String.intercalate "\n" ((margin ++ String.ofList first) :: moved)

/-- The text with `margin` after every line feed, also where a line is blank. -/
def indentAfterNewlines (margin : List Char) : List Char → List Char
  | [] => []
  | c :: rest => if c = '\n' then c :: (margin ++ indentAfterNewlines margin rest)
      else c :: indentAfterNewlines margin rest

end TypedClient.Text
