/-! # Texts

Whether a text begins or ends with another one, decided on its characters, and what is left when an
ending is taken off. A text is cut at every occurrence of a separator; there is one piece more than
there are separators, so a text without any is a single piece.

Texts are ordered by their code points. `sorted` puts a list in that order, and `sortedSet` also
writes each text once.
-/

namespace TypedClient.Text

/-! ## Beginnings and ends -/

/-- The text begins with `start`. -/
def startsWith (text start : String) : Bool :=
  start.toList.isPrefixOf text.toList

/-- The text ends with `ending`. -/
def endsWith (text ending : String) : Bool :=
  ending.toList.isSuffixOf text.toList

/-- The text without one trailing `ending`, unchanged if it has none. -/
def dropEnding (text ending : String) : String :=
  if endsWith text ending then
    String.ofList (text.toList.take (text.length - ending.length))
  else text

theorem startsWith_iff {text start : String} :
    startsWith text start = true ↔ ∃ rest, text = start ++ rest := by
  rw [startsWith, List.isPrefixOf_iff_prefix]
  constructor
  · rintro ⟨rest, same⟩
    exact ⟨String.ofList rest, String.toList_inj.1 (by simp [← same])⟩
  · rintro ⟨rest, rfl⟩
    exact ⟨rest.toList, by simp⟩

theorem endsWith_iff {text ending : String} :
    endsWith text ending = true ↔ ∃ rest, text = rest ++ ending := by
  rw [endsWith, List.isSuffixOf_iff_suffix]
  constructor
  · rintro ⟨rest, same⟩
    exact ⟨String.ofList rest, String.toList_inj.1 (by simp [← same])⟩
  · rintro ⟨rest, rfl⟩
    exact ⟨rest.toList, by simp⟩

/-- Only the ending is taken off. -/
theorem dropEnding_append (text ending : String) : dropEnding (text ++ ending) ending = text := by
  have ends : endsWith (text ++ ending) ending = true := endsWith_iff.2 ⟨text, rfl⟩
  rw [dropEnding, if_pos ends, ← String.toList_inj]
  simp [← String.length_toList]

theorem dropEnding_of_not {text ending : String} (differs : endsWith text ending = false) :
    dropEnding text ending = text := by
  simp [dropEnding, differs]

/-! ## Pieces -/

/-- What holds of all characters of a text is decided one by one, not over all characters that there
are. -/
instance (priority := high) decidableForallChar (text : List Char) (p : Char → Prop)
    [DecidablePred p] : Decidable (∀ c ∈ text, p c) :=
  List.decidableBAll p text

/-- Puts the character in front of the first piece. -/
def extendFirst (c : Char) : List (List Char) → List (List Char)
  | [] => [[c]]
  | piece :: others => (c :: piece) :: others

/-- The pieces of a text between separators. -/
def pieces (separator : Char) : List Char → List (List Char)
  | [] => [[]]
  | c :: rest => if c = separator then [] :: pieces separator rest
      else extendFirst c (pieces separator rest)

theorem extendFirst_flatten (c : Char) (texts : List (List Char)) :
    (extendFirst c texts).flatten = c :: texts.flatten := by
  cases texts <;> simp [extendFirst]

theorem extendFirst_length (c : Char) {texts : List (List Char)} (filled : texts ≠ []) :
    (extendFirst c texts).length = texts.length := by
  cases texts with
  | nil => exact absurd rfl filled
  | cons => rfl

theorem pieces_ne_nil (separator : Char) (text : List Char) : pieces separator text ≠ [] := by
  cases text with
  | nil => simp [pieces]
  | cons c rest =>
    rw [pieces]
    split
    · simp
    · cases pieces separator rest <;> simp [extendFirst]

/-- There is one piece more than there are separators. -/
theorem pieces_length (separator : Char) (text : List Char) :
    (pieces separator text).length = text.count separator + 1 := by
  induction text with
  | nil => rfl
  | cons c rest ih =>
    by_cases same : c = separator
    · simp [pieces, same, ih]
    · rw [pieces, if_neg same, extendFirst_length c (pieces_ne_nil _ _), ih,
        List.count_cons_of_ne same]

/-! ## Order -/

/-- The texts in ascending order. -/
def sorted (texts : List String) : List String :=
  texts.mergeSort fun a b => decide (a ≤ b)

/-- The different texts of a list in ascending order. -/
def sortedSet (texts : List String) : List String :=
  sorted texts.eraseDups

/-- No text stands behind a greater one. -/
theorem sorted_pairwise (texts : List String) : (sorted texts).Pairwise (· ≤ ·) := by
  have transitive (a b c : String) (first : decide (a ≤ b) = true)
      (second : decide (b ≤ c) = true) : decide (a ≤ c) = true :=
    decide_eq_true (String.le_trans (of_decide_eq_true first) (of_decide_eq_true second))
  have total (a b : String) : (decide (a ≤ b) || decide (b ≤ a)) = true := by
    simpa using String.le_total a b
  exact (List.pairwise_mergeSort transitive total texts).imp of_decide_eq_true

theorem mem_sorted {text : String} {texts : List String} : text ∈ sorted texts ↔ text ∈ texts :=
  List.mem_mergeSort

theorem mem_sortedSet {text : String} {texts : List String} :
    text ∈ sortedSet texts ↔ text ∈ texts := by
  rw [sortedSet, mem_sorted, List.mem_eraseDups]

end TypedClient.Text
