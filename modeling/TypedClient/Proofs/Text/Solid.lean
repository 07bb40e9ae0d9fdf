import TypedClient.Text.Character

/-! # Solid characters

The characters that blanks and line ends do not touch. Digits are among them, so whatever is spelled
in digits stays as it is when lines are moved.
-/

namespace TypedClient.Text

/-- The character is neither a blank nor a line feed. -/
def isSolid (c : Char) : Bool :=
  !(c = ' ' || c = '\t' || c = '\n')

/-- What is not solid is a blank, a tab or a line feed. -/
theorem isSolid_eq_false {c : Char} (blank : isSolid c = false) :
    c = ' ' ∨ c = '\t' ∨ c = '\n' := by
  simpa only [isSolid, Bool.not_eq_eq_eq_not, Bool.not_false, Bool.or_eq_true, decide_eq_true_eq,
    or_assoc] using blank

/-- The characters are solid and no quotes. -/
def AllSolid (text : List Char) : Prop :=
  ∀ c ∈ text, isSolid c = true ∧ c ≠ '"'

theorem AllSolid.cons {c : Char} {text : List Char} (first : isSolid c = true ∧ c ≠ '"')
    (others : AllSolid text) : AllSolid (c :: text) :=
  List.forall_mem_cons.2 ⟨first, others⟩

/-- Solid texts can stand one behind the other. -/
theorem AllSolid.append {first second : List Char} (front : AllSolid first)
    (back : AllSolid second) : AllSolid (first ++ second) :=
  fun c member => (List.mem_append.1 member).elim (front c) (back c)

/-- The character is printable ASCII and no blank. -/
def IsGraphic (c : Char) : Prop :=
  0x20 < c.toNat ∧ c.toNat < 0x7f

instance (c : Char) : Decidable (IsGraphic c) :=
  inferInstanceAs (Decidable (0x20 < c.toNat ∧ c.toNat < 0x7f))

/-- Printable characters other than the blank are solid. -/
theorem isSolid_of_graphic {c : Char} (graphic : IsGraphic c) : isSolid c = true := by
  rw [← Bool.not_eq_false]
  intro blank
  rcases isSolid_eq_false blank with rfl | rfl | rfl <;> exact absurd graphic.1 (by decide)

/-- What lies between two printable characters is printable. -/
theorem graphic_of_between {c low high : Char} (between : low ≤ c ∧ c ≤ high)
    (lowest : IsGraphic low) (highest : IsGraphic high) : IsGraphic c :=
  ⟨Nat.lt_of_lt_of_le lowest.1 between.1, Nat.lt_of_le_of_lt between.2 highest.2⟩

/-- Letters and digits are printable. -/
theorem graphic_of_isAlphanum {c : Char} (own : c.isAlphanum = true) : IsGraphic c := by
  rcases (Bool.or_eq_true _ _).mp own with letter | digit
  · rcases (Bool.or_eq_true _ _).mp letter with upper | lower
    · have between : 'A' ≤ c ∧ c ≤ 'Z' := of_decide_eq_true upper
      exact graphic_of_between between (by decide) (by decide)
    · have between : 'a' ≤ c ∧ c ≤ 'z' :=
        ((Bool.and_eq_true _ _).mp lower).imp of_decide_eq_true of_decide_eq_true
      exact graphic_of_between between (by decide) (by decide)
  · have between : '0' ≤ c ∧ c ≤ '9' :=
      ((Bool.and_eq_true _ _).mp digit).imp of_decide_eq_true of_decide_eq_true
    exact graphic_of_between between (by decide) (by decide)

/-- Digits, those of hexadecimal numbers too, are printable. -/
theorem graphic_of_digit {c : Char} (digit : (digitValue? 16 c).isSome = true) :
    IsGraphic c := by
  have value : c.isDigit = true ∨ ('a' ≤ c ∧ c ≤ 'f') ∨ ('A' ≤ c ∧ c ≤ 'F') := by
    refine Decidable.byContradiction fun other => ?_
    simp only [not_or] at other
    simp [digitValue?, other] at digit
  rcases value with decimal | lower | upper
  · exact graphic_of_isAlphanum (by rw [Char.isAlphanum, decimal, Bool.or_true])
  · exact graphic_of_between lower (by decide) (by decide)
  · exact graphic_of_between upper (by decide) (by decide)

/-- Hexadecimal digits are solid and no quotes. -/
theorem solid_of_digit {c : Char} (digit : (digitValue? 16 c).isSome = true) :
    isSolid c = true ∧ c ≠ '"' := by
  refine ⟨isSolid_of_graphic (graphic_of_digit digit), ?_⟩
  rintro rfl
  exact absurd digit (by decide)

/-- A number in front of a text is spelled in solid characters. -/
theorem spelling_of_numberInFront {count code : Nat} {text : List Char}
    (found : numberInFront? 16 count text = some code) :
    ∃ spelling rest, text = spelling ++ rest ∧ spelling.length = count ∧ AllSolid spelling := by
  unfold numberInFront? at found
  simp only [Option.ite_none_right_eq_some, List.all_eq_true] at found
  obtain ⟨⟨enough, digits⟩, _⟩ := found
  exact ⟨text.take count, text.drop count, (List.take_append_drop count text).symm, enough,
    fun c member => solid_of_digit (digits c member)⟩

/-- What starts with a piece is part of it or goes on beyond its last character. -/
theorem piece_of_append {front tail spelling rest : List Char} {last : Char}
    (same : front ++ last :: tail = spelling ++ rest) :
    (∃ more, front = spelling ++ more ∧ rest = more ++ last :: tail) ∨
      ∃ beyond, spelling = front ++ last :: beyond := by
  rcases List.append_eq_append_iff.1 same with ⟨extra, spelled, behind⟩ | ⟨more, split, behind⟩
  · cases extra with
    | nil => exact .inl ⟨[], by rw [spelled]; simp, behind.symm⟩
    | cons c extra =>
        obtain ⟨rfl, _⟩ := List.cons.inj behind
        exact .inr ⟨extra, spelled⟩
  · exact .inl ⟨more, split, behind⟩

end TypedClient.Text
