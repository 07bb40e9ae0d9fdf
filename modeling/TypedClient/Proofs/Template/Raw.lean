import Mathlib.Data.List.Infix
import TypedClient.Proofs.Template.Literal

/-! # Text that stands for itself

The characters of a template literal that neither start an escape nor a substitution nor end the
literal are its text (`read_raw`), and so is an escaped character behind its backslash.
-/

namespace TypedClient.Template.Literal

/-- The parts with others in front, and the same text behind. -/
def prepend (front : List LiteralPart) (found : List LiteralPart × List Char) :
    List LiteralPart × List Char :=
  (front ++ found.1, found.2)

/-- What is put in front in two steps is put there at once. -/
theorem map_prepend (first second : List LiteralPart)
    (found : Option (List LiteralPart × List Char)) :
    (found.map (prepend second)).map (prepend first) = found.map (prepend (first ++ second)) := by
  cases found with
  | none => rfl
  | some pair => simp [prepend]

/-- The text starts no escape and no substitution and does not end a literal. -/
structure IsInert (text : List Char) : Prop where
  slash : '\\' ∉ text
  backtick : '`' ∉ text
  substitution : ¬['$', '{'] <:+: text

instance (text : List Char) : Decidable (IsInert text) :=
  decidable_of_iff ('\\' ∉ text ∧ '`' ∉ text ∧ ¬['$', '{'] <:+: text)
    ⟨fun ⟨slash, backtick, substitution⟩ => ⟨slash, backtick, substitution⟩,
      fun ⟨slash, backtick, substitution⟩ => ⟨slash, backtick, substitution⟩⟩

theorem IsInert.of_cons {c : Char} {text : List Char} (inert : IsInert (c :: text)) :
    IsInert text :=
  ⟨fun member => inert.slash (List.mem_cons_of_mem _ member),
    fun member => inert.backtick (List.mem_cons_of_mem _ member),
    fun inside => inert.substitution (List.infix_cons inside)⟩

/-- A plain character is read as itself. -/
theorem read_char {c : Char} {rest : List Char} (slash : c ≠ '\\') (backtick : c ≠ '`')
    (carriage : c ≠ '\r') (dollar : c = '$' → rest.head? ≠ some '{') :
    read 0 (c :: rest) = (read 0 rest).map (prepend [.char c]) := by
  have own : partsAt? c rest = some ([.char c], 0) := by
    rw [partsAt?, if_neg slash, if_neg fun both => dollar both.1 both.2, if_neg carriage]
  rw [read, if_neg backtick, own]
  rw [Option.bind_eq_bind, Option.bind_some]
  dsimp only
  cases read 0 rest <;> rfl

/-- **Raw text.** Inert text without carriage returns is read as it stands. -/
theorem read_raw {text rest : List Char} (inert : IsInert text) (carriage : '\r' ∉ text)
    (brace : rest.head? = some '{' → text.getLast? ≠ some '$') :
    read 0 (text ++ rest) = (read 0 rest).map (prepend (text.map .char)) := by
  induction text with
  | nil =>
      rw [List.nil_append]
      cases read 0 rest <;> rfl
  | cons c text ih =>
      have others := ih inert.of_cons (fun member => carriage (List.mem_cons_of_mem _ member))
        fun opens last => brace opens (by rw [List.getLast?_cons, last]; rfl)
      rw [List.cons_append, read_char, others, map_prepend, List.map_cons, List.singleton_append]
      · rintro rfl
        exact inert.slash List.mem_cons_self
      · rintro rfl
        exact inert.backtick List.mem_cons_self
      · rintro rfl
        exact carriage List.mem_cons_self
      · rintro rfl opens
        cases text with
        | nil => exact brace opens rfl
        | cons d text =>
            obtain rfl := Option.some.inj opens
            exact inert.substitution ⟨[], text, rfl⟩

/-- Characters that belong to an escape are passed over. -/
theorem read_skip (skip : Nat) (text : List Char) : read skip text = read 0 (text.drop skip) := by
  induction text generalizing skip with
  | nil => cases skip <;> rfl
  | cons c rest ih =>
      cases skip with
      | zero => rfl
      | succ skip => rw [read, ih, List.drop_succ_cons]

/-- A character spelled behind a backslash stands for itself. -/
theorem read_spelled {c : Char} {spelled : List Char}
    (spells : ∀ behind, escape? (spelled ++ behind) = some ([c], spelled.length))
    (rest : List Char) :
    read 0 ('\\' :: (spelled ++ rest)) = (read 0 rest).map (prepend [.char c]) := by
  have own : partsAt? '\\' (spelled ++ rest) = some ([.char c], spelled.length) := by
    rw [partsAt?, if_pos rfl, spells]
    rfl
  rw [read, if_neg (by decide), own]
  rw [Option.bind_eq_bind, Option.bind_some]
  dsimp only
  rw [read_skip, List.drop_left]
  cases read 0 rest <;> rfl

/-- A substitution of an identifier. -/
theorem read_substitution {name : String}
    (identifier : ∀ c ∈ name.toList, isIdentifierChar c = true) (rest : List Char) :
    read 0 ('$' :: '{' :: (name.toList ++ '}' :: rest)) =
      (read 0 rest).map (prepend [.substitution name]) := by
  have taken : (name.toList ++ '}' :: rest).takeWhile isIdentifierChar = name.toList := by
    have brace : ¬isIdentifierChar '}' = true := by decide +kernel
    rw [List.takeWhile_append_of_pos identifier, List.takeWhile_cons_of_neg brace,
      List.append_nil]
  have own : partsAt? '$' ('{' :: (name.toList ++ '}' :: rest)) =
      some ([.substitution name], name.toList.length + 2) := by
    rw [partsAt?, if_neg (by decide), if_pos ⟨rfl, rfl⟩, List.tail_cons]
    simp only [taken]
    rw [List.drop_succ_cons, List.drop_left, String.ofList_toList]
    exact if_pos rfl
  have behind : ('{' :: (name.toList ++ '}' :: rest)).drop (name.toList.length + 2) = rest := by
    rw [List.drop_succ_cons, ← List.singleton_append, ← List.append_assoc]
    exact List.drop_left' (by simp)
  rw [read, if_neg (by decide), own]
  rw [Option.bind_eq_bind, Option.bind_some]
  dsimp only
  rw [read_skip, behind]
  cases read 0 rest <;> rfl

end TypedClient.Template.Literal
