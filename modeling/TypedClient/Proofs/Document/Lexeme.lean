import TypedClient.Document.Lexer
import TypedClient.Proofs.Document.Words
import TypedClient.Proofs.Result

/-! # Lexemes

A lexeme that is no string ends at the latest where a quote or a line feed stands, and what stands
there or behind does not matter for it (`lexeme_within`). Names consist of the characters of names
and numbers of those of numbers (`lexeme_spelled`).
-/

namespace TypedClient.Document

/-- The text ends, or goes on with a quote or a line feed. -/
def IsBounded (text : List Char) : Prop :=
  ∀ c ∈ text.head?, c = '"' ∨ c = '\n'

/-- Characters other than quotes and line feeds are taken up to the bound at most. -/
theorem takeWhile_bounded {holds : Char → Bool} (quote : holds '"' = false)
    (feed : holds '\n' = false) {after : List Char} (bounded : IsBounded after)
    (text : List Char) : (text ++ after).takeWhile holds = text.takeWhile holds := by
  have stops : after.takeWhile holds = [] := by
    cases after with
    | nil => rfl
    | cons c after =>
        rcases bounded c rfl with rfl | rfl
        · rw [List.takeWhile_cons_of_neg (by rw [quote]; exact Bool.false_ne_true)]
        · rw [List.takeWhile_cons_of_neg (by rw [feed]; exact Bool.false_ne_true)]
  rw [List.takeWhile_append, stops, List.append_nil]
  split
  · next whole =>
    exact ((List.takeWhile_prefix holds).eq_of_length whole).symm
  · rfl

/-- The bound does not look like a character of another kind. -/
theorem any_head_bounded {holds : Char → Bool} (quote : holds '"' = false)
    (feed : holds '\n' = false) {after : List Char} (bounded : IsBounded after)
    (text : List Char) : (text ++ after).head?.any holds = text.head?.any holds := by
  cases text with
  | cons c text => rfl
  | nil =>
      cases after with
      | nil => rfl
      | cons c after =>
          rcases bounded c rfl with rfl | rfl
          · exact quote
          · exact feed

namespace Lexer

/-- The characters of numbers. -/
def isNumberChar (c : Char) : Bool :=
  c.isDigit || c = '-' || c = '+' || c = '.' || c = 'e' || c = 'E'

/-- A part of a number is found within a text, whatever stands behind the text. -/
structure FoundWithin (part : List Char → Except SyntaxFault (List Char)) (text found : List Char) :
    Prop where
  length_le : found.length ≤ text.length
  chars : ∀ c ∈ found, isNumberChar c = true
  found : ∀ after, IsBounded after → part (text ++ after) = .ok found

variable {text after found : List Char}

/-- Digits are found within the text in front of the bound. -/
theorem digits_within (bounded : IsBounded after) (read : digits (text ++ after) = .ok found) :
    FoundWithin digits text found := by
  have taken (other : List Char) (bounded : IsBounded other) :
      (text ++ other).takeWhile Char.isDigit = text.takeWhile Char.isDigit :=
    takeWhile_bounded rfl rfl bounded text
  have same : text.takeWhile Char.isDigit = found ∧ found ≠ [] := by
    rw [digits, taken after bounded] at read
    split at read
    · cases read
    · next other => cases read; exact ⟨rfl, other⟩
  obtain ⟨rfl, nonempty⟩ := same
  refine ⟨(List.takeWhile_prefix _).length_le, fun c member => ?_, fun other bounded => ?_⟩
  · have digit := List.all_eq_true.1 List.all_takeWhile c member
    simp [isNumberChar, digit]
  · rw [digits, taken other bounded]
    split
    · next empty => exact absurd empty nonempty
    · rfl

/-- There are no digits at a bound. -/
theorem digits_bounded (bounded : IsBounded after) : digits after ≠ .ok found := by
  have nothing : after.takeWhile Char.isDigit = [] := takeWhile_bounded rfl rfl bounded []
  rw [digits, nothing]
  exact fun same => by cases same

/-- Marks of a number and the digits behind them. -/
theorem FoundWithin.prepend {part : List Char → Except SyntaxFault (List Char)}
    (marks : List Char) {rest : List Char} (areMarks : ∀ c ∈ marks, isNumberChar c = true)
    (step : ∀ other, IsBounded other →
      part (marks ++ (rest ++ other)) = (digits (rest ++ other)).map (marks ++ ·))
    (bounded : IsBounded after) (read : part (marks ++ (rest ++ after)) = .ok found) :
    FoundWithin part (marks ++ rest) found := by
  rw [step after bounded] at read
  cases more : digits (rest ++ after) with
  | error fault => rw [more] at read; cases read
  | ok value =>
      rw [more] at read
      cases read
      have within := digits_within bounded more
      refine ⟨?_, fun c member => ?_, fun other bounded => ?_⟩
      · rw [List.length_append, List.length_append]
        exact Nat.add_le_add_left within.length_le _
      · exact (List.mem_append.1 member).elim (areMarks c) (within.chars c)
      · rw [List.append_assoc, step other bounded, within.found other bounded]
        rfl

/-- A part that is empty whatever stands behind the text. -/
theorem FoundWithin.empty {part : List Char → Except SyntaxFault (List Char)} {text : List Char}
    (empty : ∀ other, IsBounded other → part (text ++ other) = .ok []) :
    FoundWithin part text [] :=
  ⟨Nat.zero_le _, fun _ member => absurd member List.not_mem_nil, empty⟩

theorem wholeDigits_of_ne {c : Char} (nonzero : c ≠ '0') (rest : List Char) :
    wholeDigits (c :: rest) = digits (c :: rest) := by
  rw [wholeDigits]
  intro next more same
  exact nonzero (List.cons.inj same).1

/-- A zero at the end of a text is the whole number. -/
theorem wholeDigits_zero (bounded : IsBounded after) : wholeDigits ('0' :: after) = .ok ['0'] := by
  cases after with
  | nil => rfl
  | cons c after =>
      rcases bounded c rfl with rfl | rfl <;> rfl

/-- The whole part of a number is found within the text in front of the bound. -/
theorem wholeDigits_within (bounded : IsBounded after)
    (read : wholeDigits (text ++ after) = .ok found) : FoundWithin wholeDigits text found := by
  cases text with
  | nil =>
      have same : wholeDigits after = digits after := by
        cases after with
        | nil => rfl
        | cons c after => rcases bounded c rfl with rfl | rfl <;> rfl
      rw [List.nil_append, same] at read
      exact absurd read (digits_bounded bounded)
  | cons c rest =>
      by_cases zero : c = '0'
      · subst zero
        cases rest with
        | nil =>
            rw [List.singleton_append, wholeDigits_zero bounded] at read
            cases read
            exact ⟨Nat.le_refl _, by decide, fun other bounded => wholeDigits_zero bounded⟩
        | cons next rest =>
            rw [List.cons_append, List.cons_append, wholeDigits] at read
            split at read
            · cases read
            next noDigit =>
            cases read
            refine ⟨by simp, by decide, fun other bounded => ?_⟩
            rw [List.cons_append, List.cons_append, wholeDigits, if_neg noDigit]
      · rw [List.cons_append, wholeDigits_of_ne zero, ← List.cons_append] at read
        have within := digits_within bounded read
        refine ⟨within.length_le, within.chars, fun other bounded => ?_⟩
        rw [List.cons_append, wholeDigits_of_ne zero]
        exact within.found other bounded

/-- The fraction of a number is found within the text in front of the bound. -/
theorem fractionPart_within (bounded : IsBounded after)
    (read : fractionPart (text ++ after) = .ok found) : FoundWithin fractionPart text found := by
  cases text with
  | nil =>
      have empty (other : List Char) (bounded : IsBounded other) : fractionPart other = .ok [] := by
        cases other with
        | nil => rfl
        | cons c other => rcases bounded c rfl with rfl | rfl <;> rfl
      rw [List.nil_append, empty after bounded] at read
      cases read
      exact .empty empty
  | cons c rest =>
      by_cases point : c = '.'
      · subst point
        exact .prepend ['.'] (by decide) (fun _ _ => rfl) bounded read
      · have empty (other : List Char) : fractionPart (c :: other) = .ok [] := by
          rw [fractionPart]
          · rfl
          · exact fun _ same => point (List.cons.inj same).1
        rw [List.cons_append, empty] at read
        cases read
        exact .empty fun other _ => empty _

/-- Behind the letter of an exponent there can be a sign. -/
theorem exponentPart_mark {e : Char} (mark : e = 'e' ∨ e = 'E') (next : Char) (rest : List Char) :
    exponentPart (e :: next :: rest) =
      if next = '+' ∨ next = '-' then (digits rest).map ([e, next] ++ ·)
      else (digits (next :: rest)).map ([e] ++ ·) := by
  unfold exponentPart
  refine (if_pos mark).trans ?_
  simp only []
  split <;> rfl

/-- The exponent of a number is found within the text in front of the bound. -/
theorem exponentPart_within (bounded : IsBounded after)
    (read : exponentPart (text ++ after) = .ok found) : FoundWithin exponentPart text found := by
  cases text with
  | nil =>
      have empty (other : List Char) (bounded : IsBounded other) : exponentPart other = .ok [] := by
        cases other with
        | nil => rfl
        | cons c other => rcases bounded c rfl with rfl | rfl <;> rfl
      rw [List.nil_append, empty after bounded] at read
      cases read
      exact .empty empty
  | cons e rest =>
      by_cases mark : e = 'e' ∨ e = 'E'
      · have isMark : isNumberChar e = true := by
          rcases mark with rfl | rfl <;> rfl
        cases rest with
        | nil =>
            cases after with
            | nil =>
                have alone : exponentPart [e] = .error (.digitWanted none) := by
                  unfold exponentPart
                  exact if_pos mark
                rw [List.append_nil, alone] at read
                cases read
            | cons c after =>
                have unsigned : ¬(c = '+' ∨ c = '-') := by
                  rcases bounded c rfl with rfl | rfl <;> decide
                rw [List.singleton_append, exponentPart_mark mark, if_neg unsigned] at read
                cases more : digits (c :: after) with
                | error fault => rw [more] at read; cases read
                | ok value => exact absurd more (digits_bounded bounded)
        | cons sign rest =>
            by_cases signed : sign = '+' ∨ sign = '-'
            · have isSign : isNumberChar sign = true := by
                rcases signed with rfl | rfl <;> rfl
              refine .prepend [e, sign] (List.forall_mem_cons.2
                ⟨isMark, List.forall_mem_singleton.2 isSign⟩) (fun other _ => ?_) bounded read
              exact (exponentPart_mark mark _ _).trans (if_pos signed)
            · refine .prepend [e] (List.forall_mem_singleton.2 isMark)
                (fun other _ => ?_) bounded read
              exact (exponentPart_mark mark _ _).trans (if_neg signed)
      · have empty (other : List Char) : exponentPart (e :: other) = .ok [] := by
          unfold exponentPart
          exact if_neg mark
        rw [List.cons_append, empty] at read
        cases read
        exact .empty fun other _ => empty _

/-- A number token of number characters. -/
def IsNumber (token : Token) : Prop :=
  ∃ digits, (∀ c ∈ digits, isNumberChar c = true) ∧
    (token = .int (String.ofList digits) ∨ token = .float (String.ofList digits))

/-- What is left of a text behind what was found in it. -/
theorem drop_append_of_within {part : List Char → Except SyntaxFault (List Char)}
    (within : FoundWithin part text found) (after : List Char) :
    (text ++ after).drop found.length = text.drop found.length ++ after :=
  List.drop_append_of_le_length within.length_le

/-- A number is found within the text in front of a bound, whatever the bound is. -/
theorem number_within {token : Token} {count : Nat} (bounded : IsBounded after)
    (read : number (text ++ after) = .ok (token, count)) :
    count ≤ text.length ∧ IsNumber token ∧
      ∀ other, IsBounded other → number (text ++ other) = .ok (token, count) := by
  have signed (other : List Char) (bounded : IsBounded other) :
      (text ++ other).takeWhile (· = '-') = text.takeWhile (· = '-') :=
    takeWhile_bounded rfl rfl bounded text
  have signLength : ((text.takeWhile (· = '-')).take 1).length ≤ text.length := by
    rw [List.length_take]
    exact Nat.le_trans (Nat.min_le_right _ _) (List.takeWhile_prefix _).length_le
  have signChars : ∀ c ∈ (text.takeWhile (· = '-')).take 1, isNumberChar c = true := by
    intro c member
    have same := List.all_eq_true.1 List.all_takeWhile c (List.mem_of_mem_take member)
    rw [of_decide_eq_true same]
    rfl
  have stops (rest other : List Char) (bounded : IsBounded other) :
      ((rest ++ other).head?.any fun c => c = '.' || isNameStart c) =
        rest.head?.any fun c => c = '.' || isNameStart c :=
    any_head_bounded (by decide) (by decide) bounded rest
  unfold number at read ⊢
  simp only [signed after bounded] at read
  generalize signEq : (text.takeWhile (· = '-')).take 1 = sign at read signLength signChars
  simp only [bind_eq_ok, List.drop_append_of_le_length signLength] at read
  obtain ⟨whole, wholeFound, fraction, fractionFound, exponent, exponentFound, read⟩ := read
  have wholeWithin := wholeDigits_within bounded wholeFound
  rw [drop_append_of_within wholeWithin] at fractionFound exponentFound read
  have fractionWithin := fractionPart_within bounded fractionFound
  rw [drop_append_of_within fractionWithin] at exponentFound read
  have exponentWithin := exponentPart_within bounded exponentFound
  rw [drop_append_of_within exponentWithin, stops _ _ bounded] at read
  split at read
  · cases read
  next noStop =>
  cases read
  refine ⟨?_, ⟨sign ++ whole ++ fraction ++ exponent, ?_, ?_⟩, fun other bounded => ?_⟩
  · have lengths := And.intro wholeWithin.length_le
      (And.intro fractionWithin.length_le exponentWithin.length_le)
    simp only [List.length_drop] at lengths
    simp only [List.length_append]
    omega
  · simp only [List.mem_append]
    rintro c (((member | member) | member) | member)
    · exact signChars c member
    · exact wholeWithin.chars c member
    · exact fractionWithin.chars c member
    · exact exponentWithin.chars c member
  · split
    · exact .inl rfl
    · exact .inr rfl
  · simp only [signed other bounded, signEq, List.drop_append_of_le_length signLength, bind_eq_ok]
    refine ⟨whole, wholeWithin.found other bounded, fraction, ?_, exponent, ?_, ?_⟩
    · rw [drop_append_of_within wholeWithin]
      exact fractionWithin.found other bounded
    · rw [drop_append_of_within wholeWithin, drop_append_of_within fractionWithin]
      exact exponentWithin.found other bounded
    · rw [drop_append_of_within wholeWithin, drop_append_of_within fractionWithin,
        drop_append_of_within exponentWithin, stops _ _ bounded, if_neg noStop]
      rfl

/-- Two points in a row are found within a text or not at all. -/
theorem points_bounded (bounded : IsBounded after) (text : List Char) :
    ['.', '.'].isPrefixOf (text ++ after) = ['.', '.'].isPrefixOf text := by
  match text with
  | [] =>
      cases after with
      | nil => rfl
      | cons c after => rcases bounded c rfl with rfl | rfl <;> rfl
  | [c] =>
      rw [List.singleton_append, List.isPrefixOf_cons_cons, List.isPrefixOf_cons_cons]
      congr 1
      cases after with
      | nil => rfl
      | cons d after => rcases bounded d rfl with rfl | rfl <;> rfl
  | c :: d :: text => rfl

end Lexer

/-! ## Lexemes -/

/-- The text is a name. -/
def IsName (text : String) : Prop :=
  ∃ first rest, text.toList = first :: rest ∧ Lexer.isNameStart first = true ∧
    ∀ c ∈ rest, Lexer.isNameChar c = true

/-- What a name can begin with it can go on with. -/
theorem isNameChar_of_isNameStart {c : Char} (start : Lexer.isNameStart c = true) :
    Lexer.isNameChar c = true := by
  simp only [Lexer.isNameStart, Bool.or_eq_true] at start
  simp only [Lexer.isNameChar, Char.isAlphanum, Bool.or_eq_true]
  exact start.imp .inl id

theorem isNameChar_of_isName {name : String} (isName : IsName name) :
    ∀ c ∈ name.toList, Lexer.isNameChar c = true := by
  obtain ⟨first, rest, split, start, others⟩ := isName
  rw [split]
  exact List.forall_mem_cons.2 ⟨isNameChar_of_isNameStart start, others⟩

/-- Whether a text is a name can be read off its characters. -/
theorem isName_iff {text : String} :
    IsName text ↔ text.toList.head?.any Lexer.isNameStart = true ∧
      text.toList.all Lexer.isNameChar = true := by
  constructor
  · intro isName
    have all := List.all_eq_true.2 (isNameChar_of_isName isName)
    obtain ⟨first, rest, split, start, _⟩ := isName
    exact ⟨by rw [split]; exact start, all⟩
  · intro ⟨start, all⟩
    cases split : text.toList with
    | nil =>
        rw [split] at start
        cases start
    | cons first rest =>
        rw [split] at start all
        refine ⟨first, rest, split, start, ?_⟩
        exact fun c member => List.all_eq_true.1 all c (List.mem_cons_of_mem first member)

instance (text : String) : Decidable (IsName text) :=
  decidable_of_iff _ isName_iff.symm

/-- The token consists of the characters that the scan finds in its kind. -/
def Token.IsLexical : Token → Prop
  | .name text => IsName text
  | .int digits => ∀ c ∈ digits.toList, Lexer.isNumberChar c = true
  | .float digits => ∀ c ∈ digits.toList, Lexer.isNumberChar c = true
  | .endOfDocument => False
  | _ => True

namespace Lexer

/-- A number has the characters of its kind. -/
theorem IsNumber.isLexical {token : Token} (number : IsNumber token) : token.IsLexical := by
  obtain ⟨digits, chars, rfl | rfl⟩ := number
  · simpa [Token.IsLexical] using chars
  · simpa [Token.IsLexical] using chars

theorem IsNumber.literal? {token : Token} (number : IsNumber token) : token.literal? = none := by
  obtain ⟨digits, chars, rfl | rfl⟩ := number <;> rfl

/-- A string is a token whatever its characters are. -/
theorem string_spelled {text : List Char} {token : Token} {count : Nat}
    (read : string text = .ok (token, count)) : token.IsLexical := by
  unfold string at read
  split at read
  · split at read
    · cases read
    · cases read; trivial
  · obtain ⟨_, _, same⟩ := bind_eq_ok.1 read
    cases same
    trivial

/-- What the scan finds has the characters of its kind. -/
theorem lexeme_spelled {c : Char} {rest : List Char} {token : Token} {count : Nat}
    (read : lexeme c rest = .ok (token, count)) : token.IsLexical := by
  unfold lexeme at read
  split at read
  · cases read; trivial
  split at read
  · next start =>
    cases read
    exact ⟨c, _, String.toList_ofList, start,
      fun d member => List.all_eq_true.1 List.all_takeWhile d member⟩
  split at read
  · obtain ⟨⟨_, _⟩, found, same⟩ := bind_eq_ok.1 read
    cases same
    rw [← List.append_nil (c :: rest)] at found
    exact (number_within (fun _ member => by cases member) found).2.1.isLexical
  split at read
  · exact string_spelled read
  split at read
  · cases read; trivial
  · cases read

/-- A lexeme that is no string is found within a text that something bounds. -/
theorem lexeme_within {c : Char} (noQuote : c ≠ '"') {text after : List Char} {token : Token}
    {count : Nat} (bounded : IsBounded after)
    (read : lexeme c (text ++ after) = .ok (token, count)) :
    count ≤ text.length ∧ token.literal? = none ∧
      ∀ other, IsBounded other → lexeme c (text ++ other) = .ok (token, count) := by
  have named (other : List Char) (bounded : IsBounded other) :
      (text ++ other).takeWhile isNameChar = text.takeWhile isNameChar :=
    takeWhile_bounded (by decide) (by decide) bounded text
  unfold lexeme at read ⊢
  split at read
  · cases read
    exact ⟨Nat.zero_le _, rfl, fun _ _ => rfl⟩
  split at read
  · next start =>
    simp only [named after bounded] at read
    cases read
    refine ⟨(List.takeWhile_prefix _).length_le, rfl, fun other bounded => ?_⟩
    simp only [start, if_true, named other bounded]
  split at read
  · next noStart digit =>
    obtain ⟨⟨_, _⟩, found, same⟩ := bind_eq_ok.1 read
    cases same
    rw [← List.cons_append] at found
    obtain ⟨enough, isNumber, again⟩ := number_within bounded found
    refine ⟨?_, isNumber.literal?, fun other bounded => ?_⟩
    · rw [List.length_cons] at enough
      omega
    · rw [if_neg noStart, if_pos digit, bind_eq_ok]
      exact ⟨_, again other bounded, rfl⟩
  split at read
  · next noStart noDigit points =>
    cases read
    rw [points_bounded bounded] at points
    refine ⟨(List.isPrefixOf_iff_prefix.1 points.2).length_le, rfl, fun other bounded => ?_⟩
    rw [if_neg noStart, if_neg noDigit, if_neg noQuote, points_bounded bounded, if_pos points]
  · cases read

end Lexer

end TypedClient.Document
