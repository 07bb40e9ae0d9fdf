import TypedClient.Proofs.Document.Single

/-! # Scanning piece by piece

What stands in front of a quote or a line feed is scanned by itself (`scan_front`): no lexeme
reaches beyond. So a text is scanned from one string or line to the next.
-/

namespace TypedClient.Document.Lexer

/-- The characters are no quotes, line feeds or number signs. -/
def IsQuiet (front : List Char) : Prop :=
  ∀ c ∈ front, c ≠ '"' ∧ c ≠ '\n' ∧ c ≠ '#'

/-- Quiet texts can stand one behind the other. -/
theorem IsQuiet.append {first second : List Char} (front : IsQuiet first) (back : IsQuiet second) :
    IsQuiet (first ++ second) :=
  fun c member => (List.mem_append.1 member).elim (front c) (back c)

/-- Blanks are quiet. -/
theorem isQuiet_blanks {blanks : List Char} (blank : ∀ c ∈ blanks, c = ' ') : IsQuiet blanks := by
  intro c member
  rw [blank c member]
  decide

/-- Characters that belong to the token before are passed over. -/
theorem scan_skip (skip : Nat) (text : List Char) : scan skip text = scan 0 (text.drop skip) := by
  induction text generalizing skip with
  | nil => cases skip <;> rfl
  | cons c rest ih =>
      cases skip with
      | zero => rfl
      | succ skip => rw [scan, ih, List.drop_succ_cons]

theorem scan_separator {c : Char} (separator : isSeparator c = true) (rest : List Char) :
    scan 0 (c :: rest) = scan 0 rest := by
  rw [scan, if_pos separator]

/-- Blanks are passed over. -/
theorem scan_blanks {blanks : List Char} (blank : ∀ c ∈ blanks, c = ' ') (rest : List Char) :
    scan 0 (blanks ++ rest) = scan 0 rest := by
  induction blanks with
  | nil => rfl
  | cons c blanks ih =>
      obtain rfl := blank c List.mem_cons_self
      rw [List.cons_append, scan_separator rfl,
        ih fun d member => blank d (List.mem_cons_of_mem _ member)]

/-- **Pieces.** If the scan of a text goes through, the part in front of a quote or a line feed has
tokens of its own, none of them a string, whatever comes behind. -/
theorem scan_front {front after : List Char} (quiet : IsQuiet front) (bounded : IsBounded after)
    (whole : (scan 0 (front ++ after)).strings?.isSome = true) :
    ∃ taken, literals taken = [] ∧ ∀ other, IsBounded other →
      scan 0 (front ++ other) = .behind taken (scan 0 other) := by
  induction length : front.length using Nat.strongRecOn generalizing front with
  | ind size ih =>
      subst length
      cases front with
      | nil => exact ⟨[], rfl, fun other _ => rfl⟩
      | cons c front =>
          obtain ⟨quote, _, sign⟩ := quiet c List.mem_cons_self
          have quietRest : IsQuiet front := fun d member => quiet d (List.mem_cons_of_mem _ member)
          rw [List.cons_append] at whole
          by_cases separator : isSeparator c = true
          · rw [scan_separator separator] at whole
            obtain ⟨taken, noString, same⟩ := ih front.length (Nat.lt_succ_self _) quietRest whole
              rfl
            refine ⟨taken, noString, fun other bounded => ?_⟩
            rw [List.cons_append, scan_separator separator, same other bounded]
          · rw [scan, if_neg separator, if_neg sign] at whole
            split at whole
            · cases whole
            next token count found =>
            obtain ⟨enough, noString, again⟩ := lexeme_within quote bounded found
            rw [scan_skip, List.drop_append_of_le_length enough, Tokens.strings?,
              Option.isSome_map] at whole
            obtain ⟨taken, rest, same⟩ := ih (front.drop count).length
              (by rw [List.length_drop, List.length_cons]; omega)
              (fun d member => quietRest d (List.mem_of_mem_drop member)) whole rfl
            refine ⟨token :: taken, ?_, fun other bounded => ?_⟩
            · rw [literals, List.filterMap_cons_none noString]
              exact rest
            · rw [List.cons_append, scan, if_neg separator, if_neg sign, again other bounded]
              change Tokens.cons token (scan count (front ++ other)) = _
              rw [scan_skip, List.drop_append_of_le_length enough, same other bounded]
              rfl

/-- Tokens that are no strings add none to those behind them. -/
theorem strings_behind {taken : List Token} (noString : literals taken = []) (rest : Tokens) :
    (Tokens.behind taken rest).strings? = rest.strings? := by
  induction taken with
  | nil => rfl
  | cons token taken ih =>
      rw [literals, List.filterMap_cons] at noString
      change (Tokens.cons token (.behind taken rest)).strings? = _
      cases own : token.literal? with
      | some literal =>
          rw [own] at noString
          cases noString
      | none =>
          rw [own] at noString
          rw [Tokens.strings?, own, ih noString]
          cases rest.strings? <;> rfl

/-- The strings behind a quiet part. -/
theorem strings_of_front {front after : List Char} {strings : List StringLiteral}
    (quiet : IsQuiet front) (bounded : IsBounded after)
    (whole : (scan 0 (front ++ after)).strings? = some strings) :
    (scan 0 after).strings? = some strings := by
  obtain ⟨taken, noString, same⟩ := scan_front quiet bounded (by rw [whole]; rfl)
  rw [same after bounded, strings_behind noString] at whole
  exact whole

/-- Texts that are scanned alike behind a quiet part are scanned alike with it. -/
theorem scan_congr {front after other : List Char} (quiet : IsQuiet front)
    (bounded : IsBounded after) (otherBounded : IsBounded other)
    (whole : (scan 0 (front ++ after)).strings?.isSome = true)
    (same : (scan 0 after).strings?.isSome = true → scan 0 other = scan 0 after) :
    scan 0 (front ++ other) = scan 0 (front ++ after) := by
  obtain ⟨taken, noString, cut⟩ := scan_front quiet bounded whole
  rw [cut after bounded, strings_behind noString] at whole
  rw [cut other otherBounded, cut after bounded, same whole]

/-- A line feed is a bound. -/
theorem isBounded_feed (rest : List Char) : IsBounded ('\n' :: rest) := by
  intro c first
  cases first
  exact .inr rfl

/-- A quote is a bound. -/
theorem isBounded_quote (rest : List Char) : IsBounded ('"' :: rest) := by
  intro c first
  cases first
  exact .inl rfl

/-! ## Strings -/

theorem lexeme_quote (rest : List Char) : lexeme '"' rest = string rest :=
  rfl

/-- A string is scanned as one token, and what follows is scanned by itself. -/
theorem scan_string {own rest : List Char} {token : Token}
    (found : string (own ++ rest) = .ok (token, own.length)) :
    scan 0 ('"' :: (own ++ rest)) = .cons token (scan 0 rest) := by
  rw [scan, if_neg (by decide), if_neg (by decide), lexeme_quote, found]
  change Tokens.cons token (scan own.length (own ++ rest)) = _
  rw [scan_skip, List.drop_left]

/-- The first string of a text that starts with a quote. -/
theorem strings_quote {rest : List Char} {literal : StringLiteral} {strings : List StringLiteral}
    (whole : (scan 0 ('"' :: rest)).strings? = some (literal :: strings)) :
    ∃ count, string rest = .ok (literal.token, count) ∧
      (scan 0 (rest.drop count)).strings? = some strings := by
  rw [scan, if_neg (by decide), if_neg (by decide), lexeme_quote] at whole
  split at whole
  · cases whole
  next token count found =>
  have isString : ∃ own : StringLiteral, token = own.token := by
    unfold string at found
    split at found
    · split at found
      · cases found
      · cases found
        exact ⟨⟨_, true⟩, rfl⟩
    · obtain ⟨_, _, same⟩ := bind_eq_ok.1 found
      cases same
      exact ⟨⟨_, false⟩, rfl⟩
  obtain ⟨own, rfl⟩ := isString
  rw [Tokens.strings?, own.literal?_token, Option.map_eq_some_iff] at whole
  obtain ⟨others, behind, same⟩ := whole
  cases same
  rw [scan_skip] at behind
  exact ⟨count, found, behind⟩

end TypedClient.Document.Lexer
