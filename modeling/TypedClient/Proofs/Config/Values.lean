import TypedClient.Config.Reading
import TypedClient.Proofs.Result

/-! # Values that a configuration accepts

The fields of a configuration are of six kinds. What a kind accepts can be told without reading it
(`Config.ValueKind.isOk_read`).
-/

namespace TypedClient.Config

/-! ## Kinds of values -/

/-- An item that an external fragment can be read from. -/
def DefinesFragment : Setting → Prop
  | .descriptor .. => True
  | .table entries =>
    ∃ node, Setting.entry? entries "node" = some (.definition (.fragment node))
  | _ => False

namespace ValueKind

/-- The value is acceptable. A flag can be a number or a word that means one, in letters of either
case. Fragments are listed; a text or a table without items stands for an empty list. -/
def Accepts : ValueKind → Setting → Prop
  | flag, .flag _ => True
  | flag, .integer value => value = 0 ∨ value = 1
  | flag, .decimal value => value.toInt? = some 0 ∨ value.toInt? = some 1
  | flag, .text word => String.ofList (word.toList.map Char.toLower) ∈ flagWords.map (·.1)
  | fragments, .null => True
  | fragments, .list items => ∀ item ∈ items, DefinesFragment item
  | fragments, .text value => value = ""
  | fragments, .table entries => entries = []
  | text, .text _ => True
  | convention, .text name => ∃ convention : NamingConvention, convention.text = name
  | optionalText, .null => True
  | optionalText, .text _ => True
  | policy, .text name => ∃ policy : MutationPolicy, policy.text = name
  | _, _ => False

end ValueKind

/-! ## Readers -/

/-- Of the whole numbers only zero and one mean a flag. -/
theorem isOk_flagOfWhole {inRange : Bool} {value : Int} :
    (flagOfWhole inRange value).isOk = true ↔ value = 0 ∨ value = 1 := by
  unfold flagOfWhole
  by_cases zero : value = 0
  · rw [if_pos zero]
    exact iff_of_true rfl (.inl zero)
  · by_cases one : value = 1
    · rw [if_neg zero, if_pos one]
      exact iff_of_true rfl (.inr one)
    · rw [if_neg zero, if_neg one]
      cases inRange <;> exact iff_of_false Bool.false_ne_true (not_or.2 ⟨zero, one⟩)

/-- A flag can be read from what means one. -/
theorem isOk_readFlag {value : Setting} :
    (readFlag value).isOk = true ↔ ValueKind.flag.Accepts value := by
  cases value with
  | flag value => exact iff_of_true rfl trivial
  | integer value => exact isOk_flagOfWhole
  | decimal value =>
      unfold readFlag ValueKind.Accepts
      dsimp only
      split
      · next whole same => rw [same, Option.some.injEq, Option.some.injEq, isOk_flagOfWhole]
      · next absent =>
          rw [absent]
          exact iff_of_false Bool.false_ne_true (not_or.2 ⟨nofun, nofun⟩)
  | text word =>
      unfold readFlag ValueKind.Accepts
      dsimp only
      rw [List.mem_map]
      split
      · next found =>
          obtain ⟨before, after, split, -⟩ := List.lookup_eq_some_iff.1 found
          have known : (_, _) ∈ flagWords := split ▸ List.mem_append_right _ List.mem_cons_self
          exact iff_of_true rfl ⟨_, known, rfl⟩
      · next unknown =>
          refine iff_of_false Bool.false_ne_true fun ⟨entry, known, same⟩ => ?_
          exact absurd same.symm (bne_iff_ne.1 (List.lookup_eq_none_iff.1 unknown entry known))
  | _ => exact iff_of_false Bool.false_ne_true id

/-- A text can be read from a text. -/
theorem isOk_readText {value : Setting} :
    (readText value).isOk = true ↔ ValueKind.text.Accepts value := by
  cases value with
  | text content => exact iff_of_true rfl trivial
  | _ => exact iff_of_false Bool.false_ne_true id

/-- An optional text can be read from a text or from nothing. -/
theorem isOk_readOptionalText {value : Setting} :
    (readOptionalText value).isOk = true ↔ ValueKind.optionalText.Accepts value := by
  cases value with
  | null => exact iff_of_true rfl trivial
  | text content => exact iff_of_true rfl trivial
  | _ => exact iff_of_false Bool.false_ne_true id

/-- A naming convention can be read from its name. -/
theorem isOk_readConvention {value : Setting} :
    (readConvention value).isOk = true ↔ ValueKind.convention.Accepts value := by
  unfold readConvention
  split
  · exact iff_of_true rfl ⟨.pascalCase, rfl⟩
  · exact iff_of_true rfl ⟨.keep, rfl⟩
  · next notPascal notKeep =>
      refine iff_of_false Bool.false_ne_true fun accepted => ?_
      cases value with
      | text name =>
          obtain ⟨convention, rfl⟩ := accepted
          cases convention with
          | pascalCase => exact notPascal rfl
          | keep => exact notKeep rfl
      | _ => exact accepted

/-- A policy is found under its name. -/
theorem ofText?_text (policy : MutationPolicy) :
    MutationPolicy.ofText? policy.text = some policy := by
  cases policy <;> decide

/-- A policy can be read from its name. -/
theorem isOk_readPolicy {value : Setting} :
    (readPolicy value).isOk = true ↔ ValueKind.policy.Accepts value := by
  cases value with
  | text name =>
      unfold readPolicy
      dsimp only
      split
      · next policy found =>
          have matched := List.find?_some found
          exact iff_of_true rfl ⟨policy, beq_iff_eq.1 matched⟩
      · next unknown =>
          refine iff_of_false Bool.false_ne_true fun ⟨policy, same⟩ => ?_
          rw [← same, ofText?_text] at unknown
          cases unknown
  | _ => exact iff_of_false Bool.false_ne_true id

/-- An external fragment can be read from a descriptor, and from a table with a definition. -/
theorem isOk_readFragment {item : Setting} :
    (readFragment item).isOk = true ↔ DefinesFragment item := by
  cases item with
  | descriptor node name onType isExternal => exact iff_of_true rfl trivial
  | table entries =>
      unfold readFragment DefinesFragment
      dsimp only
      split
      · next node found => exact iff_of_true rfl ⟨node, found⟩
      · next other =>
          exact iff_of_false Bool.false_ne_true fun ⟨node, found⟩ => other node found
  | _ => exact iff_of_false Bool.false_ne_true id

/-- Texts define no fragments, so neither the characters of a text nor the keys of a table do. -/
theorem forall_definesFragment_text {α : Type} {parts : List α} {text : α → String} :
    (∀ item ∈ parts.map fun part => Setting.text (text part), DefinesFragment item) ↔
      parts = [] := by
  constructor
  · intro all
    rw [List.eq_nil_iff_forall_not_mem]
    exact fun part member => all _ (List.mem_map_of_mem member)
  · rintro rfl _ member
    cases member

/-- External fragments can be read from items that each define one. -/
theorem isOk_readFragments {value : Setting} (listed : (itemsOf? value).isSome = true) :
    (readFragments value).isOk = true ↔ ValueKind.fragments.Accepts value := by
  unfold readFragments
  simp only [isOk_mapM, isOk_readFragment]
  cases value with
  | null => exact iff_of_true (fun _ member => by cases member) trivial
  | list items => exact Iff.rfl
  | text value =>
      exact forall_definesFragment_text.trans String.toList_eq_nil_iff
  | table entries => exact forall_definesFragment_text
  | _ => cases listed

/-- A value can be read exactly if it is acceptable. -/
theorem ValueKind.isOk_read {kind : ValueKind} {value : Setting}
    (listed : kind = fragments → (itemsOf? value).isSome = true) :
    (kind.read value).isOk = true ↔ kind.Accepts value := by
  cases kind with
  | flag => exact isOk_readFlag
  | fragments => exact isOk_readFragments (listed rfl)
  | text => exact isOk_readText
  | convention => exact isOk_readConvention
  | optionalText => exact isOk_readOptionalText
  | policy => exact isOk_readPolicy

end TypedClient.Config
