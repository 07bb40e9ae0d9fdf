import TypedClient.Config.Reading
import TypedClient.Proofs.Result

/-! # What an accepted configuration is read from

A configuration is accepted exactly if each of its fields is read from the entries, by itself
(`Config.check_eq_accepted_iff`). So each external fragment of an accepted configuration stands for
one item of the entries, and goes by the name of its definition unless that item says otherwise
(`Config.ReadsAs.text_or_named`).
-/

namespace TypedClient.Config

/-! ## Accepted outcomes -/

namespace Checked

variable {α : Type}

/-- If the outcome is accepted, its value has the property. -/
def Gives (checked : Checked α) (property : α → Prop) : Prop :=
  ∀ value, checked = .accepted value → property value

/-- An accepted field is handed on with the value that was read. -/
theorem Gives.apply {f : Field} {entries : List (String × Setting)}
    {first : Checked (f.kind.Value → α)} {property : α → Prop}
    (given : first.Gives fun make =>
      ∀ value, f.outcome entries = .ok value → property (make value)) :
    (first.apply f entries).Gives property := by
  intro result accepted
  unfold Checked.apply at accepted
  cases first with
  | refused problems => dsimp only at accepted; split at accepted <;> cases accepted
  | accepted make =>
      dsimp only at accepted
      split at accepted
      · next value read =>
          cases accepted
          exact given make rfl value read
      · cases accepted

theorem apply_accepted {f : Field} {entries : List (String × Setting)} {value : f.kind.Value}
    (read : f.outcome entries = .ok value) (make : f.kind.Value → α) :
    (accepted make).apply f entries = accepted (make value) := by
  unfold Checked.apply
  dsimp only
  rw [read]

end Checked

variable {entries : List (String × Setting)} {config : Config}

/-- Every field of the configuration is read from the entries. -/
def ReadsAs (entries : List (String × Setting)) (config : Config) : Prop :=
  ∀ f : Field, f.outcome entries = .ok (f.get config)

/-- Fields are accepted together exactly if each is. -/
theorem check_eq_accepted_iff : check entries = .accepted config ↔ ReadsAs entries config := by
  constructor
  · suffices all : (check entries).Gives (ReadsAs entries) from all config
    unfold check
    -- What is left is the constructor in front of all fields, and what each field has read.
    iterate 14 refine Checked.Gives.apply ?_
    rintro _ ⟨⟩ _ own₁ _ own₂ _ own₃ _ own₄ _ own₅ _ own₆ _ own₇ _ own₈ _ own₉ _ own₁₀ _ own₁₁ _
      own₁₂ _ own₁₃ _ own₁₄ f
    cases f <;> assumption
  · intro reads
    unfold check
    iterate 14 rw [Checked.apply_accepted (reads _)]
    rfl

/-- A table is read as its entries. -/
theorem ofSetting_table (entries : List (String × Setting)) :
    ofSetting (.table entries) = ofEntries entries := by
  cases entries <;> rfl

/-- An accepted configuration is read from its entries. -/
theorem readsAs_of_ofEntries (accepted : ofEntries entries = .ok config) :
    ReadsAs entries config := by
  unfold ofEntries at accepted
  split at accepted
  · cases accepted
  · split at accepted
    · next read =>
        cases accepted
        exact check_eq_accepted_iff.1 read
    · cases accepted

/-! ## External fragments -/

/-- The items that the entries give for the external fragments. -/
def fragmentItems (entries : List (String × Setting)) : List Setting :=
  match Field.externalFragments.given entries with
  | some (_, value) => (itemsOf? value).getD []
  | none => []

/-- The item says that its fragment goes by this value. -/
def NamesFragment (item name : Setting) : Prop :=
  match item with
  | .descriptor _ own _ _ => own = name
  | .table entries => Setting.entry? entries "name" = some name ∧ name.isTruthy = true
  | _ => False

/-- Without such a word a fragment goes by the name of its definition. -/
theorem text_or_named_of_readFragment {item : Setting} {descriptor : FragmentDescriptor}
    (read : readFragment item = .ok descriptor) :
    descriptor.name = .text descriptor.node.name ∨ NamesFragment item descriptor.name := by
  unfold readFragment at read
  split at read
  · cases read
    exact .inr rfl
  · next entries =>
      dsimp only at read
      split at read
      · cases read
        cases given : Setting.entry? entries "name" with
        | none => exact .inl rfl
        | some name =>
            by_cases counts : name.isTruthy = true
            · right
              simp [NamesFragment, firstTruthy, given, counts]
            · left
              simp [firstTruthy, counts]
      · cases read
  · cases read

namespace ReadsAs

variable (reads : ReadsAs entries config)

include reads

/-- Each item is read as an external fragment. -/
theorem mapM_fragmentItems :
    (fragmentItems entries).mapM readFragment = .ok config.externalFragments := by
  have own := reads .externalFragments
  unfold Field.outcome at own
  unfold fragmentItems
  cases given : Field.externalFragments.given entries with
  | none =>
      rw [given] at own
      dsimp only
      rw [List.mapM_nil]
      exact congrArg Except.ok (Except.ok.inj own)
  | some entry =>
      rw [given] at own
      dsimp only at own ⊢
      exact mapError_eq_ok.1 own

/-- An external fragment goes by the name of its definition, or by what its item says. -/
theorem text_or_named {descriptor : FragmentDescriptor}
    (member : descriptor ∈ config.externalFragments) :
    descriptor.name = .text descriptor.node.name ∨
      ∃ item ∈ fragmentItems entries, NamesFragment item descriptor.name := by
  obtain ⟨item, inside, read⟩ := exists_item_of_mapM reads.mapM_fragmentItems member
  exact (text_or_named_of_readFragment read).imp_right fun named => ⟨item, inside, named⟩

end ReadsAs

end TypedClient.Config
