import Mathlib.Data.List.Forall2

/-! # Results and faults

When one step after another has a result, and where the fault comes from if it has none. Of several
items the first one with a fault decides (`mapM_eq_error`).
-/

namespace TypedClient

variable {α β ε ε' : Type}

/-- There is a result, or there is a fault. -/
theorem isOk_iff {result : Except ε α} : result.isOk = true ↔ ∃ value, result = .ok value := by
  cases result with
  | error fault => exact iff_of_false Bool.false_ne_true fun ⟨_, same⟩ => by cases same
  | ok value => exact iff_of_true rfl ⟨value, rfl⟩

theorem not_isOk_iff {result : Except ε α} :
    ¬result.isOk = true ↔ ∃ fault, result = .error fault := by
  cases result with
  | error fault => exact iff_of_true Bool.false_ne_true ⟨fault, rfl⟩
  | ok value => exact iff_of_false (fun failed => failed rfl) fun ⟨_, same⟩ => by cases same

/-- A result that is left when faults are dropped. -/
theorem toOption_eq_some {result : Except ε α} {value : α} :
    result.toOption = some value ↔ result = .ok value := by
  cases result with
  | error fault => exact iff_of_false (fun same => by cases same) fun same => by cases same
  | ok found => exact ⟨fun same => congrArg Except.ok (Option.some.inj same), fun same => by
      cases same; rfl⟩

/-! ## Two steps -/

/-- Two steps have a result exactly if the first has one and the second goes on from it. -/
theorem bind_eq_ok {first : Except ε α} {next : α → Except ε β} {value : β} :
    first >>= next = .ok value ↔ ∃ found, first = .ok found ∧ next found = .ok value := by
  cases first with
  | error fault =>
      constructor
      · intro same
        cases same
      · rintro ⟨_, same, _⟩
        cases same
  | ok found =>
      constructor
      · exact fun same => ⟨found, rfl, same⟩
      · rintro ⟨_, same, rest⟩
        cases same
        exact rest

/-- Two steps have the fault of the first, or that of the second if the first has a result. -/
theorem bind_eq_error {first : Except ε α} {next : α → Except ε β} {fault : ε} :
    first >>= next = .error fault ↔
      first = .error fault ∨ ∃ found, first = .ok found ∧ next found = .error fault := by
  cases first with
  | error other => simp [bind, Except.bind]
  | ok found => simp [bind, Except.bind]

/-- What holds of the faults of both steps holds of the faults of the two. -/
theorem forall_error_bind {first : Except ε α} {next : α → Except ε β} {P : ε → Prop}
    (here : ∀ fault, first = .error fault → P fault)
    (others : ∀ value fault, next value = .error fault → P fault) :
    ∀ fault, first >>= next = .error fault → P fault := by
  intro fault failed
  rcases bind_eq_error.1 failed with own | ⟨value, -, later⟩
  · exact here fault own
  · exact others value fault later

/-! ## Changing results and faults -/

/-- To change the result does not change the fault. -/
theorem map_eq_error {result : Except ε α} {change : α → β} {fault : ε} :
    result.map change = .error fault ↔ result = .error fault := by
  cases result with
  | error other => exact ⟨fun same => (by cases same; rfl), fun same => (by cases same; rfl)⟩
  | ok value => exact ⟨fun same => (by cases same), fun same => (by cases same)⟩

/-- To change the fault does not change the result. -/
theorem mapError_eq_ok {result : Except ε α} {change : ε → ε'} {value : α} :
    result.mapError change = .ok value ↔ result = .ok value := by
  cases result with
  | error fault => exact ⟨fun same => (by cases same), fun same => (by cases same)⟩
  | ok found => exact ⟨fun same => (by cases same; rfl), fun same => (by cases same; rfl)⟩

/-- A changed fault comes from a fault. -/
theorem mapError_eq_error {result : Except ε α} {change : ε → ε'} {fault : ε'} :
    result.mapError change = .error fault ↔
      ∃ cause, result = .error cause ∧ change cause = fault := by
  cases result with
  | error cause => simp [Except.mapError]
  | ok found => simp [Except.mapError]

/-- What holds of every changed fault holds of the faults that there are. -/
theorem forall_error_mapError {result : Except ε α} {change : ε → ε'} {P : ε' → Prop}
    (each : ∀ cause, P (change cause)) :
    ∀ fault, result.mapError change = .error fault → P fault := by
  intro fault failed
  obtain ⟨cause, -, rfl⟩ := mapError_eq_error.1 failed
  exact each cause

theorem isOk_mapError {result : Except ε α} {change : ε → ε'} :
    (result.mapError change).isOk = result.isOk := by
  cases result <;> rfl

/-! ## Several items -/

variable {read : α → Except ε β} {items : List α}

/-- Several items have results exactly if each has one. -/
theorem mapM_eq_ok {values : List β} : items.mapM read = .ok values ↔
    List.Forall₂ (fun item value => read item = .ok value) items values := by
  induction items generalizing values with
  | nil =>
      rw [List.forall₂_nil_left_iff, List.mapM_nil]
      exact ⟨fun same => (Except.ok.inj same).symm, fun same => congrArg Except.ok same.symm⟩
  | cons item rest ih =>
      simp only [List.mapM_cons, bind_eq_ok, List.forall₂_cons_left_iff, ih]
      constructor
      · rintro ⟨value, own, others, further, ⟨⟩⟩
        exact ⟨value, others, own, further, rfl⟩
      · rintro ⟨value, others, own, further, rfl⟩
        exact ⟨value, own, others, further, rfl⟩

/-- The fault of several items is the fault of the first one that has one. -/
theorem mapM_eq_error {fault : ε} : items.mapM read = .error fault ↔
    ∃ front item back, items = front ++ item :: back ∧
      (∀ before ∈ front, ∃ value, read before = .ok value) ∧ read item = .error fault := by
  induction items with
  | nil =>
      refine ⟨fun same => (by cases same), ?_⟩
      rintro ⟨front, item, back, split, -⟩
      cases front <;> cases split
  | cons item rest ih =>
      simp only [List.mapM_cons, bind_eq_error, ih]
      constructor
      · rintro (own | ⟨value, own, ⟨front, first, back, rfl, fine, failed⟩ | ⟨_, _, ⟨⟩⟩⟩)
        · exact ⟨[], item, rest, rfl, fun _ member => (by cases member), own⟩
        · exact ⟨item :: front, first, back, rfl, List.forall_mem_cons.2 ⟨⟨value, own⟩, fine⟩,
            failed⟩
      · rintro ⟨front, first, back, split, fine, failed⟩
        cases front with
        | nil => cases split; exact .inl failed
        | cons before front =>
            cases split
            obtain ⟨⟨value, own⟩, others⟩ := List.forall_mem_cons.1 fine
            exact .inr ⟨value, own, .inl ⟨front, first, back, rfl, others, failed⟩⟩

/-- Several items can be read exactly if each can. -/
theorem isOk_mapM : (items.mapM read).isOk = true ↔ ∀ item ∈ items, (read item).isOk = true := by
  induction items with
  | nil => exact iff_of_true rfl fun _ member => by cases member
  | cons item rest ih =>
      rw [List.mapM_cons, List.forall_mem_cons, ← ih]
      cases read item with
      | error fault => exact iff_of_false Bool.false_ne_true fun both => Bool.false_ne_true both.1
      | ok value =>
          cases rest.mapM read with
          | error fault =>
              exact iff_of_false Bool.false_ne_true fun both => Bool.false_ne_true both.2
          | ok values => exact iff_of_true rfl ⟨rfl, rfl⟩

/-- Each of the values that are read from items is read from one of them. -/
theorem exists_item_of_mapM {values : List β} (done : items.mapM read = .ok values) {value : β}
    (member : value ∈ values) : ∃ item ∈ items, read item = .ok value := by
  have pairs := mapM_eq_ok.1 done
  clear done
  induction pairs with
  | nil => cases member
  | cons own _ ih =>
      rcases List.mem_cons.1 member with rfl | inside
      · exact ⟨_, List.mem_cons_self, own⟩
      · obtain ⟨item, held, found⟩ := ih inside
        exact ⟨item, List.mem_cons_of_mem _ held, found⟩

end TypedClient
