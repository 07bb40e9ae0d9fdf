import TypedClient.CommandLine.Request

/-! # Arguments that are texts

What is read off arguments is made of parts of them. So where all of them are texts, none is refused
for being no text (`readInvocation_ne_notText`).
-/

namespace TypedClient

namespace RawText

/-- There are no surrogates in the raw text. -/
def IsText (raw : RawText) : Prop :=
  ∀ point ∈ raw, point.isChar = true

variable {raw part : RawText}

/-- A part of a text is a text. -/
theorem IsText.of_subset (text : raw.IsText) (inside : part ⊆ raw) : part.IsText :=
  fun point member => text point (inside member)

theorem isText_ofString (text : String) : (ofString text).IsText := by
  intro point member
  obtain ⟨c, -, rfl⟩ := List.mem_map.1 member
  rfl

/-- A raw text without surrogates can be read as a text. -/
theorem IsText.isSome (text : raw.IsText) : raw.text?.isSome = true := by
  unfold text?
  rw [if_pos (List.all_eq_true.2 text)]
  rfl

end RawText

namespace CommandLine

/-! ## Readings of texts -/

/-- Nothing is refused for being no text, and what is read has the property `P`. -/
def Reads {α : Type} (result : Except ArgumentFault α) (P : α → Prop) : Prop :=
  match result with
  | .error fault => fault ≠ .notText
  | .ok value => P value

namespace Reads

variable {α β : Type} {P : α → Prop} {Q : β → Prop}

/-- Whatever comes of a reading, it is not refused for being no text. -/
theorem ne_notText {result : Except ArgumentFault α} (reads : Reads result P) :
    result ≠ .error .notText := by
  rintro rfl
  exact reads rfl

/-- A misuse is no matter of the encoding. -/
theorem usage (fault : UsageFault) : Reads (.error (.usage fault) : Except ArgumentFault α) P :=
  fun same => by cases same

/-- One reading after another, where the second knows what the first has read. -/
theorem bind {first : Except ArgumentFault α} {next : α → Except ArgumentFault β}
    (here : Reads first P) (others : ∀ value, P value → Reads (next value) Q) :
    Reads (first >>= next) Q := by
  cases first with
  | error fault => exact here
  | ok value => exact others value here

/-- Checks that are made one after the other. -/
theorem forM {items : List α} {act : α → Except ArgumentFault Unit}
    (each : ∀ item ∈ items, Reads (act item) fun _ => True) :
    Reads (items.forM act) fun _ => True := by
  induction items with
  | nil => exact trivial
  | cons item rest ih =>
      obtain ⟨own, others⟩ := List.forall_mem_cons.1 each
      exact own.bind fun _ _ => ih others

/-- Items that are read one after the other. -/
theorem mapM {items : List α} {read : α → Except ArgumentFault β}
    (each : ∀ item ∈ items, Reads (read item) fun _ => True) :
    Reads (items.mapM read) fun _ => True := by
  induction items with
  | nil => exact trivial
  | cons item rest ih =>
      obtain ⟨own, others⟩ := List.forall_mem_cons.1 each
      rw [List.mapM_cons]
      exact own.bind fun _ _ => (ih others).bind fun _ _ => trivial

end Reads

variable {raw : RawText} {arguments : List RawText} {system : FileSystem}

/-- A text is read as one. -/
theorem textOf_reads (text : raw.IsText) : Reads (textOf raw) fun _ => True := by
  unfold textOf
  obtain ⟨found, read⟩ := Option.isSome_iff_exists.1 text.isSome
  rw [read]
  exact trivial

/-! ## Options -/

/-- All values of options that were given are texts. -/
def AreTexts (given : List Given) : Prop :=
  ∀ option ∈ given, option.value.IsText

theorem areTexts_nil : AreTexts [] :=
  fun _ member => by cases member

theorem areTexts_cons {option : OptionName} {given : List Given} (text : raw.IsText)
    (others : AreTexts given) : AreTexts (⟨option, raw⟩ :: given) :=
  List.forall_mem_cons.2 ⟨text, others⟩

theorem isText_nil : RawText.IsText [] :=
  fun _ member => by cases member

/-- Letters behind a dash give options with texts. -/
theorem recognizeLetters_reads (text : raw.IsText) :
    Reads (recognizeLetters raw) fun found => AreTexts found.given := by
  fun_induction recognizeLetters raw with
  | case1 => exact areTexts_nil
  | case2 index rest => cases text _ List.mem_cons_self
  | case3 => exact Reads.usage _
  | case4 => exact areTexts_nil
  | case5 letter rest =>
      exact areTexts_cons (text.of_subset (List.subset_cons_self _ rest)) areTexts_nil
  | case6 letter rest option found takes ih =>
      refine (ih (text.of_subset (List.subset_cons_self _ rest))).bind fun others own => ?_
      exact areTexts_cons isText_nil own

/-- An argument gives options with texts. -/
theorem recognize_reads (text : raw.IsText) :
    Reads (recognize raw) fun found => AreTexts found.given := by
  have name : (nameIn raw).IsText := text.of_subset (List.takeWhile_subset _)
  have back : RawText.IsText (raw.dropWhile (· ≠ .char '=')) :=
    text.of_subset (List.dropWhile_subset _)
  unfold recognize
  dsimp only
  generalize raw.dropWhile (· ≠ .char '=') = behind at back
  split
  · split
    · exact areTexts_nil
    · exact areTexts_cons isText_nil areTexts_nil
  · next value _ taken =>
      -- The value is what stands behind the equals sign.
      have own : RawText.IsText value := by
        split at taken
        · cases taken
        · rw [← Option.some.inj taken]
          exact back.of_subset (List.subset_cons_self _ _)
      split
      · exact areTexts_cons own areTexts_nil
      · exact Reads.usage _
  · split
    · exact (textOf_reads name).bind fun _ _ => Reads.usage _
    · exact recognizeLetters_reads (text.of_subset (List.drop_subset _ _))

/-- Arguments that are texts give options with texts and leave over texts. -/
theorem recognizeAll_reads (texts : ∀ argument ∈ arguments, argument.IsText) :
    Reads (recognizeAll arguments) fun found =>
      AreTexts found.1 ∧ ∀ argument ∈ found.2, argument.IsText := by
  fun_induction recognizeAll arguments with
  | case1 => exact ⟨areTexts_nil, texts⟩
  | case2 rest => exact ⟨areTexts_nil, (List.forall_mem_cons.1 texts).2⟩
  | case3 argument rest _ _ others later =>
      obtain ⟨own, further⟩ := List.forall_mem_cons.1 texts
      refine (recognize_reads own).bind fun found given => ?_
      split
      · refine (others further).bind fun read ⟨values, extra⟩ => ?_
        exact ⟨List.forall_mem_append.2 ⟨given, values⟩, extra⟩
      · split
        · exact Reads.usage _
        · obtain ⟨value, others⟩ := List.forall_mem_cons.1 further
          refine (later others).bind fun read ⟨values, extra⟩ => ?_
          exact ⟨List.forall_mem_append.2 ⟨given, areTexts_cons value values⟩, extra⟩
  | case4 argument rest _ _ others =>
      obtain ⟨own, further⟩ := List.forall_mem_cons.1 texts
      refine (others further).bind fun read ⟨values, extra⟩ => ?_
      exact ⟨values, List.forall_mem_cons.2 ⟨own, extra⟩⟩

/-! ## Requests -/

/-- Checking an option is about its value as a text. -/
theorem checkOption_reads (given : List Given) (option : OptionName) :
    Reads (checkOption system given option) fun _ => True := by
  unfold checkOption
  split
  · split
    · exact Reads.usage _
    · exact trivial
  · split
    · exact fun same => by cases same
    · split
      · exact Reads.usage _
      · exact trivial

/-- Options and arguments that are texts make a request, or there is something else wrong. -/
theorem requestOf_reads {given : List Given} (values : AreTexts given)
    (texts : ∀ argument ∈ arguments, argument.IsText) :
    Reads (requestOf system given arguments) fun _ => True := by
  have readable : given.all (·.isReadable) = true := by
    refine List.all_eq_true.2 fun option member => ?_
    unfold Given.isReadable
    rw [(values option member).isSome, Bool.or_true]
  unfold requestOf
  rw [if_pos readable]
  dsimp only
  refine (Reads.forM fun option _ => checkOption_reads given option).bind fun _ _ => ?_
  split
  · exact trivial
  · exact (Reads.mapM fun argument member => textOf_reads (texts argument member)).bind fun _ _ =>
      Reads.usage _

/-- The arguments of the command make an invocation, or there is something else wrong with them. -/
theorem readGenerate_reads (texts : ∀ argument ∈ arguments, argument.IsText) :
    Reads (readGenerate system arguments) fun _ => True := by
  unfold readGenerate
  refine (recognizeAll_reads texts).bind fun found ⟨values, extra⟩ => ?_
  dsimp only
  split
  · exact trivial
  · exact (requestOf_reads values extra).bind fun _ _ => trivial

/-- The options in front of the command leave over texts. -/
theorem readProgramOptions_reads (texts : ∀ argument ∈ arguments, argument.IsText) :
    Reads (readProgramOptions arguments) fun found =>
      ∀ argument ∈ found.2, argument.IsText := by
  fun_induction readProgramOptions arguments with
  | case1 => exact texts
  | case2 rest => exact (List.forall_mem_cons.1 texts).2
  | case3 argument rest _ _ others =>
      obtain ⟨own, further⟩ := List.forall_mem_cons.1 texts
      have name : (nameIn argument).IsText := own.of_subset (List.takeWhile_subset _)
      refine (textOf_reads name).bind fun _ _ => ?_
      split
      · split
        · exact (others further).bind fun _ extra => extra
        · exact Reads.usage _
      · dsimp only
        split
        · exact Reads.usage _
        · have short : RawText.IsText (argument.take 2) := own.of_subset (List.take_subset _ _)
          exact (textOf_reads short).bind fun _ _ => Reads.usage _
  | case4 argument rest => exact texts

/-- **Arguments that are texts** make an invocation, or there is something else wrong with them. -/
theorem readInvocation_ne_notText (texts : ∀ argument ∈ arguments, argument.IsText) :
    readInvocation system arguments ≠ .error .notText := by
  apply Reads.ne_notText (P := fun _ => True)
  unfold readInvocation
  split
  · exact Reads.usage _
  · refine (readProgramOptions_reads texts).bind fun found command => ?_
    split
    · exact trivial
    · exact Reads.usage _
    · next name rest =>
        obtain ⟨own, further⟩ := List.forall_mem_cons.1 command
        refine (textOf_reads own).bind fun _ _ => ?_
        split
        · exact readGenerate_reads further
        · refine (readProgramOptions_reads command).bind fun _ _ => ?_
          split
          · exact trivial
          · exact Reads.usage _

end CommandLine

end TypedClient
