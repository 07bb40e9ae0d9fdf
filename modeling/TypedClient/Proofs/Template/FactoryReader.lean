import TypedClient.Proofs.Generation.Reference
import TypedClient.Proofs.Naming.FactoryKey
import TypedClient.Proofs.Text.LineFeed
import TypedClient.Proofs.Text.Mark

/-! # Reading a factory

An entry of a factory shows the type of a record as it is, whatever marks are in it. What stands
around the type is known from both ends all the same: a key has no colon in it, and the name of a
function no space. So a factory can be read line by line (`readFactory?`), and what is read is what
it was rendered from (`readFactory?_renderFactory`).
-/

namespace TypedClient

namespace Template

/-! ## A reader -/

/-- What an entry of a factory says. -/
structure EntryText where
  key : String
  /-- The options may be left out. -/
  optional : Bool
  type : String
  function : String
  deriving DecidableEq, Repr

/-- What a factory says. A group of operations may be missing. -/
structure FactoryText where
  name : String
  queries? : Option (List EntryText)
  mutations? : Option (List EntryText)
  deriving DecidableEq, Repr

/-- The end of a type with a mark in front of it for options that may be left out. -/
def readOptional? (text : List Char) : Option (Bool × List Char) :=
  match text.dropPrefix? "?: ".toList with
  | some rest => some (true, rest)
  | none => (text.dropPrefix? ": ".toList).map (false, ·)

/-- What stands behind the last space. -/
def lastWord (text : List Char) : List Char :=
  (text.reverse.takeWhile (· ≠ ' ')).reverse

/-- The type of an entry, and the function that it calls. -/
def readCall? (text : List Char) : Option (List Char × List Char) := do
  let front ← text.dropSuffix? "(client, options),".toList
  let type ← front.dropSuffix? (") => ".toList ++ lastWord front)
  return (type, lastWord front)

/-- Reads a line as an entry. The key goes up to the first colon. -/
def readEntry? (line : String) : Option EntryText := do
  let start ← line.toList.dropPrefix? "        ".toList
  let key := start.takeWhile (· ≠ ':')
  let parameter ← start.dropPrefix? (key ++ ": (options".toList)
  let (optional, typed) ← readOptional? parameter
  let (type, function) ← readCall? typed
  return ⟨String.ofList key, optional, String.ofList type, String.ofList function⟩

/-- The line that ends a group. -/
def groupEnd : String := "    \x7d,"

/-- Reads a group from the lines at hand, unless it is missing there, and gives the lines behind it.
-/
def readGroup? (key : String) (lines : List String) :
    Option (Option (List EntryText) × List String) :=
  if lines.head? = some ("    " ++ key ++ ": \x7b") then do
    let entries ← (lines.tail.takeWhile (· ≠ groupEnd)).mapM readEntry?
    return (some entries, (lines.tail.dropWhile (· ≠ groupEnd)).tail)
  else some (none, lines)

/-- Reads a factory line by line. -/
def readFactory? (text : String) : Option FactoryText := do
  let lines := linesOf text
  let start ← (lines.headD "").toList.dropPrefix? "export const ".toList
  let name ← start.dropSuffix? " = (client: ApolloClient<object>) => (\x7b".toList
  let (queries?, rest) ← readGroup? "query" lines.tail
  let (mutations?, rest) ← readGroup? "mutate" rest
  if rest = ["\x7d);"] then return ⟨String.ofList name, queries?, mutations?⟩ else none

/-! ## Marks -/

theorem dropPrefix?_append (start rest : List Char) :
    (start ++ rest).dropPrefix? start = some rest :=
  List.dropPrefix?_append_of_beq rest (beq_self_eq_true start)

theorem dropSuffix?_append (rest ending : List Char) :
    (rest ++ ending).dropSuffix? ending = some rest :=
  List.dropSuffix?_eq_some_iff.2 ⟨ending, rfl, beq_self_eq_true ending⟩

/-- The last word of a text stands behind the last blank. -/
theorem lastWord_append (front : List Char) {word : List Char} (whole : ' ' ∉ word) :
    lastWord (front ++ ' ' :: word) = word :=
  rtakeWhile_behind front whole

end Template

/-! ## Keys -/

namespace Text

/-- An ending that is taken off brings nothing new. -/
theorem dropEnding_subset (text ending : String) :
    (dropEnding text ending).toList ⊆ text.toList := by
  unfold dropEnding
  split
  · rw [String.toList_ofList]
    exact List.take_subset _ _
  · exact List.Subset.refl _

/-- In lower case a character stays as it is, or becomes one from the small letters on; what is no
code point stands for the null character. -/
theorem mem_lowercase {c d : Char} (member : d ∈ lowercase c) :
    d = c ∨ 97 ≤ d.toNat ∨ d.toNat = 0 := by
  unfold lowercase at member
  split at member
  · rw [List.mem_singleton.1 member]
    refine (toLower_cases c).imp_right fun ⟨_, letter⟩ => .inl ?_
    rw [Char.isAlpha, Char.isUpper_toLower_eq_false, Bool.false_or] at letter
    simp only [Char.isLower, Bool.and_eq_true, decide_eq_true_eq, ge_iff_le,
      UInt32.le_iff_toNat_le] at letter
    exact letter.1
  · split at member
    · right; left
      rcases List.mem_cons.1 member with rfl | member
      · decide
      · rw [List.mem_singleton.1 member]
        decide
    · split at member
      · next run found =>
        have target : 97 ≤ run.target :=
          of_decide_eq_true (List.all_eq_true.1 lowercaseRuns_targets run
            (List.mem_of_find?_eq_some found))
        rw [List.mem_singleton.1 member, Char.toNat_ofNat]
        split <;> omega
      · exact .inl (List.mem_singleton.1 member)

end Text

/-- What holds of the characters of a name and of all from the small letters on holds of those of
its key. -/
theorem forall_mem_factoryKey {property : Char → Prop} {name : String}
    (own : ∀ c ∈ name.toList, property c)
    (lowered : ∀ c : Char, 97 ≤ c.toNat ∨ c.toNat = 0 → property c) :
    ∀ c ∈ (factoryKey name).toList, property c := by
  intro c member
  have first := Text.dropEnding_subset _ _ (Text.dropEnding_subset _ _ member)
  unfold Text.lowerFirst at first
  split at first
  · cases first
  · next letter rest split =>
    rw [split] at own
    rw [String.toList_ofList, List.mem_append] at first
    rcases first with first | later
    · rcases Text.mem_lowercase first with same | code
      · rw [same]
        exact own letter List.mem_cons_self
      · exact lowered c code
    · exact own c (List.mem_cons_of_mem letter later)

/-! ## What is read -/

/-- No character of the text has a meaning between the parts of an entry. -/
def IsWord (text : String) : Prop :=
  ∀ c ∈ text.toList, c ≠ ' ' ∧ c ≠ ':' ∧ c ≠ '\n'

/-- An identifier is one word. -/
theorem IsIdentifier.isWord {text : String} (identifier : IsIdentifier text) : IsWord text := by
  intro c member
  have own := identifier c member
  have marks : ∀ mark ∈ [' ', ':', '\n'], Template.Literal.isIdentifierChar mark = false := by
    decide +kernel
  have other : ∀ mark ∈ [' ', ':', '\n'], c ≠ mark := by
    rintro mark listed rfl
    rw [marks c listed] at own
    cases own
  exact ⟨other ' ' (by simp), other ':' (by simp), other '\n' (by simp)⟩

/-- Words can be joined. -/
theorem IsWord.append {first second : String} (front : IsWord first) (back : IsWord second) :
    IsWord (first ++ second) := by
  rw [IsWord, String.toList_append]
  exact List.forall_mem_append.2 ⟨front, back⟩

namespace OperationRecord

/-- The name and the action of the record are words, and its type is anything on a single line. -/
structure IsReadable (record : OperationRecord) : Prop where
  name : IsWord record.name
  action : IsWord record.action
  type : '\n' ∉ record.type.toList

/-- A record of identifiers is readable if its type stays on its line. -/
theorem isReadable {record : OperationRecord} (name : IsIdentifier record.name)
    (action : IsIdentifier record.action) (type : '\n' ∉ record.type.toList) : record.IsReadable :=
  ⟨name.isWord, action.isWord, type⟩

/-- What the entry of the record says. -/
def entryText (record : OperationRecord) : Template.EntryText where
  key := factoryKey record.name
  optional := record.optional
  type := record.type
  function := record.functionName

variable {record : OperationRecord} (readable : record.IsReadable)

include readable

/-- The function of a readable record is one word. -/
theorem IsReadable.function : IsWord record.functionName :=
  readable.action.append readable.name

/-- The key of a readable record ends at the colon. -/
theorem IsReadable.key : ∀ c ∈ (factoryKey record.name).toList, c ≠ ':' ∧ c ≠ '\n' := by
  apply forall_mem_factoryKey
  · exact fun c member => (readable.name c member).2
  · intro c code
    constructor <;> (rintro rfl; revert code; decide)

end OperationRecord

namespace Template

/-! ## Entries -/

/-- The mark of optional options is read back. -/
theorem readOptional?_mark (optional : Bool) (rest : List Char) :
    readOptional? ((optionalMark optional).toList ++ (": ".toList ++ rest)) =
      some (optional, rest) := by
  cases optional with
  | true =>
      have marked : (optionalMark true).toList ++ (": ".toList ++ rest) =
          "?: ".toList ++ rest := rfl
      rw [readOptional?, marked, dropPrefix?_append]
  | false =>
      have bare : (optionalMark false).toList ++ (": ".toList ++ rest) = ": ".toList ++ rest := rfl
      have other : (": ".toList ++ rest).dropPrefix? "?: ".toList = none := rfl
      rw [readOptional?, bare, other, dropPrefix?_append]
      rfl

/-- The call is read back from the end of its line. -/
theorem readCall?_call (type : List Char) {function : List Char} (whole : ' ' ∉ function) :
    readCall? (type ++ (") => ".toList ++ (function ++ "(client, options),".toList))) =
      some (type, function) := by
  have arranged : type ++ (") => ".toList ++ (function ++ "(client, options),".toList)) =
      type ++ (") => ".toList ++ function) ++ "(client, options),".toList := by
    simp only [List.append_assoc]
  have last : lastWord (type ++ (") => ".toList ++ function)) = function := by
    have spaced : type ++ (") => ".toList ++ function) =
        type ++ ") =>".toList ++ ' ' :: function := by
      rw [List.append_assoc]
      rfl
    rw [spaced, lastWord_append _ whole]
  simp only [readCall?, arranged, dropSuffix?_append, last, Option.bind_eq_bind, Option.bind_some,
    Option.pure_def]

variable {record : OperationRecord}

/-- An entry is its parts, one behind the other. -/
theorem toList_factoryEntry (record : OperationRecord) :
    (factoryEntry record).toList = "        ".toList ++ ((factoryKey record.name).toList ++
      (": (options".toList ++ ((optionalMark record.optional).toList ++ (": ".toList ++
        (record.type.toList ++ (") => ".toList ++ (record.functionName.toList ++
          "(client, options),".toList))))))) := by
  have parts : factoryEntry record = "        " ++ factoryKey record.name ++ ": (options" ++
      optionalMark record.optional ++ ": " ++ record.type ++ ") => " ++ record.functionName ++
        "(client, options)," := rfl
  rw [parts]
  simp only [String.toList_append, List.append_assoc]

/-- An entry is read as what it says. -/
theorem readEntry?_factoryEntry (readable : record.IsReadable) :
    readEntry? (factoryEntry record) = some record.entryText := by
  have key : ':' ∉ (factoryKey record.name).toList := fun member =>
    (readable.key ':' member).1 rfl
  have function : ' ' ∉ record.functionName.toList := fun member =>
    (readable.function ' ' member).1 rfl
  have upTo (rest : List Char) :
      ((factoryKey record.name).toList ++ (": (options".toList ++ rest)).takeWhile (· ≠ ':') =
        (factoryKey record.name).toList :=
    takeWhile_upTo key (" (options".toList ++ rest)
  have behind (rest : List Char) :
      ((factoryKey record.name).toList ++ (": (options".toList ++ rest)).dropPrefix?
        ((factoryKey record.name).toList ++ ": (options".toList) = some rest := by
    rw [← List.append_assoc, dropPrefix?_append]
  unfold readEntry?
  simp only [Option.bind_eq_bind]
  rw [toList_factoryEntry, dropPrefix?_append, Option.bind_some, upTo, behind, Option.bind_some,
    readOptional?_mark, Option.bind_some, readCall?_call _ function, Option.bind_some]
  simp only [String.ofList_toList]
  rfl

/-- An entry stays on its line. -/
theorem factoryEntry_single (readable : record.IsReadable) :
    '\n' ∉ (factoryEntry record).toList := by
  have mark : '\n' ∉ (optionalMark record.optional).toList := by
    cases record.optional <;> decide
  have key : '\n' ∉ (factoryKey record.name).toList := fun member =>
    (readable.key '\n' member).2 rfl
  have function : '\n' ∉ record.functionName.toList := fun member =>
    (readable.function '\n' member).2.2 rfl
  rw [toList_factoryEntry]
  simp only [List.mem_append, mark, key, function, readable.type, false_or]
  decide

/-- No line that cannot be read as an entry is one. -/
theorem ne_factoryEntry {line : String} (other : readEntry? line = none)
    (readable : record.IsReadable) : factoryEntry record ≠ line := by
  rintro rfl
  rw [readEntry?_factoryEntry readable] at other
  cases other

/-! ## Groups -/

/-- What is read of a group of records. -/
def listedEntries (records : List OperationRecord) : Option (List EntryText) :=
  if records = [] then none else some (records.map (·.entryText))

variable {key : String} {records : List OperationRecord}

/-- A namespace that is not empty is opened, filled and closed. -/
theorem factoryMember_of_ne_nil (filled : records ≠ []) :
    factoryMember key records =
      ("    " ++ key ++ ": \x7b") :: (records.map factoryEntry ++ [groupEnd]) := by
  rw [factoryMember, if_neg (by simp [filled])]
  rfl

/-- Entries are read back line by line. -/
theorem readEntries (readable : ∀ record ∈ records, record.IsReadable) :
    (records.map factoryEntry).mapM readEntry? = some (records.map (·.entryText)) := by
  induction records with
  | nil => rfl
  | cons record records ih =>
      rw [List.forall_mem_cons] at readable
      rw [List.map_cons, List.mapM_cons, readEntry?_factoryEntry readable.1, ih readable.2]
      rfl

/-- A group is read as the entries of its records. One without records is not there, and is missed
if the lines behind do not begin like it. -/
theorem readGroup?_factoryMember (readable : ∀ record ∈ records, record.IsReadable)
    {rest : List String} (other : records = [] → rest.head? ≠ some ("    " ++ key ++ ": \x7b")) :
    readGroup? key (factoryMember key records ++ rest) = some (listedEntries records, rest) := by
  by_cases filled : records = []
  · rw [filled, factoryMember, List.isEmpty_nil, if_pos rfl, List.nil_append, readGroup?,
      if_neg (other filled), listedEntries, if_pos rfl]
  · have ended : groupEnd ∉ records.map factoryEntry := by
      intro member
      obtain ⟨record, listed, same⟩ := List.mem_map.1 member
      exact ne_factoryEntry rfl (readable record listed) same
    have lines : factoryMember key records ++ rest =
        ("    " ++ key ++ ": \x7b") :: (records.map factoryEntry ++ groupEnd :: rest) := by
      rw [factoryMember_of_ne_nil filled, List.cons_append, List.append_assoc,
        List.singleton_append]
    rw [lines, readGroup?, List.head?_cons, if_pos rfl, List.tail_cons, takeWhile_upTo ended,
      dropWhile_upTo ended, readEntries readable, listedEntries, if_neg filled]
    rfl

/-- A namespace has one line for each entry. -/
theorem factoryMember_single (whole : '\n' ∉ key.toList)
    (readable : ∀ record ∈ records, record.IsReadable) :
    ∀ line ∈ factoryMember key records, '\n' ∉ line.toList := by
  by_cases filled : records = []
  · rw [filled]
    exact List.forall_mem_nil _
  · rw [factoryMember_of_ne_nil filled, List.forall_mem_cons, List.forall_mem_append,
      List.forall_mem_map, List.forall_mem_singleton]
    refine ⟨?_, fun record member => factoryEntry_single (readable record member), by decide⟩
    simp only [String.toList_append, List.mem_append, whole, or_false]
    decide

/-- Where a group with some key begins, if it is not in front of the entries. -/
theorem mem_factoryMember_iff {line : String} (entry : readEntry? line = none)
    (ending : line ≠ groupEnd) (readable : ∀ record ∈ records, record.IsReadable) :
    line ∈ factoryMember key records ↔ line = "    " ++ key ++ ": \x7b" ∧ records ≠ [] := by
  by_cases filled : records = []
  · simp [filled, factoryMember]
  · have listed : line ∉ records.map factoryEntry := by
      intro member
      obtain ⟨record, inside, same⟩ := List.mem_map.1 member
      exact ne_factoryEntry entry (readable record inside) same
    simp [factoryMember_of_ne_nil filled, listed, ending, filled]

/-! ## The factory -/

variable {name : String} {queries mutations : List OperationRecord}

/-- A factory has its name in the first line, and then its namespaces. -/
theorem linesOf_renderFactory (whole : '\n' ∉ name.toList)
    (readable : ∀ record ∈ queries ++ mutations, record.IsReadable) :
    linesOf (renderFactory name queries mutations) =
      ("export const " ++ name ++ " = (client: ApolloClient<object>) => (\x7b") ::
        (factoryMember "query" queries ++ (factoryMember "mutate" mutations ++ ["\x7d);"])) := by
  have lines : renderFactory name queries mutations = String.intercalate "\n"
      (("export const " ++ name ++ " = (client: ApolloClient<object>) => (\x7b") ::
        (factoryMember "query" queries ++ (factoryMember "mutate" mutations ++ ["\x7d);"]))) := by
    have opening : " = (client: " ++ clientType ++ ") => (\x7b" =
        " = (client: ApolloClient<object>) => (\x7b" := rfl
    rw [renderFactory, ← opening]
    simp only [String.append_assoc, List.append_assoc, List.cons_append, List.nil_append]
  rw [List.forall_mem_append] at readable
  rw [lines]
  apply linesOf_joined (List.cons_ne_nil _ _)
  rw [List.forall_mem_cons, List.forall_mem_append, List.forall_mem_append,
    List.forall_mem_singleton]
  refine ⟨?_, factoryMember_single (by decide) readable.1,
    factoryMember_single (by decide) readable.2, by decide⟩
  simp only [String.toList_append, List.mem_append, whole, or_false]
  decide

/-- The lines of a factory that are neither its first or last line nor belong to a group that is
open are those that open a group. -/
theorem mem_linesOf_renderFactory_iff {line : String} (whole : '\n' ∉ name.toList)
    (readable : ∀ record ∈ queries ++ mutations, record.IsReadable)
    (first : line.toList.head? ≠ some 'e') (last : line ≠ "\x7d);")
    (entry : readEntry? line = none) (ending : line ≠ groupEnd) :
    line ∈ linesOf (renderFactory name queries mutations) ↔
      line = "    " ++ "query" ++ ": \x7b" ∧ queries ≠ [] ∨
        line = "    " ++ "mutate" ++ ": \x7b" ∧ mutations ≠ [] := by
  have behind : line ≠ "export const " ++ name ++ " = (client: ApolloClient<object>) => (\x7b" := by
    rintro rfl
    rw [String.toList_append, String.toList_append, List.append_assoc] at first
    exact first rfl
  rw [linesOf_renderFactory whole readable, List.mem_cons, List.mem_append, List.mem_append,
    List.mem_singleton]
  rw [List.forall_mem_append] at readable
  rw [mem_factoryMember_iff entry ending readable.1, mem_factoryMember_iff entry ending readable.2]
  simp only [behind, last, false_or, or_false]

/-- A factory says what it was rendered from, whatever marks are in the types of the records: a
reader that knows nothing but the text finds the name and the entries of both groups in order. A
group has its line in the text exactly if it has records. -/
theorem readFactory?_renderFactory (whole : '\n' ∉ name.toList)
    (readable : ∀ record ∈ queries ++ mutations, record.IsReadable) :
    ∃ text, ({} : Templates).renderFactory name queries mutations = .ok text ∧
      readFactory? text = some ⟨name, listedEntries queries, listedEntries mutations⟩ ∧
      ("    query: \x7b" ∈ linesOf text ↔ queries ≠ []) ∧
      ("    mutate: \x7b" ∈ linesOf text ↔ mutations ≠ []) := by
  refine ⟨renderFactory name queries mutations, rfl, ?_⟩
  have lines := linesOf_renderFactory whole readable
  refine ⟨?_, ?_, ?_⟩
  · rw [List.forall_mem_append] at readable
    have mutate : readGroup? "mutate" (factoryMember "mutate" mutations ++ ["\x7d);"]) =
        some (listedEntries mutations, ["\x7d);"]) :=
      readGroup?_factoryMember readable.2 fun _ => by decide
    have query : readGroup? "query"
        (factoryMember "query" queries ++ (factoryMember "mutate" mutations ++ ["\x7d);"])) =
          some (listedEntries queries, factoryMember "mutate" mutations ++ ["\x7d);"]) := by
      apply readGroup?_factoryMember readable.1
      intro _
      by_cases filled : mutations = []
      · rw [filled]
        decide
      · rw [factoryMember_of_ne_nil filled, List.cons_append, List.head?_cons]
        decide
    have opening :
        ("export const " ++ name ++ " = (client: ApolloClient<object>) => (\x7b").toList =
          "export const ".toList ++
          (name.toList ++ " = (client: ApolloClient<object>) => (\x7b".toList) := by
      simp only [String.toList_append, List.append_assoc]
    unfold readFactory?
    simp only [Option.bind_eq_bind]
    rw [lines, List.headD_cons, opening, dropPrefix?_append, Option.bind_some, dropSuffix?_append,
      Option.bind_some, List.tail_cons, query, Option.bind_some, mutate, Option.bind_some,
      if_pos rfl, String.ofList_toList]
    rfl
  · rw [mem_linesOf_renderFactory_iff whole readable (by decide) (by decide) rfl (by decide)]
    simp
  · rw [mem_linesOf_renderFactory_iff whole readable (by decide) (by decide) rfl (by decide)]
    simp

/-- Types that look like entries, for two functions under one key. -/
def markedRecords : List OperationRecord :=
  [⟨"SaveItemMutation", "mutate", "A, saveItem?: (options?: B) => C(client, options),", true⟩,
    ⟨"SaveItem", "mutate", "Options<') => mutateSaveItem(client, options),'>", false⟩]

theorem readFactory?_renderFactory_marked :
    ∃ text, ({} : Templates).renderFactory "api" [] markedRecords = .ok text ∧
      readFactory? text = some ⟨"api", none, some
        [⟨"saveItem", true, "A, saveItem?: (options?: B) => C(client, options),",
          "mutateSaveItemMutation"⟩,
          ⟨"saveItem", false, "Options<') => mutateSaveItem(client, options),'>",
            "mutateSaveItem"⟩]⟩ ∧
      ("    query: \x7b" ∈ linesOf text ↔ ([] : List OperationRecord) ≠ []) ∧
      ("    mutate: \x7b" ∈ linesOf text ↔ markedRecords ≠ []) := by
  apply readFactory?_renderFactory
  · decide
  · have identifiers : ∀ record ∈ markedRecords, IsIdentifier record.name ∧
        IsIdentifier record.action ∧ '\n' ∉ record.type.toList := by
      decide +kernel
    intro record member
    obtain ⟨name, action, type⟩ := identifiers record member
    exact OperationRecord.isReadable name action type

end Template

end TypedClient
