import TypedClient.Proofs.Generation.Module
import TypedClient.Proofs.Session.Play

/-! # The events of the parts

Each part of a generation causes its events whatever its outcome is. Nearly all of them are asides:
requests for imports and notices. An operation is collected only where its constant is rendered
(`operationPart_events`), and right after it the tag is required. The fragments are marked as
rendered once all of their constants are there (`fragmentConstants_events`).
-/

namespace TypedClient

open Document

/-- There is always an import for the tag. -/
theorem Config.tagImport_ne_empty (config : Config) : config.tagImport ≠ "" := by
  unfold Config.tagImport TypedClient.tagImport importNames
  dsimp only
  split
  · simp [String.append_eq_empty_iff]
  · split <;> simp [String.append_eq_empty_iff]

/-- The event is a request for an import or a notice. -/
def Event.isAside : Event → Bool
  | .require _ => true
  | .notice _ => true
  | _ => false

/-- Events that are aside render nothing. -/
theorem renderings_of_aside {events : List Event}
    (aside : ∀ event ∈ events, event.isAside = true) : renderings events = [] := by
  rw [renderings, List.filterMap_eq_nil_iff]
  intro event member
  have own := aside event member
  cases event with
  | renderFragments any => cases own
  | require statement => rfl
  | collect => rfl
  | notice notice => rfl

/-- Events that are aside collect nothing. -/
theorem count_collect_of_aside {events : List Event}
    (aside : ∀ event ∈ events, event.isAside = true) : events.count .collect = 0 := by
  rw [List.count_eq_zero]
  intro member
  cases aside _ member

/-- Notices are aside. -/
theorem notices_aside (notices : List Notice) :
    ∀ event ∈ notices.map Event.notice, event.isAside = true := by
  intro event member
  obtain ⟨_, _, rfl⟩ := List.mem_map.1 member
  rfl

/-! ## Events of combined parts -/

namespace Trace

variable {α β : Type} {first : Trace α} {next : α → Trace β} {event : Event}

/-- The events of the first step come first. -/
theorem events_prefix_bind (first : Trace α) (next : α → Trace β) :
    first.events <+: (first >>= next).events := by
  rw [bind_eq]
  split
  · exact List.prefix_append _ _
  · exact List.prefix_refl _

/-- An event of two steps is an event of one of them. -/
theorem mem_events_bind (member : event ∈ (first >>= next).events) :
    event ∈ first.events ∨ ∃ value, event ∈ (next value).events := by
  rw [bind_eq] at member
  split at member
  · next value _ => exact (List.mem_append.1 member).imp_right fun later => ⟨value, later⟩
  · exact .inl member

/-- Two steps come out as one outcome after the other. -/
theorem outcome_bind_eq (first : Trace α) (next : α → Trace β) :
    (first >>= next).outcome = first.outcome >>= fun value => (next value).outcome := by
  rw [bind_eq]
  cases first.outcome <;> rfl

/-- Two steps have a result exactly if both have one. -/
theorem outcome_bind {result : β} :
    (first >>= next).outcome = .ok result ↔
      ∃ value, first.outcome = .ok value ∧ (next value).outcome = .ok result := by
  rw [bind_eq]
  cases found : first.outcome with
  | ok value => simp
  | error fault => simp

/-- Turning the result into another one causes no event. -/
theorem events_bind_pure (first : Trace α) (convert : α → β) :
    (first >>= fun value => pure (convert value)).events = first.events := by
  rw [bind_eq]
  split
  · exact List.append_nil _
  · rfl

/-- An event of several parts is an event of one of them. -/
theorem mem_events_mapM {part : α → Trace β} {items : List α}
    (member : event ∈ (items.mapM part).events) : ∃ item ∈ items, event ∈ (part item).events := by
  induction items with
  | nil => cases member
  | cons item rest ih =>
      rw [List.mapM_cons] at member
      rcases mem_events_bind member with here | ⟨value, later⟩
      · exact ⟨item, List.mem_cons_self, here⟩
      · rw [events_bind_pure] at later
        obtain ⟨other, inside, own⟩ := ih later
        exact ⟨other, List.mem_cons_of_mem _ inside, own⟩

/-- Parts that all succeed cause all of their events. -/
theorem events_mapM_of_ok {part : α → Trace β} {events : α → List Event} {items : List α}
    {values : List β}
    (own : ∀ item value, (part item).outcome = .ok value → (part item).events = events item)
    (done : (items.mapM part).outcome = .ok values) :
    (items.mapM part).events = items.flatMap events := by
  induction items generalizing values with
  | nil => rfl
  | cons item rest ih =>
      rw [List.mapM_cons] at done ⊢
      obtain ⟨value, here, done⟩ := outcome_bind.1 done
      obtain ⟨others, remaining, _⟩ := outcome_bind.1 done
      rw [bind_eq, here]
      dsimp only
      rw [events_bind_pure, own item value here, ih remaining, List.flatMap_cons]

/-- Each item has a value. -/
theorem length_of_mapM {part : α → Trace β} {items : List α} {values : List β}
    (done : (items.mapM part).outcome = .ok values) : values.length = items.length := by
  induction items generalizing values with
  | nil =>
      cases done
      rfl
  | cons item rest ih =>
      rw [List.mapM_cons, outcome_bind] at done
      obtain ⟨value, _, done⟩ := done
      obtain ⟨others, remaining, last⟩ := outcome_bind.1 done
      cases last
      simp [ih remaining]

end Trace

namespace Generator

variable (generator : Generator)

/-! ## Wrappers -/

/-- To require the types is aside. -/
theorem typeEvents_aside : ∀ event ∈ generator.typeEvents, event.isAside = true := by
  intro event member
  rw [typeEvents, Option.mem_toList, Option.map_eq_some_iff] at member
  obtain ⟨statement, _, rfl⟩ := member
  rfl

/-- To emit an operation is aside. -/
theorem emissionEvents_aside (operation : Operation) :
    ∀ event ∈ generator.emissionEvents operation, event.isAside = true := by
  intro event member
  rw [emissionEvents, List.mem_append, List.mem_append, or_self] at member
  rcases member with type | notice
  · exact generator.typeEvents_aside event type
  · obtain ⟨_, _, rfl⟩ := List.mem_map.1 notice
    rfl

theorem resultType_events (operation : Operation) :
    (generator.resultType operation).events = generator.typeEvents := by
  rw [resultType, Trace.events_bind_pure, requireTypes_eq]

theorem variablesType_events (operation : Operation) :
    (generator.variablesType operation).events = generator.typeEvents := by
  rw [variablesType, Trace.events_bind_pure, requireTypes_eq]

/-! ## Constants -/

/-- A constant requires the tag. -/
theorem constant_events (name body : String) (selections : List Selection) :
    (generator.constant name body selections).events =
      [.require generator.config.tagImport] := by
  unfold constant Trace.emit Trace.lift
  rw [Trace.bind_ok]
  cases generator.references selections <;> rfl

/-- The constant of an operation collects it and requires the tag. -/
theorem documentConstant_events (operation : Operation) :
    (generator.documentConstant operation).events =
      [.collect, .require generator.config.tagImport] := by
  unfold documentConstant Trace.emit
  rw [Trace.bind_ok, constant_events]
  rfl

/-- An operation is collected, the tag is required, and the rest are asides. -/
theorem operationPart_events (operation : Operation) :
    ∃ rest, (generator.operationPart operation).events =
        .collect :: .require generator.config.tagImport :: rest ∧
      ∀ event ∈ rest, event.isAside = true := by
  have head := generator.documentConstant_events operation
  unfold operationPart
  rw [Trace.bind_eq]
  split
  · refine ⟨generator.emissionEvents operation, ?_, generator.emissionEvents_aside operation⟩
    rw [Trace.events_bind_pure, emit_eq, head]
    rfl
  · exact ⟨[], head, fun _ member => absurd member List.not_mem_nil⟩

/-- A fragment requires nothing but the tag. -/
theorem fragmentConstant_events (descriptor : FragmentDescriptor) {event : Event}
    (member : event ∈ (generator.fragmentConstant descriptor).events) :
    event = .require generator.config.tagImport := by
  unfold fragmentConstant at member
  rcases Trace.mem_events_bind member with named | ⟨name, inside⟩
  · cases named
  · rw [constant_events] at inside
    exact List.mem_singleton.1 inside

/-- A fragment whose constant is rendered has required the tag. -/
theorem fragmentConstant_requires {descriptor : FragmentDescriptor} {text : String}
    (rendered : (generator.fragmentConstant descriptor).outcome = .ok text) :
    .require generator.config.tagImport ∈ (generator.fragmentConstant descriptor).events := by
  unfold fragmentConstant at rendered ⊢
  obtain ⟨name, named, _⟩ := Trace.outcome_bind.1 rendered
  rw [Trace.bind_eq, named]
  exact List.mem_append_right _ (by rw [constant_events]; exact List.mem_singleton_self _)

/-- Whether a rendering of the fragments finds any, unless it fails. -/
def rendering? : Option Bool :=
  match generator.fragmentConstants.outcome with
  | .ok _ => some !generator.declaredFragments.isEmpty
  | .error _ => none

/-- The fragments require nothing but the tag, and are marked once all of them are rendered. -/
theorem fragmentConstants_events :
    ∃ own, generator.fragmentConstants.events =
        own ++ (generator.rendering?.map Event.renderFragments).toList ∧
      (∀ event ∈ own, event = .require generator.config.tagImport) ∧
      (generator.rendering? = some true → .require generator.config.tagImport ∈ own) := by
  have parts : generator.fragmentConstants =
      generator.declaredFragments.mapM generator.fragmentConstant >>= fun texts =>
        ⟨[.renderFragments !texts.isEmpty], .ok (String.intercalate "\n" texts)⟩ := rfl
  refine ⟨(generator.declaredFragments.mapM generator.fragmentConstant).events, ?_, ?_, ?_⟩
  · rw [rendering?, parts, Trace.bind_eq]
    cases done : (generator.declaredFragments.mapM generator.fragmentConstant).outcome with
    | error fault => exact (List.append_nil _).symm
    | ok texts =>
        have same : texts.isEmpty = generator.declaredFragments.isEmpty := by
          rw [Bool.eq_iff_iff, List.isEmpty_iff_length_eq_zero, List.isEmpty_iff_length_eq_zero,
            Trace.length_of_mapM done]
        simp [same]
  · intro event member
    obtain ⟨descriptor, _, inside⟩ := Trace.mem_events_mapM member
    exact generator.fragmentConstant_events descriptor inside
  · intro found
    rw [rendering?, parts] at found
    split at found
    · next text rendered =>
        obtain ⟨texts, done, _⟩ := Trace.outcome_bind.1 rendered
        cases own : generator.declaredFragments with
        | nil =>
            rw [own] at found
            cases found
        | cons descriptor rest =>
            rw [own, List.mapM_cons] at done
            rw [List.mapM_cons]
            obtain ⟨first, here, _⟩ := Trace.outcome_bind.1 done
            exact (Trace.events_prefix_bind _ _).mem (generator.fragmentConstant_requires here)
    · cases found

/-- The constants of fragments are rendered once, if at all. -/
theorem renderings_fragmentConstants :
    renderings generator.fragmentConstants.events = generator.rendering?.toList := by
  obtain ⟨own, split, required, _⟩ := generator.fragmentConstants_events
  have aside : ∀ event ∈ own, event.isAside = true :=
    fun event member => required event member ▸ rfl
  rw [split, renderings_append, renderings_of_aside aside, List.nil_append]
  cases generator.rendering? <;> rfl

/-- Fragments are not collected. -/
theorem collect_not_mem_fragmentConstants : .collect ∉ generator.fragmentConstants.events := by
  obtain ⟨own, split, required, _⟩ := generator.fragmentConstants_events
  rw [split, List.mem_append, not_or]
  constructor
  · intro inside
    cases required _ inside
  · intro last
    obtain ⟨_, _, differs⟩ := Option.map_eq_some_iff.1 (Option.mem_toList.1 last)
    cases differs

/-! ## Documents -/

/-- The parts of a traversal cause its events, and one notice follows. -/
theorem mem_events_traverse {document : Document} {event : Event}
    (member : event ∈ (generator.traverse document).events) :
    event.isAside = true ∨ event = .collect ∧ document.operations ≠ [] := by
  unfold traverse at member
  rcases Trace.mem_events_bind member with here | ⟨parts, later⟩
  · obtain ⟨operation, inside, own⟩ := Trace.mem_events_mapM here
    obtain ⟨rest, split, aside⟩ := generator.operationPart_events operation
    rw [split] at own
    rcases List.mem_cons.1 own with rfl | own
    · exact .inr ⟨rfl, List.ne_nil_of_mem inside⟩
    · rcases List.mem_cons.1 own with rfl | own
      · exact .inl rfl
      · exact .inl (aside event own)
  · rw [Trace.events_bind_pure] at later
    exact .inl (List.mem_singleton.1 later ▸ rfl)

/-- The traversal of a document with an operation collects it and requires the tag. -/
theorem traverse_events_prefix {document : Document} (filled : document.operations ≠ []) :
    [.collect, .require generator.config.tagImport] <+: (generator.traverse document).events := by
  obtain ⟨operation, rest, split⟩ := List.exists_cons_of_ne_nil filled
  obtain ⟨others, own, _⟩ := generator.operationPart_events operation
  unfold traverse
  rw [split, List.mapM_cons]
  refine List.IsPrefix.trans ?_ (Trace.events_prefix_bind _ _)
  refine List.IsPrefix.trans ?_ (Trace.events_prefix_bind _ _)
  rw [own]
  exact List.prefix_append [_, _] others

/-- A document collects exactly if it has operations. -/
theorem collect_mem_traverse {document : Document} :
    .collect ∈ (generator.traverse document).events ↔ document.operations ≠ [] := by
  constructor
  · intro member
    rcases generator.mem_events_traverse member with differs | ⟨_, filled⟩
    · cases differs
    · exact filled
  · intro filled
    exact (generator.traverse_events_prefix filled).mem List.mem_cons_self

/-- Operations render no fragments. -/
theorem renderings_traverse (document : Document) :
    renderings (generator.traverse document).events = [] := by
  rw [List.eq_nil_iff_forall_not_mem]
  intro any member
  rcases generator.mem_events_traverse (mem_renderings.1 member) with differs | ⟨differs, _⟩ <;>
    cases differs

end Generator

end TypedClient
