import TypedClient.Proofs.Template.Replacement

/-! # Strict templates

Strict templates give the texts that the templates give, as long as there are no surrogates in them
(`Template.TemplateSource.render_of_strict`). So a module that can be made with them is the module, and
it is a text (`generate_eq_of_strict`). Templates that only give texts are strict as they are
(`FileSystem.strict_templatesWith`).
-/

namespace TypedClient

namespace Template

/-- Only texts without surrogates are rendered. -/
def Renderer.GivesTexts (render : Renderer) : Prop :=
  ∀ scope raw, render scope = .ok raw → ∃ text, raw = RawText.ofString text

namespace TemplateSource

variable {source : TemplateSource} {packagedText text : String}
  {scope : List (String × TemplateValue)}

/-- What a strict source gives is what the source gives. -/
theorem render_of_strict (done : source.strict.render packagedText scope = .ok text) :
    source.render packagedText scope = .ok text := by
  cases source with
  | packaged => exact done
  | custom render =>
      unfold strict TemplateSource.render at done
      unfold TemplateSource.render
      dsimp only at done ⊢
      cases rendered : render scope with
      | error fault =>
          rw [rendered] at done
          cases done
      | ok raw =>
          rw [rendered] at done
          change ((if raw.text?.isSome then .ok raw else .error .surrogates :
            Except TemplateFault RawText).map _) = _ at done
          split at done
          · exact done
          · cases done

/-- A source of texts is strict as it is. -/
theorem strict_custom {render : Renderer} (texts : render.GivesTexts) :
    (custom render).strict = custom render := by
  unfold strict
  dsimp only
  congr
  funext scope
  cases rendered : render scope with
  | error fault => rfl
  | ok raw =>
      obtain ⟨text, rfl⟩ := texts scope raw rendered
      change (if (RawText.ofString text).text?.isSome then _ else _) = _
      rw [RawText.text?_ofString]
      rfl

end TemplateSource

end Template

namespace Generator.Renders

variable {config : Config} {fragments : List FragmentDescriptor} {templates : Templates}
  {document : Document} {texts others : ModuleTexts}

/-- What strict templates make of a document is what the templates make of it. -/
theorem of_strict
    (strict : Renders { config, fragments, templates := templates.strict } document texts) :
    Renders { config, fragments, templates } document texts := by
  constructor
  · exact strict.fragments.imp fun _ _ => Template.TemplateSource.render_of_strict
  · refine strict.operations.imp fun operation own rendered => ⟨?_, ?_⟩
    · exact Template.TemplateSource.render_of_strict rendered.constant
    · have wrapper := rendered.wrapper
      split at wrapper
      · next wrapped =>
          rw [if_pos wrapped]
          exact Template.TemplateSource.render_of_strict wrapper
      · next bare =>
          rw [if_neg bare]
          exact wrapper
  · exact Template.TemplateSource.render_of_strict strict.factory

/-- Templates make the same texts of an operation each time. -/
theorem operation_unique {generator : Generator} {operation : Document.Operation}
    {one other : OperationTexts} (own : generator.RendersOperation operation one)
    (further : generator.RendersOperation operation other) : one = other := by
  have constant : one.constant = other.constant :=
    Except.ok.inj (own.constant.symm.trans further.constant)
  have wrapper : one.wrapper = other.wrapper := by
    have rendered := own.wrapper
    have again := further.wrapper
    split at rendered
    · next wrapped =>
        rw [if_pos wrapped] at again
        exact Except.ok.inj (rendered.symm.trans again)
    · next bare =>
        rw [if_neg bare] at again
        exact rendered.trans again.symm
  cases one
  cases other
  cases constant
  cases wrapper
  rfl

/-- Templates make the same texts of a document each time. -/
theorem unique {generator : Generator} (own : generator.Renders document texts)
    (further : generator.Renders document others) : texts = others := by
  have fragments : texts.fragments.map id = others.fragments.map id :=
    map_eq_of_forall₂ (fun _ _ _ one other => Except.ok.inj (one.symm.trans other))
      own.fragments further.fragments
  have operations : texts.operations.map id = others.operations.map id := by
    refine map_eq_of_forall₂ ?_ own.operations further.operations
    exact fun operation one other => operation_unique
  have factory := Except.ok.inj (own.factory.symm.trans further.factory)
  rw [List.map_id, List.map_id] at fragments operations
  cases texts
  cases others
  cases fragments
  cases operations
  cases factory
  rfl

end Generator.Renders

section Generate

variable {config : Config} {documents : List Document} {filters : List OperationFilter}
  {templates : Templates} {bundle strict : Bundle}

/-- **Strict templates make the module.** A module that can be made with strict templates is the one
that the templates make. -/
theorem generate_eq_of_strict
    (generated : (generate config documents filters templates).2 = .ok bundle)
    (strictly : (generate config documents filters templates.strict).2 = .ok strict) :
    strict = bundle := by
  have module := generate_isModule generated
  have moduleToo := generate_isModule strictly
  obtain ⟨texts, rendered, content⟩ := module.content
  obtain ⟨others, renderedToo, contentToo⟩ := moduleToo.content
  rw [renderedToo.of_strict.unique rendered] at contentToo
  have preamble := moduleToo.preamble.trans module.preamble.symm
  have records := moduleToo.records.trans module.records.symm
  have same := contentToo.trans content.symm
  cases bundle
  cases strict
  cases preamble
  cases records
  cases same
  rfl

end Generate

/-! ## Folders of templates that give texts -/

/-- Whatever the engine renders holds no surrogates. -/
def Template.Engine.GivesTexts (engine : Template.Engine) : Prop :=
  ∀ system path, (engine system path).GivesTexts

namespace FileSystem

variable {system : FileSystem} {engine : Template.Engine} {folder : Option String}
  {templates : Templates}

theorem strict_templateSource (texts : engine.GivesTexts) (path : String) :
    (system.templateSource engine path).strict = system.templateSource engine path := by
  unfold templateSource
  split
  · exact Template.TemplateSource.strict_custom (texts system path)
  · rfl

/-- Templates that an engine of texts renders are strict as they are. -/
theorem strict_templatesWith (texts : engine.GivesTexts)
    (chosen : system.templatesWith engine folder = .ok templates) :
    templates.strict = templates := by
  by_cases inside : system.HasTemplates folder
  · obtain ⟨path, rfl, given, isFolder⟩ := inside
    rw [templatesWith_of_isFolder given isFolder] at chosen
    rw [← Except.ok.inj chosen]
    unfold Templates.strict
    dsimp only
    rw [strict_templateSource texts, strict_templateSource texts, strict_templateSource texts]
  · have short : ¬system.HasLongPath folder := fun long => by
      rw [templatesWith_eq_error.2 ⟨long, rfl⟩] at chosen
      cases chosen
    rw [templatesWith_of_not inside short] at chosen
    rw [← Except.ok.inj chosen]
    rfl

end FileSystem

end TypedClient
