import TypedClient.CommandLine.Run
import TypedClient.Proofs.Source.Loading

/-! # What comes of a request

What a run reports on its way never decides how it goes on (`Command.Ends`). So what comes of a
request is a matter of what it names: the output file, the external fragments, the schema, the
documents and the templates, checked and loaded in this order (`Request.product`, `produce_ends`).
-/

namespace TypedClient.CommandLine

/-! ## Commands and reports -/

namespace Command

variable {α β : Type}

/-- The command has this outcome, whatever was reported before. -/
def Ends (command : Command α) (outcome : Except Ending α) : Prop :=
  ∀ report, (command.run report).1 = outcome

/-- A command goes on with the report of the one before it, unless that has ended the run. -/
theorem run_bind (first : Command α) (next : α → Command β) (report : Report) :
    (first >>= next).run report = match first.run report with
      | (.ok value, said) => (next value).run said
      | (.error ending, said) => (.error ending, said) := by
  rw [ExceptT.run_bind]
  change StateT.bind _ _ report = _
  rw [StateT.bind]
  change (match first.run report with | (result, said) => _) = _
  rcases first.run report with ⟨_ | value, said⟩ <;> rfl

theorem ends_pure (value : α) : (pure value : Command α).Ends (.ok value) :=
  fun _ => rfl

theorem ends_say (line : String) : (say line).Ends (.ok ()) :=
  fun _ => rfl

theorem ends_tell (notices : List Notice) : (tell notices).Ends (.ok ()) :=
  fun _ => rfl

/-- A result ends the run if it is a fault. -/
theorem ends_orEnd {ε : Type} (ending : ε → Ending) (result : Except ε α) :
    (orEnd ending result).Ends (result.mapError ending) := by
  cases result <;> exact fun _ => rfl

/-- One command after another. -/
theorem Ends.bind {first : Command α} {next : α → Command β} {outcome : Except Ending α}
    {later : α → Except Ending β} (here : first.Ends outcome)
    (others : ∀ value, (next value).Ends (later value)) :
    (first >>= next).Ends (outcome >>= later) := by
  intro report
  rw [run_bind, ← here report]
  generalize first.run report = ran
  obtain ⟨result, said⟩ := ran
  cases result with
  | error ending => rfl
  | ok value => exact others value said

/-- A first command that always has a result does not show in the outcome. -/
theorem Ends.after {first : Command α} {next : α → Command β} {value : α}
    {outcome : Except Ending β} (here : first.Ends (.ok value))
    (others : ∀ value, (next value).Ends outcome) : (first >>= next).Ends outcome :=
  here.bind others

/-- A result that is not used can still be a failure. -/
theorem Ends.unused {first : Command α} {next : Unit → Command β} {outcome : Except Ending α}
    {later : Except Ending β} (here : first.Ends outcome) (others : (next ()).Ends later) :
    (discard first >>= next).Ends (outcome >>= fun _ => later) := by
  have same : discard first >>= next = first >>= fun _ => pure () >>= next := by
    change (first >>= fun _ => pure ()) >>= next = _
    rw [bind_assoc]
  rw [same]
  exact here.bind fun _ => (ends_pure ()).after fun _ => others

/-- Several commands that each have a result have one together. -/
theorem ends_forM (items : List α) {act : α → Command Unit}
    (each : ∀ item, (act item).Ends (.ok ())) : (items.forM act).Ends (.ok ()) := by
  induction items with
  | nil => exact ends_pure ()
  | cons item rest ih => exact (each item).after fun _ => ih

/-- What is loaded, with its notices. -/
theorem ends_load (loaded : Loaded α) :
    (load loaded).Ends (loaded.2.mapError Ending.ofLoadFault) :=
  (ends_tell loaded.1).after fun _ => ends_orEnd _ _

end Command

/-! ## The product of a request -/

namespace Request

variable (engine : Template.Engine) (system : FileSystem) (request : Request)

/-- The location of the output file. -/
def location : List String :=
  Path.normalize system.here request.output

/-- The fragments that are declared outside of the generated module. -/
def fragments : Except LoadFault (List FragmentDescriptor) :=
  match request.externalFragments with
  | none => .ok []
  | some path => system.loadExternalFragments path

/-- The configuration of a request, with the fragments that are declared outside. -/
def fullConfig (fragments : List FragmentDescriptor) : Config :=
  { request.config with externalFragments := fragments }

/-- The module for the documents of a request: its text, unless it holds surrogates, and its
bundle. -/
def module (fragments : List FragmentDescriptor) (documents : List DocumentFile) :
    Except Ending (Option String × Bundle) := do
  let templates ← (system.templatesWith engine request.templateDir).mapError (.escaped ∘ .file)
  let bundle ← (TypedClient.generate (request.fullConfig fragments) (documents.map (·.document))
    request.filters templates).2.mapError (.escaped ∘ .generation)
  return (request.moduleText? (request.fullConfig fragments) documents templates, bundle)

/-- What comes of a request, apart from what is said about it. -/
def product : Except Ending Product := do
  let location := request.location system
  (request.config.checkOutput (some (Path.ofLocation location))).mapError
    fun fault => Ending.failed fault.message
  let fragments ← (request.fragments system).mapError Ending.ofLoadFault
  let _ ← (system.loadSchema request.schema).2.mapError Ending.ofLoadFault
  let documents ← (system.loadDocuments request.documents).2.mapError Ending.ofLoadFault
  let (text?, bundle) ← request.module engine system fragments documents
  return ⟨location, text?, bundle.records.length, documents.length⟩

end Request

variable (engine : Template.Engine) (system : FileSystem) (request : Request)

/-- The line about external fragments does not decide on anything. -/
theorem loadFragments_ends :
    (loadFragments system request).Ends
      ((request.fragments system).mapError Ending.ofLoadFault) := by
  unfold loadFragments Request.fragments
  cases request.externalFragments with
  | none => exact Command.ends_pure []
  | some path => exact (Command.ends_say _).after fun _ => Command.ends_orEnd _ _

/-- The notices of the generation do not decide on anything. -/
theorem makeModule_ends (fragments : List FragmentDescriptor) (documents : List DocumentFile) :
    (makeModule engine system request (request.fullConfig fragments) documents).Ends
      (request.module engine system fragments documents) := by
  unfold makeModule Request.module
  refine (Command.ends_orEnd _ _).bind fun templates => ?_
  refine (Command.ends_tell _).after fun _ => ?_
  exact (Command.ends_orEnd _ _).bind fun _ => Command.ends_pure _

/-- **What comes of a request.** -/
theorem produce_ends : (produce engine system request).Ends (request.product engine system) := by
  unfold produce Request.product
  refine (Command.ends_orEnd _ _).bind fun _ => ?_
  refine (loadFragments_ends system request).bind fun fragments => ?_
  refine (Command.ends_say _).after fun _ => ?_
  refine (Command.ends_load _).unused ?_
  refine (Command.ends_say _).after fun _ => ?_
  refine (Command.ends_load _).bind fun documents => ?_
  have rest : (do
      say "Generating code..."
      let made ← makeModule engine system request (request.fullConfig fragments) documents
      return (⟨request.location system, made.1, made.2.records.length, documents.length⟩ :
        Product)).Ends (request.module engine system fragments documents >>= fun made =>
          .ok ⟨request.location system, made.1, made.2.records.length, documents.length⟩) := by
    refine (Command.ends_say _).after fun _ => ?_
    exact (makeModule_ends engine system request fragments documents).bind fun _ =>
      Command.ends_pure _
  -- The names of the documents are listed in a verbose run only.
  split
  · exact (Command.ends_forM documents fun _ => Command.ends_say _).after fun _ => rest
  · exact rest

/-! ## What a request makes -/

/-- All that the request names can be loaded, and the documents make the bundle. The module has this
text, or none that can be encoded. -/
structure Request.Makes (documents : List DocumentFile) (bundle : Bundle)
    (text? : Option String) : Prop where
  output : request.config.checkOutput (some (Path.ofLocation (request.location system))) = .ok ()
  schema : ∃ schema, (system.loadSchema request.schema).2 = .ok schema
  loaded : (system.loadDocuments request.documents).2 = .ok documents
  generated : ∃ fragments templates, request.fragments system = .ok fragments ∧
    system.templatesWith engine request.templateDir = .ok templates ∧
    (TypedClient.generate (request.fullConfig fragments) (documents.map (·.document))
      request.filters templates).2 = .ok bundle ∧
    request.moduleText? (request.fullConfig fragments) documents templates = text?

variable {engine system request}

/-- There is a module exactly if the templates can be found and the generation gives a bundle. -/
theorem Request.module_eq_ok {fragments : List FragmentDescriptor} {documents : List DocumentFile}
    {text? : Option String} {bundle : Bundle} :
    request.module engine system fragments documents = .ok (text?, bundle) ↔
      ∃ templates, system.templatesWith engine request.templateDir = .ok templates ∧
        (TypedClient.generate (request.fullConfig fragments) (documents.map (·.document))
          request.filters templates).2 = .ok bundle ∧
        request.moduleText? (request.fullConfig fragments) documents templates = text? := by
  unfold Request.module
  simp only [bind_eq_ok, mapError_eq_ok]
  constructor
  · rintro ⟨templates, folder, _, generated, ⟨⟩⟩
    exact ⟨templates, folder, generated, rfl⟩
  · rintro ⟨templates, folder, generated, rfl⟩
    exact ⟨templates, folder, bundle, generated, rfl⟩

/-- There is a product exactly if the request makes a bundle. -/
theorem Request.product_eq_ok {product : Product} :
    request.product engine system = .ok product ↔
      ∃ documents bundle text?, request.Makes engine system documents bundle text? ∧
        product = ⟨request.location system, text?, bundle.records.length, documents.length⟩ := by
  unfold Request.product
  simp only [bind_eq_ok, mapError_eq_ok]
  constructor
  · rintro ⟨_, output, fragments, external, schema, loaded, documents, found, ⟨text?, bundle⟩,
      made, ⟨⟩⟩
    obtain ⟨templates, folder, generated, text⟩ := Request.module_eq_ok.1 made
    exact ⟨documents, bundle, text?, ⟨output, ⟨schema, loaded⟩, found, fragments, templates,
      external, folder, generated, text⟩, rfl⟩
  · rintro ⟨documents, bundle, text?, ⟨output, ⟨schema, loaded⟩, found, fragments, templates,
      external, folder, generated, text⟩, rfl⟩
    exact ⟨(), output, fragments, external, schema, loaded, documents, found, (text?, bundle),
      Request.module_eq_ok.2 ⟨templates, folder, generated, text⟩, rfl⟩

end TypedClient.CommandLine
