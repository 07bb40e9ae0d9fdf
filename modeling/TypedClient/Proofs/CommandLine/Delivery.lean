import TypedClient.Files.Change
import TypedClient.Proofs.CommandLine.Arguments
import TypedClient.Proofs.CommandLine.Outcome
import TypedClient.Proofs.Files.Writing
import TypedClient.Proofs.Template.Strict

/-! # What a run writes

A run writes its module or nothing, with one exception. Whatever goes wrong before the output file
is open leaves the file tree as it was; if all goes well, the file of the module is all that is new,
with the folders on the way to it. But the module is encoded when the file is open. If a template or
the header has put surrogates into it, this fails, and an empty file is left behind, in the place of
whatever was there (`run_allOrNothing`, `run_leavesEmptyFile`).

Names that are too long for the system are left aside: a folder in front of one can be made before
the name is refused.
-/

namespace TypedClient.CommandLine

/-! ## Delivering a module -/

namespace Product

variable {product : Product} {root : FileTree}

/-- What a delivery can do: the folders or the file cannot be made, or the file is written and only
its encoding can be at fault. -/
theorem deliver_cases :
    (∃ fault, (product.deliver root).fault = some (.file fault) ∧
      (product.deliver root).tree = root.withFolders product.location.dropLast ∧
      (root.folderFault? product.location.dropLast = some fault ∨
        root.folderFault? product.location.dropLast = none ∧
          (root.withFolders product.location.dropLast).writeFile product.content
            product.location = .error fault)) ∨
    ((product.deliver root).fault = (if product.text?.isNone then some .encoding else none) ∧
      root.folderFault? product.location.dropLast = none ∧
      (root.withFolders product.location.dropLast).writeFile product.content product.location =
        .ok (product.deliver root).tree) := by
  unfold deliver
  dsimp only
  cases root.folderFault? product.location.dropLast with
  | some fault => exact .inl ⟨fault, rfl, rfl, .inl rfl⟩
  | none =>
      dsimp only
      cases (root.withFolders product.location.dropLast).writeFile product.content
          product.location with
      | error fault => exact .inl ⟨fault, rfl, rfl, .inr ⟨rfl, rfl⟩⟩
      | ok written =>
          refine .inr ⟨?_, rfl, ?_⟩
          · dsimp only
            split <;> rfl
          · dsimp only
            split <;> rfl

/-- A delivery fails on its way only where there is no room, and then nothing has changed. -/
theorem deliver_of_file {fault : FileFault} (short : FileTree.HasShortNames product.location)
    (failed : (product.deliver root).fault = some (.file fault)) :
    (product.deliver root).tree = root := by
  have folders : FileTree.HasShortNames product.location.dropLast :=
    fun name member => short name (List.dropLast_subset _ member)
  rcases deliver_cases with ⟨other, _, tree, made | ⟨made, written⟩⟩ | ⟨outcome, _⟩
  · rw [tree]
    refine FileTree.withFolders_eq_of_folderFault made fun long => ?_
    exact FileTree.folderFault_ne_tooLong folders root (long ▸ made)
  · rw [tree]
    have known : other ≠ .tooLong := fun long =>
      FileTree.writeFile_ne_tooLong short _ _ (long ▸ written)
    rcases List.eq_nil_or_concat product.location with empty | ⟨way, name, split⟩
    · rw [empty]
      cases root <;> rfl
    · rw [split, List.concat_eq_append, List.dropLast_concat] at made written ⊢
      exact FileTree.withFolders_eq_of_writeFile made written known
  · rw [outcome] at failed
    split at failed <;> cases failed

/-- A file that is opened is all that the tree gains. -/
theorem gains_of_deliver (opened : ∀ fault, (product.deliver root).fault ≠ some (.file fault)) :
    product.location ≠ [] ∧
      root.Gains (product.deliver root).tree product.location product.content := by
  rcases deliver_cases with ⟨fault, failed, _⟩ | ⟨_, made, written⟩
  · exact absurd failed (opened fault)
  · rcases List.eq_nil_or_concat product.location with empty | ⟨folders, name, split⟩
    · -- Nothing is written in the place of the root.
      rw [empty] at made written
      cases root with
      | file content => cases made
      | folder entries => cases written
    · rw [List.concat_eq_append] at split
      rw [split, List.dropLast_concat] at made written
      rw [split]
      exact ⟨by simp, (FileTree.gains_of_writeFile written).withFolders made⟩

/-- Where there is room, only the encoding can be at fault. -/
theorem deliver_of_hasRoom (short : FileTree.HasShortNames product.location)
    (inside : product.location ≠ []) (room : root.HasRoom product.location) :
    (product.deliver root).fault = if product.text?.isNone then some .encoding else none := by
  obtain ⟨folders, name, split⟩ := (List.eq_nil_or_concat product.location).resolve_left inside
  rw [List.concat_eq_append] at split
  rw [split] at room short
  have made : root.folderFault? folders = none := by
    apply FileTree.folderFault_eq_none (List.forall_mem_append.1 short).1
    intro way onTheWay
    obtain ⟨further, strict⟩ := FileTree.prefix_folders_iff.1 onTheWay
    exact room.way way further strict
  obtain ⟨after, written⟩ : ∃ after, (root.withFolders folders).writeFile product.content
      (folders ++ [name]) = .ok after := by
    apply FileTree.exists_writeFile short
    · intro way onTheWay strict
      exact FileTree.find?_withFolders made (FileTree.prefix_folders_iff.2 ⟨onTheWay, strict⟩)
    · rw [FileTree.find?_withFolders_aside made (FileTree.not_prefix_folders folders name)]
      exact room.place
  rcases deliver_cases with ⟨fault, _, _, stuck | ⟨_, stuck⟩⟩ | ⟨outcome, _⟩
  · rw [split, List.dropLast_concat, made] at stuck
    cases stuck
  · rw [split, List.dropLast_concat, written] at stuck
    cases stuck
  · exact outcome

end Product

/-! ## The text of a module -/

variable {engine : Template.Engine} {system : FileSystem} {request : Request}
  {arguments : List RawText} {documents : List DocumentFile} {bundle : Bundle}

/-- The headers that have to be put above a module are these texts. -/
def Request.HasHeaders (request : Request) (headers : List String) : Prop :=
  request.headers = headers.map RawText.ofString

/-- Headers are read as texts if that is what they are. -/
theorem mapM_text?_eq_some {raws : List RawText} {texts : List String} :
    raws.mapM (·.text?) = some texts ↔ raws = texts.map RawText.ofString := by
  induction raws generalizing texts with
  | nil => cases texts <;> simp
  | cons raw rest ih =>
      rw [List.mapM_cons]
      cases texts with
      | nil => simp [Option.bind_eq_some_iff]
      | cons text others =>
          simp [Option.bind_eq_some_iff, RawText.text?_eq_some, ih]

/-- What is left to be written is the bundle below its headers. -/
theorem Request.text_of_makes {text : String}
    (makes : request.Makes engine system documents bundle (some text)) :
    ∃ headers, request.HasHeaders headers ∧ text = addHeaders bundle.render headers := by
  obtain ⟨fragments, templates, _, _, generated, read⟩ := makes.generated
  unfold Request.moduleText? at read
  obtain ⟨headers, named, read⟩ := Option.bind_eq_some_iff.1 read
  obtain ⟨strict, strictly, last⟩ := Option.bind_eq_some_iff.1 read
  rw [generate_eq_of_strict generated (toOption_eq_some.1 strictly)] at last
  exact ⟨headers, mapM_text?_eq_some.1 named, (Option.some.inj last).symm⟩

/-- A module without a text has surrogates in its header or from its templates. -/
theorem Request.header_of_makes (texts : engine.GivesTexts)
    (makes : request.Makes engine system documents bundle none) :
    ¬∃ headers, request.HasHeaders headers := by
  rintro ⟨headers, named⟩
  obtain ⟨fragments, templates, _, folder, generated, read⟩ := makes.generated
  unfold Request.moduleText? at read
  rw [FileSystem.strict_templatesWith texts folder, generated, mapM_text?_eq_some.2 named] at read
  cases read

/-! ## Runs -/

/-- A request without a product ends the run. -/
theorem runRequest_of_error {ending : Ending}
    (failed : request.product engine system = .error ending) :
    ∃ report, runRequest engine system request =
      endRun request.verbose report ending system.root := by
  have outcome := produce_ends engine system request {}
  rw [failed] at outcome
  unfold runRequest
  generalize (produce engine system request).run {} = ran at outcome
  obtain ⟨result, report⟩ := ran
  cases outcome
  exact ⟨report, rfl⟩

/-- A request with a product ends with its delivery. -/
theorem runRequest_of_ok {product : Product}
    (made : request.product engine system = .ok product) :
    (runRequest engine system request).exitCode =
        (if (product.deliver system.root).fault.isSome then 1 else 0) ∧
      (runRequest engine system request).escaped = (product.deliver system.root).fault ∧
      (runRequest engine system request).tree = (product.deliver system.root).tree := by
  have outcome := produce_ends engine system request {}
  rw [made] at outcome
  unfold runRequest
  generalize (produce engine system request).run {} = ran at outcome
  obtain ⟨result, report⟩ := ran
  cases outcome
  exact ⟨rfl, rfl, rfl⟩

/-- A run that does not end well has an exit code that says so. -/
theorem Ending.exitCode_ne_zero (ending : Ending) : ending.exitCode ≠ 0 := by
  cases ending <;> exact fun same => by cases same

/-- The run does not end because a text cannot be encoded. -/
def Ending.SparesEncoding (ending : Ending) : Prop :=
  ending.escapedFault? ≠ some .encoding

/-- Nothing that is loaded is encoded. -/
theorem Ending.ofLoadFault_sparesEncoding (fault : LoadFault) :
    (Ending.ofLoadFault fault).SparesEncoding := by
  cases fault <;> exact fun same => by cases same

/-- Whatever keeps a request from having a product, it is not the encoding of its text. -/
theorem Request.product_sparesEncoding :
    ∀ ending, request.product engine system = .error ending → ending.SparesEncoding := by
  have loads {α : Type} (loaded : Except LoadFault α) :
      ∀ ending, loaded.mapError Ending.ofLoadFault = .error ending → ending.SparesEncoding :=
    forall_error_mapError fun _ => Ending.ofLoadFault_sparesEncoding _
  have made (fragments : List FragmentDescriptor) (documents : List DocumentFile) :
      ∀ ending, request.module engine system fragments documents = .error ending →
        ending.SparesEncoding := by
    refine forall_error_bind (forall_error_mapError fun _ same => by cases same) fun _ => ?_
    exact forall_error_bind (forall_error_mapError fun _ same => by cases same) fun _ _ same => by
      cases same
  refine forall_error_bind (forall_error_mapError fun _ same => by cases same) fun _ => ?_
  refine forall_error_bind (loads _) fun fragments => ?_
  refine forall_error_bind (loads _) fun _ => ?_
  refine forall_error_bind (loads _) fun documents => ?_
  exact forall_error_bind (made fragments documents) fun _ _ same => by cases same

/-- With room for the file, only the text of the module can be at fault. -/
theorem runRequest_of_makes {text? : Option String}
    (short : FileTree.HasShortNames (request.location system))
    (makes : request.Makes engine system documents bundle text?)
    (inside : request.location system ≠ []) (room : system.root.HasRoom (request.location system)) :
    (runRequest engine system request).escaped =
        (if text?.isNone then some .encoding else none) ∧
      (runRequest engine system request).exitCode = if text?.isNone then 1 else 0 := by
  obtain ⟨exit, escaped, -⟩ :=
    runRequest_of_ok (Request.product_eq_ok.2 ⟨documents, bundle, text?, makes, rfl⟩)
  rw [escaped, exit, Product.deliver_of_hasRoom short inside room]
  cases text? <;> exact ⟨rfl, rfl⟩

/-- A run that does not fail before the file is open has made a module. What is new is the file,
with the text of the module if it has one. -/
theorem runRequest_opened (opened : (runRequest engine system request).exitCode = 0 ∨
      (runRequest engine system request).escaped = some .encoding) :
    ∃ documents bundle text?, request.Makes engine system documents bundle text? ∧
      request.location system ≠ [] ∧
      system.root.Gains (runRequest engine system request).tree (request.location system)
        (text?.getD "").toUTF8 ∧
      (runRequest engine system request).escaped =
        (if text?.isNone then some .encoding else none) ∧
      (runRequest engine system request).exitCode = if text?.isNone then 1 else 0 := by
  cases outcome : request.product engine system with
  | error ending =>
      obtain ⟨report, ended⟩ := runRequest_of_error outcome
      rw [ended] at opened
      exact absurd opened
        (not_or_intro ending.exitCode_ne_zero (Request.product_sparesEncoding ending outcome))
  | ok product =>
      obtain ⟨exit, escaped, tree⟩ := runRequest_of_ok outcome
      rw [exit, escaped] at opened
      have noFile : ∀ fault, (product.deliver system.root).fault ≠ some (.file fault) := by
        intro fault failed
        rw [failed] at opened
        rcases opened with done | other
        · cases done
        · cases other
      obtain ⟨inside, gains⟩ := Product.gains_of_deliver noFile
      have encoded : (product.deliver system.root).fault =
          if product.text?.isNone then some .encoding else none := by
        rcases Product.deliver_cases with ⟨fault, failed, -⟩ | ⟨encoded, -⟩
        · exact absurd failed (noFile fault)
        · exact encoded
      obtain ⟨documents, bundle, text?, makes, rfl⟩ := Request.product_eq_ok.1 outcome
      rw [escaped, exit, tree, encoded]
      refine ⟨documents, bundle, text?, makes, inside, gains, rfl, ?_⟩
      cases text? <;> rfl

/-- A run that fulfills a request without an error writes the module. -/
theorem runRequest_gains (done : (runRequest engine system request).exitCode = 0) :
    (runRequest engine system request).escaped = none ∧ request.location system ≠ [] ∧
      ∃ documents bundle headers, request.HasHeaders headers ∧
        request.Makes engine system documents bundle (some (addHeaders bundle.render headers)) ∧
        system.root.Gains (runRequest engine system request).tree (request.location system)
          (addHeaders bundle.render headers).toUTF8 := by
  obtain ⟨documents, bundle, text?, makes, inside, gains, escaped, exit⟩ :=
    runRequest_opened (.inl done)
  cases text? with
  | none =>
      rw [exit] at done
      cases done
  | some text =>
      obtain ⟨headers, named, rfl⟩ := Request.text_of_makes makes
      exact ⟨escaped, inside, documents, bundle, headers, named, makes, gains⟩

/-- There is no error exactly if there are a module with a text and room for it. -/
theorem runRequest_succeeds_iff (short : FileTree.HasShortNames (request.location system)) :
    (runRequest engine system request).exitCode = 0 ↔
      (∃ documents bundle text, request.Makes engine system documents bundle (some text)) ∧
        request.location system ≠ [] ∧ system.root.HasRoom (request.location system) := by
  constructor
  · intro done
    obtain ⟨-, inside, documents, bundle, headers, -, makes, gains⟩ := runRequest_gains done
    exact ⟨⟨documents, bundle, _, makes⟩, inside, gains.room⟩
  · rintro ⟨⟨documents, bundle, text, makes⟩, inside, room⟩
    exact (runRequest_of_makes short makes inside room).2

/-- The encoding fails exactly if there are a module without a text and room for it. -/
theorem runRequest_encoding_iff (short : FileTree.HasShortNames (request.location system)) :
    (runRequest engine system request).escaped = some .encoding ↔
      (∃ documents bundle, request.Makes engine system documents bundle none) ∧
        request.location system ≠ [] ∧ system.root.HasRoom (request.location system) := by
  constructor
  · intro failed
    obtain ⟨documents, bundle, text?, makes, inside, gains, escaped, -⟩ :=
      runRequest_opened (.inr failed)
    cases text? with
    | none => exact ⟨⟨documents, bundle, makes⟩, inside, gains.room⟩
    | some text =>
        rw [failed] at escaped
        cases escaped
  · rintro ⟨⟨documents, bundle, makes⟩, inside, room⟩
    exact (runRequest_of_makes short makes inside room).1

/-- A run that cannot encode the module leaves an empty file. -/
theorem runRequest_emptied
    (failed : (runRequest engine system request).escaped = some .encoding) :
    (runRequest engine system request).exitCode = 1 ∧
      system.root.Gains (runRequest engine system request).tree (request.location system)
        ByteArray.empty := by
  obtain ⟨documents, bundle, text?, makes, inside, gains, escaped, exit⟩ :=
    runRequest_opened (.inr failed)
  cases text? with
  | none => exact ⟨exit, gains⟩
  | some text =>
      rw [failed] at escaped
      cases escaped

/-- Any other error leaves everything as it was. -/
theorem runRequest_unchanged (short : FileTree.HasShortNames (request.location system))
    (unwell : (runRequest engine system request).exitCode ≠ 0)
    (encoded : (runRequest engine system request).escaped ≠ some .encoding) :
    (runRequest engine system request).tree = system.root := by
  cases outcome : request.product engine system with
  | error ending =>
      obtain ⟨report, ended⟩ := runRequest_of_error outcome
      rw [ended]
      rfl
  | ok product =>
      obtain ⟨exit, escaped, tree⟩ := runRequest_of_ok outcome
      rw [tree]
      obtain ⟨documents, bundle, text?, makes, rfl⟩ := Request.product_eq_ok.1 outcome
      rcases Product.deliver_cases with ⟨fault, failed, -⟩ | ⟨outcome, -⟩
      · exact Product.deliver_of_file short failed
      · rw [exit, outcome] at unwell
        rw [escaped, outcome] at encoded
        split at encoded
        · exact absurd rfl encoded
        · next read => rw [if_neg read] at unwell; exact absurd rfl unwell

/-- The output file is checked before anything else is looked at. -/
theorem runRequest_refused (checked : request.disableChecks = false)
    (other : Path.extension (Path.ofLocation (request.location system)) ∉ outputExtensions) :
    runRequest engine system request =
      ⟨"", "Error: " ++ OutputFault.wrongExtension.message ++ "\n", 1, none, system.root⟩ := by
  have refused : request.config.checkOutput (some (Path.ofLocation (request.location system))) =
      .error .wrongExtension := by
    unfold Config.checkOutput Request.config
    dsimp only
    rw [checked, if_neg Bool.false_ne_true, if_neg other]
  have ended : (produce engine system request).run {} =
      (.error (.failed OutputFault.wrongExtension.message), {}) := by
    unfold produce
    dsimp only
    rw [Command.run_bind]
    change request.config.checkOutput
      (some (Path.ofLocation (Path.normalize system.here request.output))) = _ at refused
    rw [refused]
    rfl
  unfold runRequest
  rw [ended]
  unfold endRun noticeText
  cases request.verbose <;> rfl

/-- Only arguments that are not read as texts end a run with a fault of the encoding before
anything is made. -/
theorem Ending.ofArgumentFault_sparesEncoding {fault : ArgumentFault} (texts : fault ≠ .notText) :
    (Ending.ofArgumentFault fault).SparesEncoding := by
  cases fault with
  | usage fault => exact fun same => by cases same
  | file fault => exact fun same => by cases same
  | notText => exact absurd rfl texts

/-! ## The main statement -/

/-- What a run does to a file tree. -/
structure AllOrNothing (engine : Template.Engine) (system : FileSystem) (arguments : List RawText)
    (result : RunResult) : Prop where
  /-- An error leaves everything as it was, unless the text of the module cannot be encoded. -/
  failed : result.exitCode ≠ 0 → result.escaped ≠ some .encoding → result.tree = system.root
  /-- A module that cannot be encoded leaves an empty file where it should be. -/
  emptied : result.escaped = some .encoding → result.exitCode = 1 ∧
    ∃ request, readInvocation system arguments = .ok (.generate request) ∧
      system.root.Gains result.tree (request.location system) ByteArray.empty
  /-- Without an error a page was asked for, and nothing has changed, or the file of the module is
  all that is new, with the folders on the way to it. -/
  succeeded : result.exitCode = 0 → result.escaped = none ∧
    ((∃ page, readInvocation system arguments = .ok (.showPage page) ∧
        result.tree = system.root) ∨
      ∃ request documents bundle headers,
        readInvocation system arguments = .ok (.generate request) ∧
        request.HasHeaders headers ∧
        request.Makes engine system documents bundle (some (addHeaders bundle.render headers)) ∧
        system.root.Gains result.tree (request.location system)
          (addHeaders bundle.render headers).toUTF8)
  /-- A request is fulfilled exactly if there are a module with a text and room for it. -/
  succeeds_iff : ∀ request, readInvocation system arguments = .ok (.generate request) →
    (result.exitCode = 0 ↔
      (∃ documents bundle text, request.Makes engine system documents bundle (some text)) ∧
        request.location system ≠ [] ∧ system.root.HasRoom (request.location system))
  /-- The encoding fails exactly if there are a module without a text and room for it. -/
  encoding_iff : ∀ request, readInvocation system arguments = .ok (.generate request) →
    (result.escaped = some .encoding ↔
      (∃ documents bundle, request.Makes engine system documents bundle none) ∧
        request.location system ≠ [] ∧ system.root.HasRoom (request.location system))
  /-- Where all templates give texts, the header is to blame for that. -/
  blamed : engine.GivesTexts → ∀ request,
    readInvocation system arguments = .ok (.generate request) →
    result.escaped = some .encoding → ¬∃ headers, request.HasHeaders headers
  /-- A wrong extension is the error of the run, whatever else there is. -/
  refused : ∀ request, readInvocation system arguments = .ok (.generate request) →
    request.disableChecks = false →
    Path.extension (Path.ofLocation (request.location system)) ∉ outputExtensions →
    result = ⟨"", "Error: " ++ OutputFault.wrongExtension.message ++ "\n", 1, none, system.root⟩

/-- A run that shows something, or does not understand its arguments, changes nothing. -/
theorem AllOrNothing.of_tree {result : RunResult} (tree : result.tree = system.root)
    (spared : result.escaped ≠ some .encoding)
    (shown : result.exitCode = 0 → result.escaped = none ∧
      ∃ page, readInvocation system arguments = .ok (.showPage page))
    (asks : ∀ request, readInvocation system arguments ≠ .ok (.generate request)) :
    AllOrNothing engine system arguments result where
  failed _ _ := tree
  emptied failed := absurd failed spared
  succeeded done :=
    have ⟨escaped, page, read⟩ := shown done
    ⟨escaped, .inl ⟨page, read, tree⟩⟩
  succeeds_iff request read := absurd read (asks request)
  encoding_iff request read := absurd read (asks request)
  blamed _ request read := absurd read (asks request)
  refused request read := absurd read (asks request)

/-- A request is fulfilled, or an error leaves everything as it was, apart from an empty file. -/
theorem AllOrNothing.of_request (read : readInvocation system arguments = .ok (.generate request))
    (short : FileTree.HasShortNames (request.location system)) :
    AllOrNothing engine system arguments (runRequest engine system request) := by
  have only : ∀ other, readInvocation system arguments = .ok (.generate other) →
      other = request := by
    intro other same
    rw [read] at same
    cases same
    rfl
  constructor
  · exact runRequest_unchanged short
  · intro failed
    obtain ⟨exit, gains⟩ := runRequest_emptied failed
    exact ⟨exit, request, read, gains⟩
  · intro done
    obtain ⟨escaped, -, documents, bundle, headers, named, makes, gains⟩ := runRequest_gains done
    exact ⟨escaped, .inr ⟨request, documents, bundle, headers, read, named, makes, gains⟩⟩
  · intro other same
    rw [only other same]
    exact runRequest_succeeds_iff short
  · intro other same
    rw [only other same]
    exact runRequest_encoding_iff short
  · intro texts other same failed
    rw [only other same]
    obtain ⟨⟨documents, bundle, makes⟩, -⟩ := (runRequest_encoding_iff short).1 failed
    exact Request.header_of_makes texts makes
  · intro other same
    rw [only other same]
    exact runRequest_refused

/-- **All or nothing.** As long as the arguments are texts, apart from the header, and no name on
the way to the output file is too long for the system, a run writes its module or nothing, but for
the empty file of a module that cannot be encoded. -/
theorem run_allOrNothing (engine : Template.Engine) (system : FileSystem)
    (arguments : List RawText) (texts : readInvocation system arguments ≠ .error .notText)
    (short : ∀ request, readInvocation system arguments = .ok (.generate request) →
      FileTree.HasShortNames (request.location system)) :
    AllOrNothing engine system arguments (run engine system arguments) := by
  unfold run
  cases read : readInvocation system arguments with
  | error fault =>
      have known : fault ≠ .notText := fun same => texts (same ▸ read)
      refine AllOrNothing.of_tree rfl ?_ ?_ ?_
      · exact Ending.ofArgumentFault_sparesEncoding known
      · exact fun done => absurd done (Ending.ofArgumentFault fault).exitCode_ne_zero
      · exact fun request same => by rw [read] at same; cases same
  | ok invocation =>
      cases invocation with
      | showPage page =>
          refine AllOrNothing.of_tree rfl ?_ ?_ ?_
          · exact fun same => by cases same
          · exact fun _ => ⟨rfl, page, read⟩
          · exact fun request same => by rw [read] at same; cases same
      | generate request => exact AllOrNothing.of_request read (short request read)

/-- The location that the arguments give for the output file. -/
def Invocation.location? (system : FileSystem) : Invocation → Option (List String)
  | .showPage _ => none
  | .generate request => some (request.location system)

/-- A folder with a schema, a document and perhaps more. -/
def sourceFolder (more : List (String × FileTree)) : FileSystem :=
  ⟨.folder ([("s.graphql", .file "type Query { a: Int }".toUTF8),
    ("d.graphql", .file "query Q { a }".toUTF8)] ++ more), []⟩

/-- Arguments that ask for a module in a file, and more. -/
def moduleArguments (output : String) (more : List String) : List RawText :=
  (["generate", "-s", "s.graphql", "-d", "d.graphql", "-o", output] ++ more).map RawText.ofString

theorem run_allOrNothing_newFolder :
    let system := sourceFolder []
    let arguments := moduleArguments "out/client.ts" []
    readInvocation system arguments ≠ .error .notText ∧
      (∀ request, readInvocation system arguments = .ok (.generate request) →
        FileTree.HasShortNames (request.location system)) ∧
      (run Template.plainEngine system arguments).exitCode = 0 ∧
      AllOrNothing Template.plainEngine system arguments
        (run Template.plainEngine system arguments) := by
  intro system arguments
  have located : (readInvocation system arguments).toOption.bind (·.location? system) =
      some ["out", "client.ts"] := by decide +kernel
  have texts : readInvocation system arguments ≠ .error .notText := by
    refine readInvocation_ne_notText fun argument member => ?_
    obtain ⟨text, -, rfl⟩ := List.mem_map.1 member
    exact RawText.isText_ofString text
  have short : ∀ request, readInvocation system arguments = .ok (.generate request) →
      FileTree.HasShortNames (request.location system) := by
    intro request read
    rw [read] at located
    rw [Option.some.inj located]
    unfold FileTree.HasShortNames
    decide
  exact ⟨texts, short, by decide +kernel,
    run_allOrNothing Template.plainEngine system arguments texts short⟩

/-- A template that writes a surrogate as an escape leaves an empty file in the place of the one
that was there. -/
theorem run_leavesEmptyFile :
    let template := FileTree.file "\x7b\x7b \"\\ud800\" \x7d\x7d".toUTF8
    let system := sourceFolder
      [("client.ts", .file "old".toUTF8), ("t", .folder [("document.ts.j2", template)])]
    let arguments := moduleArguments "client.ts" ["--template-dir", "t"]
    let result := run Template.plainEngine system arguments
    result.exitCode = 1 ∧ result.escaped = some .encoding ∧ result.tree ≠ system.root ∧
      (system.root.find? ["client.ts"]).bind (·.content?) = some "old".toUTF8 ∧
      (result.tree.find? ["client.ts"]).bind (·.content?) = some ByteArray.empty := by
  intro template system arguments result
  have exit : result.exitCode = 1 := by decide +kernel
  have escaped : result.escaped = some .encoding := by decide +kernel
  have before : (system.root.find? ["client.ts"]).bind (·.content?) = some "old".toUTF8 := by
    decide +kernel
  have after : (result.tree.find? ["client.ts"]).bind (·.content?) = some ByteArray.empty := by
    decide +kernel
  refine ⟨exit, escaped, fun same => ?_, before, after⟩
  rw [same, before] at after
  exact absurd after (by decide +kernel)

end TypedClient.CommandLine
