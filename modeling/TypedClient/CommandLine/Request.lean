import TypedClient.Config
import TypedClient.Files.Tree
import TypedClient.Text.RawText

/-! # Arguments of the command line

The arguments of the program are read in two steps. First the options are recognized one after the
other, and the first that is not understood ends the reading. Then the values are checked, those
that were given in the order in which they were given and after them the required ones that are
missing. A well-formed command line is a request (`Request`). A path with a null character is no
misuse with a message of its own: looking it up is a fault of the file system.

Whoever asks for the version or for help is shown it once all options are recognized; no value is
checked then, and nothing is missing.

Arguments can hold surrogates. A header is taken with them; of any other argument it is only said
that it is no text, since the names in a file tree are texts.
-/

namespace TypedClient.CommandLine

/-- The options of the `generate` command, in the order in which missing ones are reported. -/
inductive OptionName where
  | schema
  | documents
  | output
  | externalFragments
  | typesFrom
  | mutationPolicy
  | factoryName
  | excludePrefix
  | templateDir
  | header
  | disableChecks
  | verbose
  | help
  deriving DecidableEq, Repr

namespace OptionName

/-- All options. -/
def all : List OptionName :=
  [schema, documents, output, externalFragments, typesFrom, mutationPolicy, factoryName,
    excludePrefix, templateDir, header, disableChecks, verbose, help]

/-- The long form of the option. -/
def long : OptionName → String
  | schema => "--schema"
  | documents => "--documents"
  | output => "--output"
  | externalFragments => "--external-fragments"
  | typesFrom => "--types-from"
  | mutationPolicy => "--mutation-policy"
  | factoryName => "--factory-name"
  | excludePrefix => "--exclude-prefix"
  | templateDir => "--template-dir"
  | header => "--header"
  | disableChecks => "--disable-checks"
  | verbose => "--verbose"
  | help => "--help"

/-- The letter of the short form, if there is one. -/
def short? : OptionName → Option Char
  | schema => some 's'
  | documents => some 'd'
  | output => some 'o'
  | verbose => some 'v'
  | _ => none

/-- The option has a value. -/
def takesValue : OptionName → Bool
  | disableChecks => false
  | verbose => false
  | help => false
  | _ => true

/-- The option has to be given. -/
def isRequired : OptionName → Bool
  | schema => true
  | documents => true
  | output => true
  | _ => false

/-- The option as a message names it. -/
def describe (option : OptionName) : String :=
  match option.short? with
  | some letter => "'" ++ option.long ++ "' / '-" ++ String.singleton letter ++ "'"
  | none => "'" ++ option.long ++ "'"

end OptionName

/-- The part of the command line that a message about usage belongs to. -/
inductive Level where
  | program
  | generate
  deriving DecidableEq, Repr

/-- What the program can be asked to show. -/
inductive Page where
  | version
  | help (level : Level)
  deriving DecidableEq, Repr

/-- The options in front of the command, and what they show. -/
def programPages : List (String × Page) :=
  [("--version", .version), ("--help", .help .program)]

/-- The long options that can be given there. -/
def Level.longOptions : Level → List String
  | program => programPages.map (·.1)
  | generate => OptionName.all.map (·.long)

/-- The commands of the program. -/
def commandNames : List String :=
  ["generate"]

/-- What is wrong with the arguments. -/
inductive UsageFault where
  | noArguments
  | missingCommand
  | noSuchCommand (name : String)
  | noSuchOption (level : Level) (name : String)
  | valueMissing (name : String)
  | valueUnwanted (name : String)
  | optionMissing (option : OptionName)
  | pathMissing (option : OptionName) (path : String)
  | folderIsFile (option : OptionName) (path : String)
  | unknownChoice (option : OptionName) (value : String) (choices : List String)
  | extraArguments (values : List String)
  deriving DecidableEq, Repr

/-- Why the arguments make no request. -/
inductive ArgumentFault where
  | usage (fault : UsageFault)
  | file (fault : FileFault)
  /-- An argument holds surrogates and is no header. What comes of it is not settled here. -/
  | notText
  deriving DecidableEq, Repr

/-- An argument, or a part of it, that has to be a text. -/
def textOf (raw : RawText) : Except ArgumentFault String :=
  match raw.text? with
  | some text => .ok text
  | none => .error .notText

/-- An option as it was given, with its value if it takes one. -/
structure Given where
  option : OptionName
  value : RawText
  deriving DecidableEq, Repr

/-- What an argument that starts with a dash gives: some options, and perhaps one more that still
needs its value, with the form in which it was written. -/
structure Recognized where
  given : List Given
  waiting : Option (OptionName × String) := none

/-! ## Recognizing options -/

/-- The options that a dash and some letters give. The rest behind the letter of an option with a
value is that value. -/
def recognizeLetters : RawText → Except ArgumentFault Recognized
  | [] => .ok ⟨[], none⟩
  | .surrogate _ :: _ => .error .notText
  | .char letter :: rest =>
    let written := "-" ++ String.singleton letter
    match OptionName.all.find? (·.short? == some letter) with
    | none => .error (.usage (.noSuchOption .generate written))
    | some option =>
      if option.takesValue then
        if rest.isEmpty then .ok ⟨[], some (option, written)⟩
        else .ok ⟨[⟨option, rest⟩], none⟩
      else do
        let others ← recognizeLetters rest
        return { others with given := ⟨option, []⟩ :: others.given }

/-- The argument without the value behind an equals sign. -/
def nameIn (argument : RawText) : RawText :=
  argument.takeWhile (· ≠ .char '=')

/-- Two dashes stand in front of the argument. -/
def isLong (argument : RawText) : Bool :=
  (RawText.ofString "--").isPrefixOf argument

/-- The options that an argument gives. A value can follow the long form behind an equals sign. -/
def recognize (argument : RawText) : Except ArgumentFault Recognized :=
  let value? := match argument.dropWhile (· ≠ .char '=') with
    | [] => none
    | _ :: value => some value
  match OptionName.all.find? (RawText.ofString ·.long == nameIn argument), value? with
  | some option, none =>
    if option.takesValue then .ok ⟨[], some (option, option.long)⟩
    else .ok ⟨[⟨option, []⟩], none⟩
  | some option, some value =>
    if option.takesValue then .ok ⟨[⟨option, value⟩], none⟩
    else .error (.usage (.valueUnwanted option.long))
  | none, _ =>
    if isLong argument then do throw (.usage (.noSuchOption .generate (← textOf (nameIn argument))))
    else recognizeLetters (argument.drop 1)

/-- The argument gives options: it starts with a dash and has something behind it. -/
def isOption (argument : RawText) : Bool :=
  argument.head? == some (.char '-') && 1 < argument.length

/-- The options that arguments give and the arguments that give none. Two dashes end the options. -/
def recognizeAll : List RawText → Except ArgumentFault (List Given × List RawText)
  | [] => .ok ([], [])
  | argument :: rest =>
    if argument = RawText.ofString "--" then .ok ([], rest)
    else if isOption argument then do
      let found ← recognize argument
      match found.waiting with
      | none =>
        let (given, extra) ← recognizeAll rest
        return (found.given ++ given, extra)
      | some (option, written) => match rest with
        | [] => throw (.usage (.valueMissing written))
        | value :: rest =>
          let (given, extra) ← recognizeAll rest
          return (found.given ++ ⟨option, value⟩ :: given, extra)
    else do
      let (given, extra) ← recognizeAll rest
      return (given, argument :: extra)

/-! ## Checking values -/

/-- What the `generate` command is asked to do. -/
structure Request where
  schema : String
  documents : List String
  output : String
  externalFragments : Option String
  typesFrom : Option String
  mutationPolicy : MutationPolicy
  factoryName : String
  excludePrefix : Option String
  templateDir : Option String
  header : Option RawText
  disableChecks : Bool
  verbose : Bool

/-- The values given to an option, in order. -/
def valuesOf (given : List Given) (option : OptionName) : List RawText :=
  (given.filter (·.option == option)).map (·.value)

/-- The value of an option that counts, the last one. -/
def valueOf? (given : List Given) (option : OptionName) : Option RawText :=
  (valuesOf given option).getLast?

/-- The values given to an option that are texts, in order. -/
def textsOf (given : List Given) (option : OptionName) : List String :=
  (valuesOf given option).filterMap (·.text?)

/-- The value of an option that counts, if it is a text. -/
def textOf? (given : List Given) (option : OptionName) : Option String :=
  (valueOf? given option).bind (·.text?)

/-- Only a header may hold surrogates. -/
def Given.isReadable (given : Given) : Bool :=
  given.option == .header || given.value.text?.isSome

/-- The value of the option is a path. -/
def OptionName.isPath : OptionName → Bool
  | schema => true
  | output => true
  | externalFragments => true
  | templateDir => true
  | _ => false

/-- What is wrong with the value of an option, if anything is. -/
def valueFault? (system : FileSystem) (option : OptionName) (value : String) : Option UsageFault :=
  match option with
  | .schema | .externalFragments =>
    if system.has value then none else some (.pathMissing option value)
  | .templateDir => if system.isFile value then some (.folderIsFile option value) else none
  | .mutationPolicy =>
    if (MutationPolicy.ofText? value).isSome then none
    else some (.unknownChoice option value (MutationPolicy.all.map (·.text)))
  | _ => none

/-- Checks the value of an option that was given, or that an option may be left out. -/
def checkOption (system : FileSystem) (given : List Given) (option : OptionName) :
    Except ArgumentFault Unit :=
  match textOf? given option with
  | none => if option.isRequired then .error (.usage (.optionMissing option)) else .ok ()
  | some value =>
    if option.isPath && Path.hasNull value then .error (.file .nullCharacter)
    else match valueFault? system option value with
      | some fault => .error (.usage fault)
      | none => .ok ()

/-- The order in which options are checked: first those given, then the others. -/
def checkOrder (given : List Given) : List OptionName :=
  (given.map (·.option) ++ OptionName.all).eraseDups

/-- The request that options make, where `extra` are the arguments that belong to none. -/
def requestOf (system : FileSystem) (given : List Given) (extra : List RawText) :
    Except ArgumentFault Request := do
  unless given.all (·.isReadable) do throw .notText
  (checkOrder given).forM (checkOption system given)
  unless extra.isEmpty do throw (.usage (.extraArguments (← extra.mapM textOf)))
  let plain : Config := {}
  return {
    schema := (textOf? given .schema).getD ""
    documents := textsOf given .documents
    output := (textOf? given .output).getD ""
    externalFragments := textOf? given .externalFragments
    typesFrom := textOf? given .typesFrom
    mutationPolicy := ((textOf? given .mutationPolicy).bind MutationPolicy.ofText?).getD
      plain.mutationPolicy
    factoryName := (textOf? given .factoryName).getD plain.factoryName
    excludePrefix := textOf? given .excludePrefix
    templateDir := textOf? given .templateDir
    header := valueOf? given .header
    disableChecks := (valueOf? given .disableChecks).isSome
    verbose := (valueOf? given .verbose).isSome }

/-- What the program is asked to do. -/
inductive Invocation where
  | showPage (page : Page)
  | generate (request : Request)

/-- What the arguments of the `generate` command ask for. -/
def readGenerate (system : FileSystem) (arguments : List RawText) :
    Except ArgumentFault Invocation := do
  let (given, extra) ← recognizeAll arguments
  if given.any (·.option == .help) then return .showPage (.help .generate)
  return .generate (← requestOf system given extra)

/-- Reads the options in front of the command: the pages that are asked for, in order, and the
arguments from the command on. -/
def readProgramOptions : List RawText → Except ArgumentFault (List Page × List RawText)
  | [] => .ok ([], [])
  | argument :: rest =>
    if argument = RawText.ofString "--" then .ok ([], rest)
    else if isOption argument then do
      let name ← textOf (nameIn argument)
      match programPages.lookup name with
      | some page =>
        if argument = nameIn argument then
          let (pages, command) ← readProgramOptions rest
          return (page :: pages, command)
        else throw (.usage (.valueUnwanted name))
      | none =>
        let written ← if isLong argument then pure name else textOf (argument.take 2)
        throw (.usage (.noSuchOption .program written))
    else .ok ([], argument :: rest)

/-- What the arguments ask the program to do. Of several pages the first is shown. Where an option
stands in the place of the command, as it can behind two dashes, it is read as an option after
all. -/
def readInvocation (system : FileSystem) (arguments : List RawText) :
    Except ArgumentFault Invocation := do
  if arguments.isEmpty then throw (.usage .noArguments)
  match ← readProgramOptions arguments with
  | (page :: _, _) => return .showPage page
  | ([], []) => throw (.usage .missingCommand)
  | ([], command :: rest) =>
    let name ← textOf command
    if name ∈ commandNames then readGenerate system rest
    else match ← readProgramOptions (command :: rest) with
      | (page :: _, _) => return .showPage page
      | ([], _) => throw (.usage (.noSuchCommand name))

end TypedClient.CommandLine
