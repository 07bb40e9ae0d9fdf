import TypedClient.CommandLine.Request
import TypedClient.Text.Quoted
import TypedClient.Text.Similarity

/-! # Messages about usage

What the program shows about itself, and how it answers arguments that it does not understand.
-/

namespace TypedClient.CommandLine

/-- The name and version of the program. -/
def versionText : String :=
  "main, version 0.1.0\n"

/-- The summary of the program. -/
def helpText : String :=
  String.join ["Usage: main [OPTIONS] COMMAND [ARGS]...\n\n",
    "  GraphQL to TypeScript client wrapper generator.\n\n",
    "  Generate typed Apollo Client functions from GraphQL documents.\n\n",
    "Options:\n",
    "  --version  Show the version and exit.\n",
    "  --help     Show this message and exit.\n\n",
    "Commands:\n",
    "  generate  Generate TypeScript client wrappers from GraphQL documents.\n"]

/-- The summary of the `generate` command. -/
def generateHelpText : String :=
  String.join ["Usage: main generate [OPTIONS]\n\n",
    "  Generate TypeScript client wrappers from GraphQL documents.\n\n",
    "  Examples:\n\n",
    "      gql-tsgen generate -s ./schema.graphql -d 'src/**/*.graphql' -o\n",
    "      ./src/client.ts\n\n",
    "      gql-tsgen generate -s ./schema -d ./queries -o ./client.ts --types-from\n",
    "      ./types\n\n",
    "Options:\n",
    "  -s, --schema PATH               Path to GraphQL schema file or directory.\n",
    "                                  [required]\n",
    "  -d, --documents TEXT            Document file, directory or glob pattern\n",
    "                                  (repeatable).  [required]\n",
    "  -o, --output PATH               Output TypeScript file (e.g.,\n",
    "                                  src/graphql/client.ts).  [required]\n",
    "  --external-fragments PATH       Document with fragments declared outside the\n",
    "                                  generated file.\n",
    "  --types-from TEXT               Module exporting the operation types,\n",
    "                                  imported as a namespace.\n",
    "  --mutation-policy [record-only|exclude|emit]\n",
    "                                  What to generate for mutations.  [default:\n",
    "                                  record-only]\n",
    "  --factory-name TEXT             Name of the exported factory.  [default:\n",
    "                                  graphQlClient]\n",
    "  --exclude-prefix TEXT           Skip operations whose names start with this\n",
    "                                  prefix.\n",
    "  --template-dir DIRECTORY        Directory with templates overriding the\n",
    "                                  built-in ones.\n",
    "  --header TEXT                   Text added at the top of the generated file.\n",
    "  --disable-checks                Skip the output file extension check.\n",
    "  -v, --verbose                   Enable verbose output.\n",
    "  --help                          Show this message and exit.\n"]

/-- The text of a page. -/
def Page.text : Page → String
  | version => versionText
  | help .program => helpText
  | help .generate => generateHelpText

/-- The lines that say how a part of the command line is used. -/
def usageLines : Level → String
  | .program =>
    "Usage: main [OPTIONS] COMMAND [ARGS]...\nTry 'main --help' for help.\n\n"
  | .generate =>
    "Usage: main generate [OPTIONS]\nTry 'main generate --help' for help.\n\n"

/-- What is wrong with the value of an option. -/
def invalidValue (option : OptionName) (reason : String) : String :=
  "Invalid value for " ++ option.describe ++ ": " ++ reason

/-- The question behind a message about an unknown word, empty if no known word is close to it. -/
def didYouMean (word : String) (known : List String) : String :=
  match (Text.closeOptions word known).map Text.quoted with
  | [] => ""
  | [only] => " Did you mean " ++ only ++ "?"
  | several => " (Did you mean one of: " ++ String.intercalate ", " several ++ "?)"

namespace UsageFault

/-- The part of the command line whose usage is shown with the fault, if any. -/
def level? : UsageFault → Option Level
  | noArguments => none
  | missingCommand => some .program
  | noSuchCommand _ => some .program
  | noSuchOption level _ => some level
  | valueMissing _ => none
  | valueUnwanted _ => none
  | _ => some .generate

/-- The fault in words. -/
def message : UsageFault → String
  | noArguments => ""
  | missingCommand => "Missing command."
  | noSuchCommand name =>
    "No such command " ++ Text.quoted name ++ "." ++ didYouMean name commandNames
  | noSuchOption level name =>
    "No such option " ++ Text.quoted name ++ "." ++ didYouMean name level.longOptions
  | valueMissing name => "Option " ++ Text.quoted name ++ " requires an argument."
  | valueUnwanted name => "Option " ++ Text.quoted name ++ " does not take a value."
  | optionMissing option => "Missing option " ++ option.describe ++ "."
  | pathMissing option path =>
    invalidValue option ("Path " ++ Text.quoted path ++ " does not exist.")
  | folderIsFile option path =>
    invalidValue option ("Directory " ++ Text.quoted path ++ " is a file.")
  | unknownChoice option value choices =>
    invalidValue option (Text.quoted value ++ " is not one of " ++
      String.intercalate ", " (choices.map Text.quoted) ++ ".")
  | extraArguments values =>
    "Got unexpected extra argument" ++ (if values.length = 1 then " (" else "s (") ++
      String.intercalate " " values ++ ")"

/-- The whole answer to the fault. Without arguments it is the summary of the program. -/
def report (fault : UsageFault) : String :=
  match fault with
  | noArguments => helpText
  | _ => fault.level?.elim "" usageLines ++ "Error: " ++ fault.message ++ "\n"

end UsageFault

end TypedClient.CommandLine
