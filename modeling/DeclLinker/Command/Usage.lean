import DeclLinker.Command.Arguments
import DeclLinker.Command.Help

/-!
# Usage of the command line

The program has one command.  This module holds what is printed about both: the options they know,
their help pages, and the lines above the message for a wrong use.
-/

namespace DeclLinker.Command

/-- Whose usage is meant: that of the program or that of its command. -/
inductive Page where
  | program
  | resolve
  deriving DecidableEq

namespace Page

/-- The words that start the command. -/
def call : Page → String
  | .program => "typelink"
  | .resolve => "typelink resolve"

/-- The usage line. -/
def usageLine : Page → String
  | .program => "Usage: typelink [OPTIONS] COMMAND [ARGS]..."
  | .resolve => "Usage: typelink resolve [OPTIONS] [ROOT]"

/-- What the command does. -/
def summary : Text :=
  "Resolve cross-package type references in generated files.".toList

/-- The help page. -/
def helpPage : Page → HelpPage
  | .program =>
      { usage := (usageLine .program).toList
        paragraphs :=
          ["Typelink - repair cross-package type references in generated declarations.".toList]
        options :=
          [("--version".toList, "Show the version and exit.".toList),
            ("-v, --verbose".toList, "Enable debug logging".toList),
            ("--help".toList, "Show this message and exit.".toList)]
        commands := [("resolve".toList, summary)] }
  | .resolve =>
      { usage := (usageLine .resolve).toList
        paragraphs :=
          [summary,
            "ROOT is the project root holding typelink.yaml. Defaults to the current ".toList ++
              "directory. The generated directory is taken relative to it.".toList]
        options :=
          [("--dry-run".toList, "Report what would change without writing files".toList),
            ("--strict".toList, "Exit with status 3 when references remain unresolved".toList),
            ("--generated-dir DIRECTORY".toList,
              "Directory of generated files (overrides config)".toList),
            ("--help".toList, "Show this message and exit.".toList)]
        commands := [] }

/-- The help page as it is printed. -/
def help (page : Page) (width : Nat) : Text :=
  page.helpPage.render width

/-- What is printed for a wrong use. -/
def complaint (page : Page) (fault : UsageFault) : Text :=
  let message := "Error: ".toList ++ fault.message ++ ['\n']
  if fault.standsAlone then
    message
  else
    page.usageLine.toList ++ "\nTry '".toList ++ page.call.toList ++
      " --help' for help.\n\n".toList ++ message

/-- The options of the program and of its command. -/
def options : Page → List OptionShape
  | .program =>
      [⟨"--version".toList, none, false⟩, ⟨"--verbose".toList, some 'v', false⟩,
        ⟨"--help".toList, none, false⟩]
  | .resolve =>
      [⟨"--dry-run".toList, none, false⟩, ⟨"--strict".toList, none, false⟩,
        ⟨"--generated-dir".toList, none, true⟩, ⟨"--help".toList, none, false⟩]

end Page

/-- The version line. -/
def versionLine : Text := "typelink, version 0.1.0\n".toList

/-- What is asked of the program. -/
inductive Request where
  | showVersion
  | showHelp
  | resolve (verbose : Bool) (arguments : List Text)
  deriving DecidableEq

namespace Request

/-- The names of the commands. -/
def commands : List Text := ["resolve".toList]

/-- What options alone ask for: of those that only show something, the first counts. -/
def ofOptions? (read : Arguments) : Option Request :=
  (read.given.find? fun option => option.name != "--verbose".toList).map fun option =>
    if option.name = "--version".toList then .showVersion else .showHelp

/-- What a name that is no command asks for.  One that looks like an option is read as one, with
all that follows it. -/
def ofUnknown (name : Text) (rest : List Text) : Except UsageFault Request := do
  let unknown := UsageFault.noSuchCommand name (Text.suggestions name commands)
  if Arguments.looksLikeOption name then
    let read ← Arguments.read Page.program.options false (name :: rest)
    match ofOptions? read with
    | some request => .ok request
    | none => .error unknown
  else
    .error unknown

/-- The request that arguments make. -/
def ofArguments (arguments : List Text) : Except UsageFault Request := do
  let read ← Arguments.read Page.program.options false arguments
  match ofOptions? read with
  | some request => .ok request
  | none =>
      match read.operands with
      | [] => .error .missingCommand
      | name :: rest =>
          if commands.contains name then .ok (.resolve (read.has "--verbose".toList) rest)
          else ofUnknown name rest

end Request

end DeclLinker.Command
