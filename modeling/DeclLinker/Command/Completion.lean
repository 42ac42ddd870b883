import DeclLinker.Command.Usage
import DeclLinker.Text.ShellWords

/-!
# Completion of a command line

A shell may ask the program what could stand next in a line that is being written, or for the script
that makes it ask.  The line and the place in it come from the environment.
-/

namespace DeclLinker.Command

/-- The shells that can be helped. -/
inductive Shell where
  | bash
  | zsh
  | fish
  deriving DecidableEq

/-- Why no answer can be given: a variable is not there, or no number. -/
inductive CompletionFault where
  | missing (name : Text)
  | notNumber (fault : NumeralFault)
  deriving DecidableEq

/-- The message for a fault. -/
def CompletionFault.message : CompletionFault → Text
  | .missing name => name.quoted
  | .notNumber fault => fault.message

/-- What could stand next: a word, perhaps with a text about it, or the name of a directory. -/
inductive Suggestion where
  | word (text : Text) (about? : Option Text)
  | directory (start : Text)
  deriving DecidableEq

namespace Shell

/-- The shell with a name. -/
def ofName? (name : Text) : Option Shell :=
  [("bash".toList, Shell.bash), ("zsh".toList, .zsh), ("fish".toList, .fish)].lookup name

/-- The kind of a suggestion, its text, and what is said about it. -/
def parts : Suggestion → Text × Text × Option Text
  | .word text about? => ("plain".toList, text, about?)
  | .directory start => ("dir".toList, start, none)

/-- A suggestion in the form that a shell reads. -/
def format (shell : Shell) (suggestion : Suggestion) : Text :=
  let (kind, text, about?) := parts suggestion
  match shell, about? with
  | .bash, _ | .fish, none => kind ++ ',' :: text
  | .fish, some about => kind ++ ',' :: text ++ '\t' :: about
  | .zsh, _ => kind ++ '\n' :: text ++ '\n' :: about?.getD ['_']

/-- The script that makes a shell ask for suggestions. -/
def script : Shell → List String
  | .bash =>
      ["_typelink_completion() \x7b",
        "    local IFS=$'\\n'",
        "    local response",
        "",
        "    response=$(env COMP_WORDS=\"$\x7bCOMP_WORDS[*]\x7d\" COMP_CWORD=$COMP_CWORD " ++
          "_TYPELINK_COMPLETE=bash_complete $1)",
        "",
        "    for completion in $response; do",
        "        IFS=',' read type value <<< \"$completion\"",
        "",
        "        if [[ $type == 'dir' ]]; then",
        "            COMPREPLY=()",
        "            compopt -o dirnames",
        "        elif [[ $type == 'file' ]]; then",
        "            COMPREPLY=()",
        "            compopt -o default",
        "        elif [[ $type == 'plain' ]]; then",
        "            COMPREPLY+=($value)",
        "        fi",
        "    done",
        "",
        "    return 0",
        "\x7d",
        "",
        "_typelink_completion_setup() \x7b",
        "    complete -o nosort -F _typelink_completion typelink",
        "\x7d",
        "",
        "_typelink_completion_setup;",
        ""]
  | .zsh =>
      ["#compdef typelink",
        "",
        "_typelink_completion() \x7b",
        "    local -a completions",
        "    local -a completions_with_descriptions",
        "    local -a response",
        "    (( ! $+commands[typelink] )) && return 1",
        "",
        "    response=(\"$\x7b(@f)$(env COMP_WORDS=\"$\x7bwords[*]\x7d\" " ++
          "COMP_CWORD=$((CURRENT-1)) _TYPELINK_COMPLETE=zsh_complete typelink)\x7d\")",
        "",
        "    for type key descr in $\x7bresponse\x7d; do",
        "        if [[ \"$type\" == \"plain\" ]]; then",
        "            if [[ \"$descr\" == \"_\" ]]; then",
        "                completions+=(\"$key\")",
        "            else",
        "                completions_with_descriptions+=(\"$key\":\"$descr\")",
        "            fi",
        "        elif [[ \"$type\" == \"dir\" ]]; then",
        "            _path_files -/",
        "        elif [[ \"$type\" == \"file\" ]]; then",
        "            _path_files -f",
        "        fi",
        "    done",
        "",
        "    if [ -n \"$completions_with_descriptions\" ]; then",
        "        _describe -V unsorted completions_with_descriptions -U",
        "    fi",
        "",
        "    if [ -n \"$completions\" ]; then",
        "        compadd -U -V unsorted -a completions",
        "    fi",
        "\x7d",
        "",
        "if [[ $zsh_eval_context[-1] == loadautofunc ]]; then",
        "    # autoload from fpath, call function directly",
        "    _typelink_completion \"$@\"",
        "else",
        "    # eval/source/. command, register function for later",
        "    compdef _typelink_completion typelink",
        "fi",
        ""]
  | .fish =>
      ["function _typelink_completion;",
        "    set -l response (env _TYPELINK_COMPLETE=fish_complete COMP_WORDS=(commandline -cp) " ++
          "COMP_CWORD=(commandline -t) typelink);",
        "",
        "    for completion in $response;",
        "        set -l metadata (string split \",\" $completion);",
        "",
        "        if test $metadata[1] = \"dir\";",
        "            __fish_complete_directories $metadata[2];",
        "        else if test $metadata[1] = \"file\";",
        "            __fish_complete_path $metadata[2];",
        "        else if test $metadata[1] = \"plain\";",
        "            echo $metadata[2];",
        "        end;",
        "    end;",
        "end;",
        "",
        "complete --no-files --command typelink --arguments \"(_typelink_completion)\";",
        ""]

end Shell

namespace Completion

/-! ## The line -/

/-- The words before the one that is being written, and that one. -/
structure Line where
  before : List Text
  current : Text

/-- A variable that has to be there. -/
def required (environment : List (Text × Text)) (name : String) : Except CompletionFault Text :=
  match environment.lookup name.toList with
  | some text => .ok text
  | none => .error (.missing name.toList)

/-- A position counted from the end where it is negative. -/
def position (count : Nat) (index : Int) : Int :=
  if index < 0 then index + count else index

/-- The line when a place in it is given by a number. -/
def lineAt (words : List Text) (index : Int) : Line :=
  let index := position words.length index
  ⟨(words.take index.toNat).drop 1,
    if index < 0 then [] else (words[index.toNat]?).getD []⟩

/-- The line when the word that is being written is given by itself. -/
def lineWith (words : List Text) (current : Text) : Line :=
  let current := ((Text.shellWords current).head?).getD []
  let before := words.drop 1
  ⟨if !current.isEmpty && before.getLast? = some current then before.dropLast else before, current⟩

/-- The line that the environment tells of. -/
def line (shell : Shell) (environment : List (Text × Text)) : Except CompletionFault Line := do
  let words := Text.shellWords (← required environment "COMP_WORDS")
  let place ← required environment "COMP_CWORD"
  if shell = .fish then
    pure (lineWith words place)
  else
    let index ← (Numeral.read 10 place).mapError .notNumber
    pure (lineAt words index)

/-! ## Suggestions -/

/-- As many arguments from the start on as can be read; those that are no options count only where
all can be. -/
def readSome (shapes : List OptionShape) (mixed : Bool) (arguments : List Text) : Arguments :=
  match Arguments.read shapes mixed arguments with
  | .ok read => read
  | .error _ =>
      let starts := (List.range arguments.length).reverse.map arguments.take
      let given := starts.findSome? fun start =>
        (Arguments.read shapes mixed start).toOption.map Arguments.given
      ⟨given.getD [], []⟩

/-- The page that arguments lead to, and what they give it. -/
def context (arguments : List Text) : Page × Arguments :=
  let read := readSome Page.program.options false arguments
  match read.operands with
  | name :: rest =>
      if Request.commands.contains name then
        (.resolve, readSome Page.resolve.options true rest)
      else
        (.program, read)
  | [] => (.program, read)

/-- The names of an option, its letter first. -/
def namesOf (shape : OptionShape) : List Text :=
  (shape.letter?.map fun letter => ['-', letter]).toList ++ [shape.name]

/-- The commands and the options not yet given that start with a text; options only where there is
one. -/
def pageSuggestions (page : Page) (given : Arguments) (start : Text) : List Suggestion :=
  let commands := page.helpPage.commands.filter fun command => start.isPrefixOf command.1
  let options := (page.options.zip page.helpPage.options).flatMap fun (shape, _, about) =>
    if start.isEmpty || given.has shape.name then []
    else ((namesOf shape).filter fun name => start.isPrefixOf name).map fun name =>
      .word name (some about)
  (commands.map fun (name, about) => .word name (some (shorten HelpPage.briefWidth about))) ++
    options

/-- Whether a text starts like an option. -/
def startsOption (text : Text) : Bool :=
  text.head? = some '-'

/-- The line with the value behind an equals sign taken as a word of its own. -/
def splitCurrent (line : Line) : Line :=
  match Arguments.splitValue line.current with
  | (name, some value) =>
      if name.isEmpty && value.isEmpty then ⟨line.before, []⟩
      else if startsOption name then ⟨line.before ++ [name], value⟩
      else line
  | (_, none) => line

/-- What could stand next in a line. -/
def suggestions (line : Line) : List Suggestion :=
  let (page, given) := context line.before
  let line := splitCurrent line
  let takesValue := page.options.any fun shape =>
    shape.takesValue && line.before.getLast? = some shape.name
  if !line.before.contains ['-', '-'] && startsOption line.current then
    pageSuggestions page given line.current
  else if takesValue || (page = .resolve && given.operands.isEmpty) then
    [.directory line.current]
  else
    pageSuggestions page given line.current

/-- The answer to what a shell asks for: the name of the shell, an underscore, and the kind of
answer.  There is none for anything else. -/
def answer? (environment : List (Text × Text)) (wanted : Text) :
    Except CompletionFault (Option Text) := do
  let name := wanted.takeWhile fun char => char != '_'
  let kind := wanted.drop (name.length + 1)
  match Shell.ofName? name with
  | none => pure none
  | some shell =>
      if kind = "source".toList then
        pure (some (shell.script.flatMap fun line => line.toList ++ ['\n']))
      else if kind = "complete".toList then
        let found := suggestions (← line shell environment)
        pure (some (['\n'].intercalate (found.map shell.format) ++ ['\n']))
      else
        pure none

end Completion

end DeclLinker.Command
