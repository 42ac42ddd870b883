import DeclLinker.Text.Likeness
import DeclLinker.Text.Quoted

/-!
# Arguments of a command

Arguments are options and operands.  An option has a long name and perhaps a letter; it may take a
value, which stands behind an equals sign or is the next argument.  Two dashes alone end the
options. Some commands take options among their operands, others only before the first one.
-/

namespace DeclLinker.Command

/-- An option a command knows. -/
structure OptionShape where
  name : Text
  letter? : Option Char
  takesValue : Bool
  deriving DecidableEq

/-- What is wrong with the use of a command.  A name that is not known comes with known names that
are like it. -/
inductive UsageFault where
  | noSuchOption (name : Text) (near : List Text)
  | noSuchCommand (name : Text) (near : List Text)
  | missingCommand
  | valueNotTaken (name : Text)
  | valueMissing (name : Text)
  | badValue (name reason : Text)
  | extraOperands (operands : List Text)
  deriving DecidableEq

namespace UsageFault

/-- The question whether one of several names was meant. -/
def question : List Text → Text
  | [] => []
  | [name] => " Did you mean ".toList ++ name.quoted ++ ['?']
  | names =>
      " (Did you mean one of: ".toList ++ Text.commaList (names.map Text.quoted) ++ "?)".toList

/-- The message for a fault. -/
def message : UsageFault → Text
  | .noSuchOption name near => "No such option ".toList ++ name.quoted ++ '.' :: question near
  | .noSuchCommand name near => "No such command ".toList ++ name.quoted ++ '.' :: question near
  | .missingCommand => "Missing command.".toList
  | .valueNotTaken name => "Option ".toList ++ name.quoted ++ " does not take a value.".toList
  | .valueMissing name => "Option ".toList ++ name.quoted ++ " requires an argument.".toList
  | .badValue name reason => "Invalid value for '".toList ++ name ++ "': ".toList ++ reason
  | .extraOperands operands =>
      (if operands.length = 1 then "Got unexpected extra argument (".toList
        else "Got unexpected extra arguments (".toList) ++
      [' '].intercalate operands ++ [')']

/-- Whether the message stands alone, without the usage of the command. -/
def standsAlone : UsageFault → Bool
  | .valueNotTaken _ | .valueMissing _ => true
  | _ => false

end UsageFault

/-- An option that was given, with its value if it takes one. -/
structure GivenOption where
  name : Text
  value? : Option Text
  deriving DecidableEq

/-- The options that were given, in order, and the operands. -/
structure Arguments where
  given : List GivenOption
  operands : List Text
  deriving DecidableEq

namespace Arguments

/-- Whether an argument is an option by its form. -/
def looksLikeOption : Text → Bool
  | '-' :: _ :: _ => true
  | _ => false

/-- The name of a long option and the value written behind an equals sign. -/
def splitValue (argument : Text) : Text × Option Text :=
  match argument.dropWhile fun char => char != '=' with
  | [] => (argument, none)
  | _ :: value => (argument.takeWhile fun char => char != '=', some value)

/-- The options that single letters stand for. -/
def readLetters (shapes : List OptionShape) : Text → Except UsageFault (List GivenOption)
  | [] => .ok []
  | letter :: rest =>
      match shapes.find? fun shape => shape.letter? == some letter with
      | none => .error (.noSuchOption ['-', letter] [])
      | some shape => (readLetters shapes rest).map fun given => ⟨shape.name, none⟩ :: given

/-- What an argument that is an option gives: options, and the name of one whose value is the next
argument. -/
def readOption (shapes : List OptionShape) (argument : Text) :
    Except UsageFault (List GivenOption × Option Text) :=
  let (name, value?) := splitValue argument
  match shapes.find? fun shape => shape.name == name with
  | some shape =>
      match shape.takesValue, value? with
      | true, some value => .ok ([⟨name, some value⟩], none)
      | true, none => .ok ([], some name)
      | false, some _ => .error (.valueNotTaken name)
      | false, none => .ok ([⟨name, none⟩], none)
  | none =>
      if ['-', '-'].isPrefixOf argument then
        .error (.noSuchOption name (Text.suggestions name (shapes.map OptionShape.name)))
      else
        (readLetters shapes (argument.drop 1)).map fun given => (given, none)

/-- The arguments of a command that knows some options; `mixed` tells whether options may follow
operands. -/
def read (shapes : List OptionShape) (mixed : Bool) : List Text → Except UsageFault Arguments
  | [] => .ok ⟨[], []⟩
  | argument :: rest =>
      if argument = ['-', '-'] then
        .ok ⟨[], rest⟩
      else if looksLikeOption argument then
        match readOption shapes argument with
        | .error fault => .error fault
        | .ok (given, none) =>
            (read shapes mixed rest).map fun more => ⟨given ++ more.given, more.operands⟩
        | .ok (given, some name) =>
            match rest with
            | [] => .error (.valueMissing name)
            | value :: rest =>
                (read shapes mixed rest).map fun more =>
                  ⟨given ++ ⟨name, some value⟩ :: more.given, more.operands⟩
      else if mixed then
        (read shapes mixed rest).map fun more => ⟨more.given, argument :: more.operands⟩
      else
        .ok ⟨[], argument :: rest⟩

/-- Whether an option was given. -/
def has (arguments : Arguments) (name : Text) : Bool :=
  arguments.given.any fun option => option.name == name

/-- The value an option was given last. -/
def value? (arguments : Arguments) (name : Text) : Option Text :=
  (arguments.given.reverse.find? fun option => option.name == name).bind GivenOption.value?

end Arguments

end DeclLinker.Command
