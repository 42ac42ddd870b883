import DeclLinker.Value.Basic

/-!
# Issues with configuration data

Checking plain data collects every issue in the order of the data: what is wrong, where, and the
value it is wrong with.  A home directory that is not known ends the check at once.
-/

namespace DeclLinker

/-- What can be wrong with a value. -/
inductive Problem where
  | notText
  | notUnicode
  | notList
  | notMapping
  | notSection (name : Text)
  | notOneOf (choices : List Text)
  | notNumber
  | notNumeral
  | tooLarge
  | fractional
  | notFinite
  | unknownField
  | rejected (reason : Text)
  deriving DecidableEq

/-- A step into plain data: a field of a section, an item of a list, an entry of a dictionary, or
the key of an entry rather than its value. -/
inductive Place where
  | field (name : Text)
  | item (index : Nat)
  | entry (key : Scalar)
  | key
  deriving DecidableEq

/-- A problem, the way to it, and the value that has it. -/
structure Issue where
  places : List Place
  problem : Problem
  input : Value

namespace Problem

/-- Choices in quotes, the last after the word for an alternative. -/
def alternatives : List Text → Text
  | [] => []
  | [only] => only.quoted
  | [first, last] => first.quoted ++ " or ".toList ++ last.quoted
  | first :: rest => first.quoted ++ ", ".toList ++ alternatives rest

/-- The kind of a problem. -/
def kind : Problem → Text
  | .notText => "string_type".toList
  | .notUnicode => "string_unicode".toList
  | .notList => "list_type".toList
  | .notMapping => "dict_type".toList
  | .notSection _ => "model_type".toList
  | .notOneOf _ => "literal_error".toList
  | .notNumber => "int_type".toList
  | .notNumeral => "int_parsing".toList
  | .tooLarge => "int_parsing_size".toList
  | .fractional => "int_from_float".toList
  | .notFinite => "finite_number".toList
  | .unknownField => "extra_forbidden".toList
  | .rejected _ => "value_error".toList

/-- The message for a problem. -/
def message : Problem → Text
  | .notText => "Input should be a valid string".toList
  | .notUnicode =>
      "Input should be a valid string, unable to parse raw data as a unicode string".toList
  | .notList => "Input should be a valid list".toList
  | .notMapping => "Input should be a valid dictionary".toList
  | .notSection name => "Input should be a valid dictionary or instance of ".toList ++ name
  | .notOneOf choices => "Input should be ".toList ++ alternatives choices
  | .notNumber => "Input should be a valid integer".toList
  | .notNumeral =>
      "Input should be a valid integer, unable to parse string as an integer".toList
  | .tooLarge => "Unable to parse input string as an integer, exceeded maximum size".toList
  | .fractional =>
      "Input should be a valid integer, got a number with a fractional part".toList
  | .notFinite => "Input should be a finite number".toList
  | .unknownField => "Extra inputs are not permitted".toList
  | .rejected reason => "Value error, ".toList ++ reason

end Problem

/-- How a place is written in the path to a problem; truth values count as numbers there. -/
def Place.toText : Place → Text
  | .field name => name
  | .item index => Text.ofNat index
  | .entry (.bool truth) => if truth then ['1'] else ['0']
  | .entry (.str text) => text
  | .entry (.halved points) => Text.withoutHalves points
  | .entry scalar => scalar.literal
  | .key => "[key]".toList

/-- The path to a problem, with dots between its places. -/
def Issue.path (issue : Issue) : Text :=
  ['.'].intercalate (issue.places.map Place.toText)

/-- Why data is refused: it has issues, or it names a home directory that is not known. -/
inductive Refusal where
  | issues (found : List Issue)
  | homeless

/-- A checked value, or what keeps it from being one. -/
abbrev Checked (α : Type) := Except Refusal α

namespace Refusal

/-- What is refused in a part, seen from the whole. -/
def inside (place : Place) : Refusal → Refusal
  | .issues found =>
      .issues (found.map fun issue => { issue with places := place :: issue.places })
  | .homeless => .homeless

/-- What is refused in two parts of a whole, in order. -/
def both : Refusal → Refusal → Refusal
  | .issues found, .issues more => .issues (found ++ more)
  | _, _ => .homeless

end Refusal

namespace Checked

variable {α β : Type}

/-- A value with one issue. -/
def fail (problem : Problem) (input : Value) : Checked α :=
  .error (.issues [⟨[], problem, input⟩])

/-- The check of a part, seen from the whole. -/
def inside (place : Place) : Checked α → Checked α
  | .ok value => .ok value
  | .error refusal => .error (refusal.inside place)

/-- The start of a chain of parts: how the whole is made from them. -/
def make (whole : α) : Checked α := .ok whole

/-- A function applied to one more checked part; the issues of both sides are kept in order. -/
def apply : Checked (α → β) → Checked α → Checked β
  | .ok function, .ok value => .ok (function value)
  | .ok _, .error refusal => .error refusal
  | .error refusal, .ok _ => .error refusal
  | .error refusal, .error more => .error (refusal.both more)

/-- A further condition on a value that passed. -/
def andThen (checked : Checked α) (next : α → Checked β) : Checked β :=
  match checked with
  | .ok value => next value
  | .error refusal => .error refusal

end Checked

end DeclLinker
