import DeclLinker.Console.Markup
import DeclLinker.Log.Event

/-!
# Status messages

A status is a message with a style, which decides the mark before it, and an indentation.  Printing
one also tells the log.
-/

namespace DeclLinker.Console

/-- What kind of message a status is. -/
inductive StatusStyle where
  | success
  | error
  | warning
  | info
  | bullet
  | none
  | other (name : Text)
  deriving DecidableEq

namespace StatusStyle

/-- The name of a style. -/
def toText : StatusStyle → Text
  | .success => "success".toList
  | .error => "error".toList
  | .warning => "warning".toList
  | .info => "info".toList
  | .bullet => "bullet".toList
  | .none => "none".toList
  | .other name => name

/-- The styles with a mark of their own. -/
def known : List StatusStyle :=
  [.success, .error, .warning, .info, .bullet, .none]

/-- The style with a name. -/
def ofText (name : Text) : StatusStyle :=
  (known.find? fun style => style.toText == name).getD (.other name)

/-- The mark before a message, with its tags. -/
def marker : StatusStyle → Text
  | .success => "[green]✓[/green] ".toList
  | .error => "[red]✗[/red] ".toList
  | .warning => "[yellow]⚠[/yellow] ".toList
  | .info => "  ".toList
  | .bullet => "- ".toList
  | .none | .other _ => []

end StatusStyle

/-- A message for the console. -/
structure Status where
  message : Text
  style : StatusStyle
  indent : Nat
  deriving DecidableEq

namespace Status

/-- A message without mark and indentation. -/
def bare (message : Text) : Status := ⟨message, .none, 0⟩

/-- A message between the others. -/
def info (message : Text) : Status := ⟨message, .info, 0⟩

/-- The marked-up line of a status. -/
def line (status : Status) : Text :=
  List.replicate status.indent ' ' ++ status.style.marker ++ status.message

/-- What the console prints for a status. -/
def print (status : Status) : Except MarkupFault Text :=
  Markup.print status.line

/-- What the log is told about a status. -/
def event (status : Status) : Event :=
  .status status.message status.style.toText

end Status

/-- The line that announces a longer activity when no terminal shows its progress. -/
def activityLine (indent : Nat) (message : Text) : Text :=
  List.replicate indent ' ' ++ message ++ "...".toList

/-- What a terminal shows during a longer activity. -/
def activityMarkup (indent : Nat) (message : Text) : Text :=
  List.replicate indent ' ' ++ "[cyan]".toList ++ message ++ "[/cyan]".toList

/-- An amount before a noun: the first form for whatever equals one, the second for all else. -/
def measured (amount : Scalar) (singular plural : Text) : Text :=
  amount.display ++ ' ' :: if amount.sameKey (.int 1) then singular else plural

/-- A count before a noun: the first form for one, the second for any other number. -/
def counted (count : Int) (singular plural : Text) : Text :=
  Text.ofInt count ++ ' ' :: if count = 1 then singular else plural

/-- The form a noun takes for more than one. -/
def pluralOf (singular : Text) : Text :=
  singular ++ ['s']

/-- A count before a noun that takes an s. -/
def pluralize (count : Int) (singular : Text) : Text :=
  counted count singular (pluralOf singular)

end DeclLinker.Console
