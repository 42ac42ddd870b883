import DeclLinker.Text.Pieces

/-!
# Control sequences

A control sequence tells a terminal to change its colours or to move its cursor: an escape
character, an opening bracket, parameters, characters between, and the character of the command.  A
message that does not go to a terminal is printed without them.
-/

namespace DeclLinker.Text

/-- The character a control sequence starts with. -/
def escape : Char := Char.ofNat 27

/-- The characters of the parameters in a control sequence. -/
def isParameter (char : Char) : Bool :=
  '0' ≤ char && char ≤ '?'

/-- The characters between the parameters of a control sequence and its command. -/
def isBetween (char : Char) : Bool :=
  ' ' ≤ char && char ≤ '/'

/-- The characters that name the command of a control sequence. -/
def isCommand (char : Char) : Bool :=
  '@' ≤ char && char ≤ '~'

/-- Recognises a control sequence. -/
def controlAt : Recogniser Unit :=
  fun text =>
    match after? [escape, '['] text with
    | none => none
    | some rest =>
        let parameters := rest.takeWhile isParameter
        let between := (rest.drop parameters.length).takeWhile isBetween
        let length := parameters.length + between.length
        match rest.drop length with
        | [] => none
        | command :: _ => if isCommand command then some ((), length + 3) else none

/-- The text without its control sequences. -/
def withoutControls (text : Text) : Text :=
  text.replaceAll controlAt fun _ => []

end DeclLinker.Text
