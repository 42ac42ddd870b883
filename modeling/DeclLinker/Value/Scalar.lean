import DeclLinker.Number.Numeral
import DeclLinker.Number.Shortest
import DeclLinker.Text.Quoted
import DeclLinker.Value.Moment

/-!
# Scalar values

The leaves of configuration data and the fields of log records.
-/

namespace DeclLinker

/-- A value without parts. -/
inductive Scalar where
  | null
  | bool (value : Bool)
  | int (value : Int)
  | float (value : Binary64)
  | str (value : Text)
  | halved (points : List Nat)
  | bytes (value : List UInt8)
  | date (value : Date)
  | moment (value : Moment)
  deriving DecidableEq

namespace Scalar

/-- The text that numbers stand for, which may have lone halves in it. -/
def ofPoints (points : List Nat) : Scalar :=
  match Text.ofPoints? points with
  | some text => .str text
  | none => .halved points

/-- How bytes are written: as a text of characters below 256, each that is not ASCII by number. -/
def bytesLiteral (bytes : List UInt8) : Text :=
  let text := bytes.map fun byte => Char.ofNat byte.toNat
  let quote := Text.quoteFor text
  let shown (char : Char) :=
    if 0x7f < char.toNat then Text.escapeHidden char else Text.quoteChar quote char
  'b' :: quote :: text.flatMap shown ++ [quote]

/-- How a scalar is written inside a larger value: texts in quotes. -/
def literal : Scalar → Text
  | .null => "None".toList
  | .bool true => "True".toList
  | .bool false => "False".toList
  | .int value => Text.ofInt value
  | .float value => value.toText
  | .str value => value.quoted
  | .halved points => Text.quotedPoints points
  | .bytes value => bytesLiteral value
  | .date value => value.literal
  | .moment value => value.literal

/-- How a scalar is shown on its own: texts as they are, and days and times in digits. -/
def display : Scalar → Text
  | .str value => value
  | .halved points => Text.withoutHalves points
  | .date value => value.display
  | .moment value => value.display
  | scalar => scalar.literal

/-- The least number with more digits than a numeral may have. -/
def unshowable : Nat := Nat.pow 10 Numeral.digitLimit

/-- Whether a scalar can be shown: an integer must not have too many digits. -/
def isShowable : Scalar → Bool
  | .int value => value.natAbs < unshowable
  | _ => true

/-- Truth values and whole numbers count as the same key as the integer they stand for. -/
def keyForm : Scalar → Scalar
  | .bool value => .int (if value then 1 else 0)
  | .float value =>
      match value.toInt? with
      | some whole => .int whole
      | none => .float value
  | scalar => scalar

/-- Whether two scalars are one key of a mapping. -/
def sameKey : Scalar → Scalar → Bool
  | .moment first, .moment second => first.same second
  | first, second => first.keyForm == second.keyForm

/-- Null, false, zero and the empty text. -/
def isEmpty : Scalar → Bool
  | .null => true
  | .bool value => !value
  | .int value => value == 0
  | .float value => value.isZero
  | .str value => value.isEmpty
  | .bytes value => value.isEmpty
  | .halved _ | .date _ | .moment _ => false

end Scalar

end DeclLinker
