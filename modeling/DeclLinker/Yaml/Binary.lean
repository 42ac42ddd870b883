import DeclLinker.Text.Basic

/-!
# Bytes as text

Four characters of an alphabet of sixty-four stand for three bytes.  Other characters between them
are passed over.  Equals signs fill the last four; once they do, what follows is not read.
-/

namespace DeclLinker.Yaml.Binary

/-- The six bits a character stands for. -/
def bits? (char : Char) : Option Nat :=
  if 'A' ≤ char ∧ char ≤ 'Z' then some (char.toNat - 'A'.toNat)
  else if 'a' ≤ char ∧ char ≤ 'z' then some (char.toNat - 'a'.toNat + 26)
  else if '0' ≤ char ∧ char ≤ '9' then some (char.toNat - '0'.toNat + 52)
  else if char = '+' then some 62
  else if char = '/' then some 63
  else none

/-- The byte that a character completes, given its place among four and the bits left over from the
character before, and the bits it leaves over itself. -/
def feed (place left bits : Nat) : List UInt8 × Nat :=
  match place with
  | 0 => ([], bits)
  | 1 => ([UInt8.ofNat (left * 4 + bits / 16)], bits % 16)
  | 2 => ([UInt8.ofNat (left * 16 + bits / 4)], bits % 4)
  | _ => ([UInt8.ofNat (left * 64 + bits)], 0)

/-- The bytes that characters stand for, given the place among four that is next, the bits left over
and the equals signs just passed.  None when the last four are not filled. -/
def bytesFrom? : (place left fills : Nat) → Text → Option (List UInt8)
  | place, _, _, [] => if place = 0 then some [] else none
  | place, left, fills, char :: rest =>
      if char = '=' then
        if 2 ≤ place then
          if 4 ≤ place + fills + 1 then some [] else bytesFrom? place left (fills + 1) rest
        else
          bytesFrom? place left fills rest
      else
        match bits? char with
        | none => bytesFrom? place left fills rest
        | some bits =>
            let (byte, left) := feed place left bits
            (bytesFrom? ((place + 1) % 4) left 0 rest).map fun bytes => byte ++ bytes

/-- The bytes that a text stands for; it has to be ASCII. -/
def bytes? (text : Text) : Option (List UInt8) :=
  if text.all fun char => char.toNat < 0x80 then bytesFrom? 0 0 0 text else none

end DeclLinker.Yaml.Binary
