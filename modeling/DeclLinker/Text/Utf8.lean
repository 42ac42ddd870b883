import DeclLinker.Text.Quoted

/-!
# Bytes and texts

Files hold bytes.  A text is encoded in UTF-8 and decoded from it; bytes that encode no text are
answered with the first stretch that is wrong and why.  Reading a file also turns each of the three
line endings into a line feed.
-/

namespace DeclLinker

/-- What is wrong with a stretch of bytes. -/
inductive Utf8Cause where
  | start
  | continuation
  | truncated
  deriving DecidableEq

/-- The first stretch of bytes that encodes no character. -/
structure Utf8Fault where
  lead : Nat
  position : Nat
  length : Nat
  cause : Utf8Cause
  deriving DecidableEq

namespace Utf8

/-- The ranges of the bytes that must follow a first byte; none for a byte that starts nothing. -/
def followers (lead : Nat) : Option (List (Nat × Nat)) :=
  let tail := (0x80, 0xbf)
  if lead < 0x80 then some []
  else if lead < 0xc2 then none
  else if lead < 0xe0 then some [tail]
  else if lead = 0xe0 then some [(0xa0, 0xbf), tail]
  else if lead = 0xed then some [(0x80, 0x9f), tail]
  else if lead < 0xf0 then some [tail, tail]
  else if lead = 0xf0 then some [(0x90, 0xbf), tail, tail]
  else if lead < 0xf4 then some [tail, tail, tail]
  else if lead = 0xf4 then some [(0x80, 0x8f), tail, tail]
  else none

/-- How many of the following bytes fit, and whether the first that does not is there at all. -/
def fitting : List (Nat × Nat) → List Nat → Nat × Option Utf8Cause
  | [], _ => (0, none)
  | _ :: _, [] => (0, some .truncated)
  | range :: ranges, byte :: bytes =>
      if range.1 ≤ byte ∧ byte ≤ range.2 then
        let (count, cause) := fitting ranges bytes
        (count + 1, cause)
      else
        (0, some .continuation)

/-- The first fault of bytes of which `skip` belong to the character before. -/
def faultFrom : (position skip : Nat) → List Nat → Option Utf8Fault
  | _, _, [] => none
  | position, skip + 1, _ :: bytes => faultFrom (position + 1) skip bytes
  | position, 0, lead :: bytes =>
      match followers lead with
      | none => some ⟨lead, position, 1, .start⟩
      | some ranges =>
          match fitting ranges bytes with
          | (count, none) => faultFrom (position + 1) count bytes
          | (count, some cause) => some ⟨lead, position, count + 1, cause⟩

/-- The bytes of a text. -/
def encode (text : Text) : ByteArray :=
  (String.ofList text).toByteArray

/-- The text that bytes encode, or the first fault in them. -/
def decode (bytes : ByteArray) : Except Utf8Fault Text :=
  match String.fromUTF8? bytes with
  | some string => .ok string.toList
  | none =>
      .error ((faultFrom 0 0 (bytes.toList.map UInt8.toNat)).getD ⟨0, 0, 0, .start⟩)

/-- The text that bytes start with, up to the first fault in them. -/
def decodeStart (bytes : ByteArray) : Text :=
  match decode bytes with
  | .ok text => text
  | .error fault => ((decode (bytes.extract 0 fault.position)).toOption).getD []

/-- Decoding gives back what was encoded. -/
@[simp]
theorem decode_encode (text : Text) : decode (encode text) = .ok text := by
  have valid : (String.ofList text).toByteArray.IsValidUTF8 := String.isValidUTF8 _
  have back : String.fromUTF8 (String.ofList text).toByteArray valid = String.ofList text := rfl
  simp only [decode, encode, String.fromUTF8?, valid, dif_pos, back, String.toList_ofList]

end Utf8

namespace Utf8Fault

/-- The position of the byte that shows a fault; none if only the end of the bytes does. -/
def noticed? (fault : Utf8Fault) : Option Nat :=
  match fault.cause with
  | .start => some fault.position
  | .continuation => some (fault.position + fault.length)
  | .truncated => none

/-- The words for a cause. -/
def reason : Utf8Cause → Text
  | .start => "invalid start byte".toList
  | .continuation => "invalid continuation byte".toList
  | .truncated => "unexpected end of data".toList

/-- The message for a fault. -/
def message (fault : Utf8Fault) : Text :=
  let place :=
    if fault.length = 1 then
      "byte 0x".toList ++ Text.hex 2 fault.lead ++ " in position ".toList ++
        Text.ofNat fault.position
    else
      "bytes in position ".toList ++ Text.ofNat fault.position ++ '-' ::
        Text.ofNat (fault.position + fault.length - 1)
  "'utf-8' codec can't decode ".toList ++ place ++ ": ".toList ++ reason fault.cause

end Utf8Fault

namespace Text

/-- The text with carriage returns, alone or before a line feed, turned into line feeds. -/
def unifyNewlines : Text → Text
  | '\r' :: '\n' :: rest => '\n' :: unifyNewlines rest
  | '\r' :: rest => '\n' :: unifyNewlines rest
  | char :: rest => char :: unifyNewlines rest
  | [] => []

end Text

end DeclLinker
