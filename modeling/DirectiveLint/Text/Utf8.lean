import DirectiveLint.Text.Quoted

/-!
# Text from bytes

UTF-8 writes a character as one byte, or as a start byte and one to three
continuation bytes.  A byte sequence that no character has is a fault, and the
first fault stops the decoding.  Overlong forms, surrogates and numbers beyond
the last code point are excluded by narrower bounds for the second byte.
-/

namespace DirectiveLint
namespace Text

/-- Why bytes are not a text. -/
inductive Utf8Cause
  | startByte
  | continuationByte
  | endOfData
  deriving DecidableEq, Repr

/-- A cause, with the first byte of the sequence at fault, its offset and its length. -/
structure Utf8Fault where
  cause : Utf8Cause
  byte : UInt8
  start : Nat
  length : Nat
  deriving DecidableEq, Repr

namespace Utf8Fault

def causeText : Utf8Cause → String
  | .startByte => "invalid start byte"
  | .continuationByte => "invalid continuation byte"
  | .endOfData => "unexpected end of data"

/-- The wording of a fault: one byte is named, of several the offsets. -/
def message (fault : Utf8Fault) : String :=
  let place :=
    if fault.length == 1 then
      "byte 0x" ++ String.ofList (hexDigits 2 fault.byte.toNat) ++ " in position " ++
        toString fault.start
    else
      "bytes in position " ++ toString fault.start ++ "-" ++
        toString (fault.start + fault.length - 1)
  "'utf-8' codec can't decode " ++ place ++ ": " ++ causeText fault.cause

end Utf8Fault

/-- A character of which some bytes are still to come: where it started, how many bytes are there
and how many are missing, the number so far, and the bounds of the next byte. -/
structure Utf8Pending where
  byte : UInt8
  start : Nat
  length : Nat
  missing : Nat
  code : Nat
  least : Nat
  greatest : Nat
  deriving Repr

/-- What a start byte announces: how many bytes are missing, its share of the number, and the bounds
of the second byte. -/
def utf8Start? (byte : Nat) : Option (Nat × Nat × Nat × Nat) :=
  if byte < 0x80 then some (0, byte, 0, 0)
  else if byte < 0xC2 then none
  else if byte < 0xE0 then some (1, byte - 0xC0, 0x80, 0xBF)
  else if byte < 0xF0 then
    some (2, byte - 0xE0, if byte = 0xE0 then 0xA0 else 0x80, if byte = 0xED then 0x9F else 0xBF)
  else if byte < 0xF5 then
    some (3, byte - 0xF0, if byte = 0xF0 then 0x90 else 0x80, if byte = 0xF4 then 0x8F else 0xBF)
  else none

/-- The characters of bytes that begin at an offset, perhaps within a character. -/
def decodeUtf8From (offset : Nat) (pending : Option Utf8Pending) :
    List UInt8 → Except Utf8Fault (List Char)
  | [] =>
    match pending with
    | none => .ok []
    | some started => .error ⟨.endOfData, started.byte, started.start, started.length⟩
  | byte :: rest =>
    match pending with
    | none =>
      match utf8Start? byte.toNat with
      | none => .error ⟨.startByte, byte, offset, 1⟩
      | some (0, code, _, _) =>
        (decodeUtf8From (offset + 1) none rest).map (Char.ofNat code :: ·)
      | some (missing, code, least, greatest) =>
        decodeUtf8From (offset + 1) (some ⟨byte, offset, 1, missing, code, least, greatest⟩) rest
    | some started =>
      if byte.toNat < started.least || started.greatest < byte.toNat then
        .error ⟨.continuationByte, started.byte, started.start, started.length⟩
      else
        let code := started.code * 64 + (byte.toNat - 0x80)
        if started.missing ≤ 1 then
          (decodeUtf8From (offset + 1) none rest).map (Char.ofNat code :: ·)
        else
          decodeUtf8From (offset + 1)
            (some
              { started with
                length := started.length + 1
                missing := started.missing - 1
                code
                least := 0x80
                greatest := 0xBF }) rest

/-- The text that bytes encode. -/
def decodeUtf8 (bytes : List UInt8) : Except Utf8Fault String :=
  (decodeUtf8From 0 none bytes).map String.ofList

/-- The bytes that encode a text. -/
def encodeUtf8 (text : String) : List UInt8 :=
  text.toList.flatMap String.utf8EncodeChar

end Text
end DirectiveLint
