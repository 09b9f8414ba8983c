import HtmlNesting.Text.Quoted

/-!
# Text from bytes

Reading of UTF-8. The first byte of a character tells how many more belong to it and, for a few
first bytes, narrows the second one, so that overlong forms, surrogates and numbers beyond the last
code point are refused. A fault tells which bytes are at fault: the first byte alone if nothing
starts with it, else those of the character that came before the wrong byte or before the end.

`lineEnds` is what reading in text mode does besides: every way to end a line becomes a line feed.
-/

namespace HtmlNesting.Text

/-- What is wrong with some bytes. -/
inductive Utf8Reason where
  | startByte | continuationByte | endOfData
  deriving DecidableEq, Repr

/-- The words for what is wrong. -/
def Utf8Reason.message : Utf8Reason → String
  | startByte => "invalid start byte"
  | continuationByte => "invalid continuation byte"
  | endOfData => "unexpected end of data"

/-- Bytes that are not text: from `start` up to but without `stop`, the first of which is
`first`. -/
structure Utf8Fault where
  first : UInt8
  start : Nat
  stop : Nat
  reason : Utf8Reason
  deriving DecidableEq, Repr

namespace Utf8Fault

/-- The words for a fault. -/
def message (fault : Utf8Fault) : String :=
  let place :=
    if fault.stop = fault.start + 1 then
      "byte 0x" ++ String.ofList (hexDigits 2 fault.first.toNat) ++ " in position " ++
        toString fault.start
    else "bytes in position " ++ toString fault.start ++ "-" ++ toString (fault.stop - 1)
  "'utf-8' codec can't decode " ++ place ++ ": " ++ fault.reason.message

end Utf8Fault

/-- A character whose first bytes have been read. -/
structure BegunChar where
  first : UInt8
  start : Nat
  /-- How many more bytes belong to it, less one. -/
  missing : Nat
  /-- The least the next byte may be. -/
  low : UInt8
  /-- The most the next byte may be. -/
  high : UInt8
  /-- The bits read so far. -/
  value : Nat

/-- What a first byte of several begins: how many bytes follow the next one, the bounds of the next
one, and the bits of the first. -/
def leadByte? (byte : UInt8) : Option (Nat × UInt8 × UInt8 × Nat) :=
  if byte < 0xC2 then none
  else if byte < 0xE0 then some (0, 0x80, 0xBF, byte.toNat - 0xC0)
  else if byte = 0xE0 then some (1, 0xA0, 0xBF, 0)
  else if byte = 0xED then some (1, 0x80, 0x9F, 0xD)
  else if byte < 0xF0 then some (1, 0x80, 0xBF, byte.toNat - 0xE0)
  else if byte = 0xF0 then some (2, 0x90, 0xBF, 0)
  else if byte < 0xF4 then some (2, 0x80, 0xBF, byte.toNat - 0xF0)
  else if byte = 0xF4 then some (2, 0x80, 0x8F, 4)
  else none

/-- Reads the bytes from `offset` on, after the characters `read` (last first) and the first bytes
of a character. -/
def decodeFrom (read : List Char) (offset : Nat) (begun : Option BegunChar) :
    List UInt8 → Except Utf8Fault (List Char)
  | [] =>
    match begun with
    | none => .ok read.reverse
    | some char =>
      .error { first := char.first, start := char.start, stop := offset, reason := .endOfData }
  | byte :: rest =>
    match begun with
    | none =>
      if byte < 0x80 then decodeFrom (Char.ofNat byte.toNat :: read) (offset + 1) none rest
      else
        match leadByte? byte with
        | none =>
          .error { first := byte, start := offset, stop := offset + 1, reason := .startByte }
        | some (missing, low, high, value) =>
          decodeFrom read (offset + 1)
            (some { first := byte, start := offset, missing, low, high, value }) rest
    | some char =>
      if char.low ≤ byte ∧ byte ≤ char.high then
        let value := char.value * 64 + (byte.toNat - 0x80)
        match char.missing with
        | 0 => decodeFrom (Char.ofNat value :: read) (offset + 1) none rest
        | missing + 1 =>
          decodeFrom read (offset + 1)
            (some { char with missing, low := 0x80, high := 0xBF, value }) rest
      else
        .error {
          first := char.first, start := char.start, stop := offset, reason := .continuationByte }

/-- The characters that some bytes stand for. -/
def decode (bytes : List UInt8) : Except Utf8Fault (List Char) :=
  decodeFrom [] 0 none bytes

/-- The bytes of a text. -/
def encode (s : String) : List UInt8 :=
  s.toUTF8.toList

/-- Puts the characters that remain, with every line end as a line feed, after those read (last
first). -/
def lineEndsAfter (read : List Char) : List Char → List Char
  | [] => read.reverse
  | '\r' :: '\n' :: rest => lineEndsAfter ('\n' :: read) rest
  | c :: rest => lineEndsAfter ((if c = '\r' then '\n' else c) :: read) rest

/-- The characters with every line end as a line feed. -/
def lineEnds (cs : List Char) : List Char :=
  lineEndsAfter [] cs

end HtmlNesting.Text
