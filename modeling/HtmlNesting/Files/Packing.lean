import HtmlNesting.Text.Case

/-!
# Packed files

The end of a file name, in any case, tells whether the file is packed and how. What a packer makes
of some bytes is its own affair; here that is spelled out for one of them. `gzip` keeps the bytes as
they are, in blocks that are marked as stored, between a header and a trailer with their checksum
and number.
-/

namespace HtmlNesting

/-- The ways to pack a file. -/
inductive Packing where
  | tar | gzip | bzip2 | zip | xz | zstandard
  deriving DecidableEq, Repr

namespace Packing

/-- The ends of the names of packed files, in the order in which they are looked for. -/
def endings : List (String × Packing) := [
  (".tar", tar), (".tar.gz", tar), (".tar.bz2", tar), (".tar.xz", tar), (".gz", gzip),
  (".bz2", bzip2), (".zip", zip), (".xz", xz), (".zst", zstandard)]

/-- How a file with a name is packed, if it is. -/
def ofName? (name : String) : Option Packing :=
  let lowered := (Text.lower name).toList
  (endings.find? fun ending => ending.1.toList.isSuffixOf lowered).map Prod.snd

/-- The checksum after one more bit. -/
def checkBit (checksum : UInt32) : UInt32 :=
  if checksum % 2 = 1 then (checksum >>> 1) ^^^ 0xedb88320 else checksum >>> 1

/-- The checksum after one more byte. -/
def checkByte (checksum : UInt32) (byte : UInt8) : UInt32 :=
  (List.range 8).foldl (fun value _ => checkBit value) (checksum ^^^ byte.toUInt32)

/-- The checksum of some bytes. -/
def checksum (bytes : List UInt8) : UInt32 :=
  bytes.foldl checkByte 0xffffffff ^^^ 0xffffffff

/-- A number in some bytes, the lowest first. -/
def lowFirst : (count : Nat) → Nat → List UInt8
  | 0, _ => []
  | count + 1, value => UInt8.ofNat (value % 256) :: lowFirst count (value / 256)

/-- The most bytes of a stored block. -/
def maxBlock : Nat := 65535

/-- Bytes in stored blocks, of which there are at most `fuel`; the last one is marked. -/
def storedBlocks : (fuel : Nat) → List UInt8 → List UInt8
  | 0, _ => []
  | fuel + 1, bytes =>
    let block := bytes.take maxBlock
    let rest := bytes.drop maxBlock
    let header : UInt8 := if rest.isEmpty then 1 else 0
    let body := header :: lowFirst 2 block.length ++ lowFirst 2 (maxBlock - block.length) ++ block
    if rest.isEmpty then body else body ++ storedBlocks fuel rest

/-- Bytes packed without making them fewer. -/
def gzipped (bytes : List UInt8) : List UInt8 :=
  [0x1f, 0x8b, 8, 0, 0, 0, 0, 0, 0, 255] ++ storedBlocks (bytes.length / maxBlock + 1) bytes ++
    lowFirst 4 (checksum bytes).toNat ++ lowFirst 4 bytes.length

/-- Packed bytes, for the packings that are spelled out. -/
def pack? : Packing → List UInt8 → Option (List UInt8)
  | gzip, bytes => some (gzipped bytes)
  | _, _ => none

end Packing

end HtmlNesting
