import ExactCover.Storage.Path
import ExactCover.Text.Quoted

/-!
# Packed files

The ending of a name tells how a file is packed. The files here are texts, and a packed file is hardly
ever one, so unpacking a text mostly finds out at which byte it stops being a packed file. Only files
that hold nothing can be unpacked.

Main statement: `unpack_plain` (a file that is not packed is read as it is).
-/

set_option autoImplicit false

namespace ExactCover

/-- How a file is packed. -/
inductive Packing where
  | plain
  | gzip
  | bzip
  | lzma
deriving DecidableEq

/-- Why a file is not unpacked. -/
inductive PackingFault where
  /-- The first two bytes are not those of this packing. -/
  | notGzip (start : List UInt8)
  | badStream
  /-- The file ends too early. -/
  | cutShort
  | unknownFormat
  | unknownOptions
  | corrupt
deriving DecidableEq

/-- A byte inside quotes. -/
def quotedByte (quote : Char) (byte : UInt8) : List Char :=
  let character := Char.ofNat byte.toNat
  if byte < 0x7F then Text.quotedCharacter quote character
  else '\\' :: 'x' :: Text.hexDigits 2 byte.toNat

/-- Bytes in quotes. -/
def quotedBytes (bytes : List UInt8) : String :=
  let quote := Text.quoteFor (bytes.map fun byte => Char.ofNat byte.toNat)
  String.ofList ('b' :: quote :: bytes.flatMap (quotedByte quote) ++ [quote])

/-- The wording of a fault. -/
def PackingFault.message : PackingFault → String
  | .notGzip start => "Not a gzipped file (" ++ quotedBytes start ++ ")"
  | .badStream => "Invalid data stream"
  | .cutShort => "Compressed file ended before the end-of-stream marker was reached"
  | .unknownFormat => "Input format not supported by decoder"
  | .unknownOptions => "Invalid or unsupported options"
  | .corrupt => "Corrupt input data"

namespace Packing

/-- The endings of packed files, in the order in which they are tried. -/
def endings : List (String × Packing) :=
  [(".bz2", .bzip), (".gz", .gzip), (".xz", .lzma), (".lzma", .lzma)]

/-- The packing that the ending of a path tells. -/
def ofPath (path : String) : Packing :=
  let ending := Path.extension path
  ((endings.find? fun entry => entry.1 = ending).map Prod.snd).getD .plain

/-- The bytes of a text. -/
def bytesOf (text : String) : List UInt8 := text.toUTF8.data.toList

/-- Bytes of ASCII characters. -/
def ascii (text : String) : List UInt8 := text.toList.map fun c => UInt8.ofNat c.toNat

/-- The number of some bytes, the first of which counts least. -/
def littleEndian : List UInt8 → Nat
  | [] => 0
  | byte :: rest => byte.toNat + 256 * littleEndian rest

/-! ## Block sorting -/

/-- Checks the beginning of a stream against one byte after the other; `rest` is what follows. -/
def expect (checks : List (UInt8 → Bool)) (mismatch : PackingFault) (bytes : List UInt8) :
    Except PackingFault (List UInt8) :=
  match checks, bytes with
  | [], rest => .ok rest
  | _ :: _, [] => .error .cutShort
  | check :: checks, byte :: rest =>
      if check byte then expect checks mismatch rest else .error mismatch

/-- Exactly the bytes of some ASCII characters. -/
def exactly (text : String) : List (UInt8 → Bool) := (ascii text).map fun byte found => found == byte

/-- A stream begins with its mark, the size of its blocks and the mark of a block or of its end. The
checksum and the start of a block, eight bytes, tell no fault before they are complete. The mark of the
end is never complete in a text. -/
def unpackBzip (bytes : List UInt8) : Except PackingFault String := do
  let size : UInt8 → Bool := fun byte => 0x31 ≤ byte && byte ≤ 0x39
  let rest ← expect (exactly "BZh" ++ [size]) .badStream bytes
  let mark := if rest.head? = some 0x17 then "\x17rE8P\x90" else "1AY&SY"
  let rest ← expect (exactly mark) .badStream rest
  if rest.length < 8 then throw .cutShort else throw .badStream

/-! ## Dictionary coding -/

/-- Whether a byte tells counts of bits that can be decoded. -/
def isProperties (byte : UInt8) : Bool :=
  let counts := byte.toNat % 45
  byte.toNat < 225 && counts % 9 + counts / 9 ≤ 4

/-- Whether a size of a dictionary is in use: a power of two, or one and a half of it. -/
def isDictionarySize (size : Nat) : Bool :=
  size = 0 || size = 0xFFFFFFFF ||
    (List.range 32).any fun bits => size = 1 <<< bits || size = 3 <<< bits

/-- Whether a size of a file is believed: it may be unknown. -/
def isFileSize (size : Nat) : Bool := size < 0x4000000000 || size = 0xFFFFFFFFFFFFFFFF

/-- Takes a number of some bytes that must be as expected. -/
def takeNumber (count : Nat) (holds : Nat → Bool) (bytes : List UInt8) :
    Except PackingFault (Nat × List UInt8) :=
  let number := littleEndian (bytes.take count)
  if bytes.length < count then .error .cutShort
  else if holds number then .ok (number, bytes.drop count)
  else .error .unknownFormat

/-- The coded part of a file of some size: its first byte is zero, and four more bytes begin it. -/
def coded (size : Nat) (bytes : List UInt8) : Except PackingFault String := do
  let rest ← expect [(· == 0)] .corrupt bytes
  if rest.length < 4 then throw .cutShort
  else if size = 0 then return ""
  else throw .corrupt

/-- A file with a mark begins with it, its version and the size of its dictionary. -/
def unpackMarked (bytes : List UInt8) : Except PackingFault String := do
  let rest ← expect (exactly "LZIP") .unknownFormat bytes
  let rest ← expect [(· ≤ 1)] .unknownOptions rest
  let fits : UInt8 → Bool := fun byte =>
    let bits := byte.toNat % 32
    12 ≤ bits && bits ≤ 29 && (12 < bits || byte.toNat < 32)
  coded 1 (← expect [fits] .corrupt rest)

/-- A file without a mark begins with the counts of bits, the size of its dictionary and its own
size. -/
def unpackBare (bytes : List UInt8) : Except PackingFault String := do
  let rest ← expect [isProperties] .unknownFormat bytes
  let (_, rest) ← takeNumber 4 isDictionarySize rest
  let (size, rest) ← takeNumber 8 isFileSize rest
  coded size rest

/-! ## All packings -/

/-- Unpacks a file. -/
def unpack (packing : Packing) (text : String) : Except PackingFault String :=
  let bytes := bytesOf text
  match packing with
  | .plain => .ok text
  | .gzip => if bytes.isEmpty then .ok "" else .error (.notGzip (bytes.take 2))
  | .bzip => unpackBzip bytes
  | .lzma => if bytes.head? = (ascii "L").head? then unpackMarked bytes else unpackBare bytes

/-- **A file that is not packed is read as it is.** -/
theorem unpack_plain (text : String) : unpack .plain text = .ok text := rfl

example : (PackingFault.notGzip (ascii "1'")).message = "Not a gzipped file (b\"1'\")" := by
  decide +kernel

end Packing

end ExactCover
