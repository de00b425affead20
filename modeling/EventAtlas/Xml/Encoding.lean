import EventAtlas.Text.Utf8
import EventAtlas.Xml.Charset

/-!
# Encodings of documents

The first bytes of a document tell whether its characters are single bytes or pairs; the
declaration may name the encoding of what follows it. Decoding gives `none` for bytes that
make no character.
-/

namespace EventAtlas.Xml

/-- How the bytes of a document make characters. -/
inductive Encoding where
  | utf8
  /-- Pairs of bytes, with the higher one first or last. -/
  | utf16 (bigEndian : Bool)
  /-- Single bytes that agree with ASCII on the lower half. -/
  | single (high : List Char)
deriving DecidableEq

namespace Encoding

/-- The number of bytes that an ASCII character takes. -/
def unitBytes : Encoding → Nat
  | .utf8 | .single _ => 1
  | .utf16 _ => 2

/-- The number of bytes that a character takes. -/
def width : Encoding → Char → Nat
  | .utf8, c => c.utf8Size
  | .utf16 _, c => if c.toNat < 0x10000 then 2 else 4
  | .single _, _ => 1

/-- The encoding that the first bytes point to, and the bytes after a byte order mark. -/
def detect : Text.Bytes → Encoding × Text.Bytes
  | 0xfe :: 0xff :: rest => (.utf16 true, rest)
  | 0xff :: 0xfe :: rest => (.utf16 false, rest)
  | 0xef :: 0xbb :: 0xbf :: rest => (.utf8, rest)
  | 0x00 :: second :: rest => (.utf16 true, 0x00 :: second :: rest)
  | first :: 0x00 :: rest => (.utf16 false, first :: 0x00 :: rest)
  | bytes => (.utf8, bytes)

/-- The sixteen-bit units of a byte sequence, with `none` for a byte that is left over. -/
def pairs (bigEndian : Bool) : Text.Bytes → List (Option Nat)
  | [] => []
  | [_] => [none]
  | first :: second :: rest =>
    some (if bigEndian then first.toNat * 256 + second.toNat
      else second.toNat * 256 + first.toNat) :: pairs bigEndian rest

/-- The characters of a sequence of units. A unit that begins a pair takes the next one with
it, whatever it is; a unit that ends a pair makes no character by itself. -/
def joinPairs : List (Option Nat) → List (Option Char)
  | [] => []
  | none :: rest => none :: joinPairs rest
  | some unit :: rest =>
    if 0xd800 ≤ unit ∧ unit < 0xdc00 then
      match rest with
      | some low :: rest =>
        some (Char.ofNat (0x10000 + (unit - 0xd800) * 1024 + low % 1024)) :: joinPairs rest
      | rest => none :: joinPairs rest
    else if 0xdc00 ≤ unit ∧ unit < 0xe000 then none :: joinPairs rest
    else some (Char.ofNat unit) :: joinPairs rest

/-- The character of a byte in an encoding of single bytes. -/
def singleChar (high : List Char) (byte : UInt8) : Option Char :=
  if byte < 0x80 then some (Char.ofNat byte.toNat)
  else match high[byte.toNat - 0x80]? with
    | some c => if c = '\ufffd' then none else some c
    | none => none

/-- The characters of a byte sequence. -/
def decode : Encoding → Text.Bytes → List (Option Char)
  | .utf8, bytes => Text.Utf8.units none bytes
  | .utf16 bigEndian, bytes => joinPairs (pairs bigEndian bytes)
  | .single high, bytes => bytes.map (singleChar high)

/-- The characters of the bytes from 0x80 on, where each byte is its own code point. -/
def latinHigh : List Char :=
  (List.range 128).map fun offset => Char.ofNat (0x80 + offset)

/-- What a declared encoding leads to. -/
inductive Choice where
  /-- What follows the declaration is in this encoding. -/
  | go (encoding : Encoding)
  /-- The declaration contradicts the bytes or cannot be followed. -/
  | contradicted
  /-- The encoding is refused. -/
  | refused (fault : EncodingFault)

/-- The encoding to go on with, when `name` is declared in a document whose first bytes point
to `detected`. -/
def choose (detected : Encoding) (name : String) : Choice :=
  let sameWidth (declared : Encoding) : Choice :=
    if declared.unitBytes = detected.unitBytes ∧ (declared.unitBytes = 1 ∨ declared = detected)
    then .go declared else .contradicted
  match String.ofList (name.toList.map Char.toUpper) with
  | "UTF-8" => sameWidth .utf8
  | "ISO-8859-1" => sameWidth (.single latinHigh)
  | "US-ASCII" => sameWidth (.single (List.replicate 128 '\ufffd'))
  | "UTF-16" => if detected.unitBytes = 2 then .go detected else .contradicted
  | "UTF-16BE" => sameWidth (.utf16 true)
  | "UTF-16LE" => sameWidth (.utf16 false)
  | _ =>
    match Charset.find name with
    | .single high => .go (.single high)
    | .alien => .contradicted
    | .refused fault => .refused fault

end Encoding

end EventAtlas.Xml
