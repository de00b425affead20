/-!
# UTF-8

Bytes are read one at a time. A stretch of bytes that begins a character but cannot be
completed is ill formed, and so is a byte that begins none; each such stretch is one
ill-formed unit. `decodeLossy` puts the replacement character in its place, `decode?`
refuses the whole text.
-/

namespace EventAtlas.Text

/-- The content of a file. -/
abbrev Bytes := List UInt8

namespace Utf8

/-- A character that has been begun: the bits read so far, how many more bytes it takes, and
the bounds of the next one. -/
structure Partial where
  bits : Nat
  missing : Nat
  low : UInt8
  high : UInt8
deriving DecidableEq

/-- What a byte that stands between characters means. -/
inductive Start where
  /-- It is a character by itself. -/
  | whole (c : Char)
  /-- It begins a longer character. -/
  | opens (state : Partial)
  /-- No character starts with it. -/
  | illFormed

/-- The meaning of a byte between characters. The bounds of the second byte rule out
overlong forms, surrogates and code points past the last one. -/
def start (byte : UInt8) : Start :=
  if byte < 0x80 then .whole (Char.ofNat byte.toNat)
  else if 0xc2 ≤ byte ∧ byte ≤ 0xdf then .opens ⟨byte.toNat - 0xc0, 1, 0x80, 0xbf⟩
  else if byte = 0xe0 then .opens ⟨0, 2, 0xa0, 0xbf⟩
  else if byte = 0xed then .opens ⟨0xd, 2, 0x80, 0x9f⟩
  else if 0xe1 ≤ byte ∧ byte ≤ 0xef then .opens ⟨byte.toNat - 0xe0, 2, 0x80, 0xbf⟩
  else if byte = 0xf0 then .opens ⟨0, 3, 0x90, 0xbf⟩
  else if 0xf1 ≤ byte ∧ byte ≤ 0xf3 then .opens ⟨byte.toNat - 0xf0, 3, 0x80, 0xbf⟩
  else if byte = 0xf4 then .opens ⟨4, 3, 0x80, 0x8f⟩
  else .illFormed

/-- The characters of a byte sequence in order, with `none` for each ill-formed stretch. -/
def units : Option Partial → Bytes → List (Option Char)
  | none, [] => []
  | some _, [] => [none]
  | none, byte :: rest =>
    match start byte with
    | .whole c => some c :: units none rest
    | .opens state => units (some state) rest
    | .illFormed => none :: units none rest
  | some state, byte :: rest =>
    if state.low ≤ byte ∧ byte ≤ state.high then
      let bits := state.bits * 64 + (byte.toNat - 0x80)
      if state.missing ≤ 1 then
        some (Char.ofNat bits) :: units none rest
      else
        units (some ⟨bits, state.missing - 1, 0x80, 0xbf⟩) rest
    else
      none :: match start byte with
        | .whole c => some c :: units none rest
        | .opens next => units (some next) rest
        | .illFormed => none :: units none rest

/-- The text of a byte sequence, with U+FFFD for each ill-formed stretch. -/
def decodeLossy (bytes : Bytes) : List Char :=
  (units none bytes).map (·.getD '\ufffd')

/-- The text of a byte sequence, if it is well formed throughout. -/
def decode? (bytes : Bytes) : Option (List Char) :=
  (units none bytes).mapM id

/-- The bytes of a text. -/
def encode (text : String) : Bytes :=
  text.toUTF8.toList

end Utf8

end EventAtlas.Text
