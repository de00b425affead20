import EventAtlas.Text.Utf8

/-!
# Base 64

Bytes written as groups of four characters that stand for six bits each. Characters that stand
for nothing are passed over, and a group that is cut short is filled up with equals signs.
-/

namespace EventAtlas.Text.Base64

/-- The six bits that a character stands for. -/
def bits? (c : Char) : Option Nat :=
  if 'A' ≤ c ∧ c ≤ 'Z' then some (c.toNat - 'A'.toNat)
  else if 'a' ≤ c ∧ c ≤ 'z' then some (c.toNat - 'a'.toNat + 26)
  else if '0' ≤ c ∧ c ≤ '9' then some (c.toNat - '0'.toNat + 52)
  else if c = '+' then some 62
  else if c = '/' then some 63
  else none

/-- Where in a group of four characters the next one stands: how many came before it, the bits
of the last one that are left over, and how many equals signs stand directly before it. -/
structure Group where
  count : Nat
  left : Nat
  pads : Nat
deriving DecidableEq, Repr

/-- The front of a group. -/
def Group.start : Group := ⟨0, 0, 0⟩

/-- The bytes of a text from inside a group on; none if the last group is not complete. -/
def decodeFrom (group : Group) : List Char → Option Bytes
  | [] => if group.count = 0 then some [] else none
  | c :: rest =>
    if c = '=' then
      if 2 ≤ group.count ∧ 4 ≤ group.count + group.pads + 1 then some []
      else
        decodeFrom { group with pads := if 2 ≤ group.count then group.pads + 1 else group.pads }
          rest
    else match bits? c with
      | none => decodeFrom group rest
      | some bits =>
        let byte (value : Nat) : UInt8 := UInt8.ofNat value
        match group.count with
        | 0 => decodeFrom ⟨1, bits, 0⟩ rest
        | 1 => (decodeFrom ⟨2, bits % 16, 0⟩ rest).map (byte (group.left * 4 + bits / 16) :: ·)
        | 2 => (decodeFrom ⟨3, bits % 4, 0⟩ rest).map (byte (group.left * 16 + bits / 4) :: ·)
        | _ => (decodeFrom .start rest).map (byte (group.left * 64 + bits) :: ·)

/-- The bytes of a text; none if the last group is not complete. -/
def decode? (text : List Char) : Option Bytes :=
  decodeFrom .start text

end EventAtlas.Text.Base64
