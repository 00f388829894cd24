import CacheSeal.Bytes

/-!
Bytes written with 64 letters. Characters outside of the alphabet are passed over, and padding ends the text.
-/

namespace CacheSeal.Base64

def value? (c : Char) : Option Nat :=
  if 'A' ≤ c ∧ c ≤ 'Z' then some (c.toNat - 'A'.toNat)
  else if 'a' ≤ c ∧ c ≤ 'z' then some (c.toNat - 'a'.toNat + 26)
  else if '0' ≤ c ∧ c ≤ '9' then some (c.toNat - '0'.toNat + 52)
  else if c = '+' then some 62
  else if c = '/' then some 63
  else none

/-- Where the reader is in a group of four letters, the bits left from the letter before, and the padding seen. -/
private structure Group where
  letters : Nat
  bits : Nat
  padding : Nat

private def read (group : Group) : List Char → Option Bytes
  | [] => if group.letters = 0 then some [] else none
  | c :: rest =>
    if c = '=' then
      if 2 ≤ group.letters ∧ 4 ≤ group.letters + group.padding + 1 then some []
      else read { group with padding := if 2 ≤ group.letters then group.padding + 1 else group.padding } rest
    else match value? c with
      | none => read group rest
      | some value =>
        match group.letters with
        | 0 => read ⟨1, value, 0⟩ rest
        | 1 => (UInt8.ofNat (group.bits * 4 + value / 16) :: ·) <$> read ⟨2, value % 16, 0⟩ rest
        | 2 => (UInt8.ofNat (group.bits * 16 + value / 4) :: ·) <$> read ⟨3, value % 4, 0⟩ rest
        | _ => (UInt8.ofNat (group.bits * 64 + value) :: ·) <$> read ⟨0, 0, 0⟩ rest

def toBytes? (text : List Char) : Option Bytes :=
  read ⟨0, 0, 0⟩ text

end CacheSeal.Base64
