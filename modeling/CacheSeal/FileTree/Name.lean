import CacheSeal.Bytes
import CacheSeal.Text.Basic

/-!
Names as a file system holds them, which is as bytes. Bytes that are no UTF-8 are shown as the surrogates from U+DC80
on, one for each byte, and by these they can be named; other surrogates have no bytes.
-/

namespace CacheSeal.Name

/-- The surrogate that stands for a byte. -/
def escaped (byte : UInt8) : CodePoint :=
  ⟨0xdc00 + byte.toNat, by have bound := byte.toNat_lt; omega⟩

def pointBytes? (point : CodePoint) : Option Bytes :=
  match point.toChar? with
  | some c => some (String.utf8EncodeChar c)
  | none => if 0xdc80 ≤ point.val ∧ point.val ≤ 0xdcff then some [UInt8.ofNat (point.val - 0xdc00)] else none

def bytes? (name : Text) : Option Bytes := do
  return (← name.mapM pointBytes?).flatten

/-- The code point at the start of the bytes, and how many bytes more than the first it takes. -/
def pointAt (first : UInt8) (rest : Bytes) : CodePoint × Nat :=
  match ByteArray.utf8DecodeChar? ⟨(first :: rest.take 3).toArray⟩ 0 with
  | some c => (.ofChar c, c.utf8Size - 1)
  | none => (escaped first, 0)

/-- The code points behind the next `skipped` bytes. -/
def decode : Nat → Bytes → Text
  | _, [] => []
  | skipped + 1, _ :: rest => decode skipped rest
  | 0, first :: rest =>
    let (point, more) := pointAt first rest
    point :: decode more rest

/-- The name as the file system shows it: surrogates whose bytes make up a character are that character. -/
def stored (name : Text) : Text :=
  ((bytes? name).map (decode 0)).getD name

def byteCount (name : Text) : Nat :=
  ((bytes? name).map List.length).getD 0

end CacheSeal.Name
