import CacheSeal.Bytes
import CacheSeal.Header.Layout

/-!
Words of four bytes in either order.
-/

namespace CacheSeal

namespace Word

/-- The number of values of a word. -/
def count : Nat := 0x100000000

/-- The word that an integer of any sign and size is stored as. -/
def ofInt (value : Int) : Nat :=
  (value % count).toNat

def toLittle (word : Nat) : Bytes :=
  [word, word / 0x100, word / 0x10000, word / 0x1000000].map UInt8.ofNat

def ofLittle (bytes : Bytes) : Nat :=
  bytes.foldr (fun byte higher => byte.toNat + 0x100 * higher) 0

end Word

namespace ByteOrder

def encode (order : ByteOrder) (word : Nat) : Bytes :=
  match order with
  | little => Word.toLittle word
  | big => (Word.toLittle word).reverse

def decode (order : ByteOrder) (bytes : Bytes) : Nat :=
  match order with
  | little => Word.ofLittle bytes
  | big => Word.ofLittle bytes.reverse

end ByteOrder

end CacheSeal
