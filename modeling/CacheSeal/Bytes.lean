/-!
Bytes in memory. A buffer is a list, so that its parts are `take` and `drop` and its laws those of lists.
-/

namespace CacheSeal

abbrev Bytes := List UInt8

/-- Overwrites the bytes from `offset` on with `piece`; nothing moves when the piece lies inside the buffer. -/
def Bytes.splice (data : Bytes) (offset : Nat) (piece : Bytes) : Bytes :=
  data.take offset ++ piece ++ data.drop (offset + piece.length)

end CacheSeal
