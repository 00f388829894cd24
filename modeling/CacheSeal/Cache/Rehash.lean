import CacheSeal.Cache.Region
import CacheSeal.Checksum
import CacheSeal.Text.Hex

/-!
Giving a cache the checksum that its region has.
-/

namespace CacheSeal.Cache

structure Rehash where
  data : Bytes
  previous : Int
  new : Int
  /-- What is told to those who want to know more. -/
  notices : List String
deriving DecidableEq, Repr

def Rehash.isChanged (result : Rehash) : Bool :=
  result.previous ≠ result.new

def rehash (layout : Layout) (buffer : Bytes) : Except Header.Truncated Rehash := do
  let header ← Header.read layout buffer
  let computed := Checksum.compute (region layout buffer)
  let data ← Header.write layout .checksum computed buffer
  return {
    data
    previous := header.checksum
    new := computed
    notices := (lengthNotice? layout header buffer.length).toList ++
      [s!"Checksum {Hex.word header.checksum} -> {Hex.word computed}"] }

end CacheSeal.Cache
