import CacheSeal.Header.Basic
import CacheSeal.Text.Hex

/-!
Moving the hashes of a donor into a cache. An engine loads a cache only if its own build, the source and the flags hash
to what the header says; the checksum does not cover the header, so it stays good.
-/

namespace CacheSeal.Cache

structure Transplant where
  data : Bytes
  previous : List (Field × Int)
  transplanted : List (Field × Int)
deriving DecidableEq, Repr

namespace Transplant

def isChanged (result : Transplant) : Bool :=
  result.previous ≠ result.transplanted

def noticePart (entry : Field × Int) : String :=
  s!"{entry.1.name}={Hex.word entry.2}"

def notices (result : Transplant) : List String :=
  ["Transplanted " ++ String.intercalate ", " (result.transplanted.map noticePart)]

end Transplant

/-- The cache is judged before the donor. -/
def transplant (layout : Layout) (buffer donor : Bytes) : Except Header.Truncated Transplant := do
  let target ← Header.read layout buffer
  let source ← Header.read layout donor
  return {
    data := Field.transplanted.foldl (fun data field => Header.put layout field (source.get field) data) buffer
    previous := Field.transplanted.map fun field => (field, target.get field)
    transplanted := Field.transplanted.map fun field => (field, source.get field) }

end CacheSeal.Cache
