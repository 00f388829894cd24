import CacheSeal.Cache.Region
import CacheSeal.Checksum
import CacheSeal.Text.Hex

/-!
Comparing the stored checksum of a cache with the one its region has.
-/

namespace CacheSeal.Cache

inductive Verdict where
  | agrees
  | differs
  /-- A word that no comparison gives. -/
  | unknown (name : Text)
deriving DecidableEq, Repr

namespace Verdict

def name : Verdict → Text
  | agrees => "Match"
  | differs => "Mismatch"
  | unknown name => name

def ofName (name : Text) : Verdict :=
  if name = agrees.name then agrees else if name = differs.name then differs else unknown name

end Verdict

/-- The outcome of a comparison, with what a report tells beside it. -/
structure Validation where
  header : Header
  computed : Int
  verdict : Verdict
  headerSize : Int
  fileSize : Int
  layout : Layout
deriving DecidableEq, Repr

namespace Validation

def isMatch (validation : Validation) : Bool :=
  validation.verdict = .agrees

/-- What is told to those who want to know more. -/
def notices (validation : Validation) : List String :=
  (lengthNotice? validation.layout validation.header validation.fileSize.toNat).toList ++
    [s!"Stored checksum {Hex.word validation.header.checksum}, computed {Hex.word validation.computed}"]

end Validation

def validate (layout : Layout) (buffer : Bytes) : Except Header.Truncated Validation := do
  let header ← Header.read layout buffer
  let computed := Checksum.compute (region layout buffer)
  return {
    header
    computed
    verdict := if header.checksum = computed then .agrees else .differs
    headerSize := layout.headerSize
    fileSize := buffer.length
    layout }

end CacheSeal.Cache
