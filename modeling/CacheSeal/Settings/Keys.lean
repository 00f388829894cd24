import CacheSeal.Settings.Error
import CacheSeal.Text.Similarity

/-!
The names of the settings, and which of them a misspelt one may have meant.
-/

namespace CacheSeal.Settings

/-- In the order of their letters. -/
def keys : List String :=
  ["byte_order", "color", "pointer_width"]

def isKey (name : Text) : Bool :=
  keys.any fun key => Text.ofString key = name

structure Candidate where
  key : String
  ratio : Similarity.Ratio

/-- Of equally good candidates the later counts. -/
def better (best : Option Candidate) (candidate : Candidate) : Option Candidate :=
  match best with
  | none => some candidate
  | some other => if other.ratio.le candidate.ratio then some candidate else best

/-- The setting that is most like the name, if any is like it at all. -/
def suggestion? (name : Text) : Option String :=
  let candidates := keys.map fun key => Candidate.mk key (Similarity.ratio (Text.ofString key) name)
  ((candidates.filter (·.ratio.isClose)).foldl better none).map (·.key)

end CacheSeal.Settings
