import CacheSeal.Session

/-!
Report files. Missing directories are made; the report takes the place of what stands at its path, a link included, and
only once it is complete.
-/

namespace CacheSeal.ReportFile
open Session

/-- As much of a report as is written before it proves to hold what cannot be. -/
def begun (payload : Json) : Bytes :=
  (String.ofList payload.draft.text).toUTF8.toList

/-- The text of a report as it is stored, with a line feed at its end. -/
def content (payload : Json) : Except Json.Obstacle Bytes := do
  return ((← payload.print) ++ "\n").toUTF8.toList

def write (path : Path) (payload : Json) : Run Unit := do
  let here := (← get).directory
  let refused := accessFailure "write" path
  let parent := path.parent
  onDisk (Disk.makeParents here path) refused
  let staged ← onDisk (Disk.stage [] (parent.literal here).toPath ".json") refused
  let finish : Run Unit := do
    onDisk (Disk.fill staged (begun payload)) refused
    let data ← lift (content payload) .ofObstacle
    onDisk (Disk.fill staged data) refused
    onDisk (Disk.rename staged here path) refused
  tryCatch finish fun failure => do
    onDisk (Disk.remove staged) refused
    throw failure

end CacheSeal.ReportFile
