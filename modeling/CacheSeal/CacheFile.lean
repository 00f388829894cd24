import CacheSeal.Session

/-!
Cache files: read as a whole, and replaced as a whole.
-/

namespace CacheSeal.CacheFile
open Session

def read (path : Path) : Run Bytes := do
  let session ← get
  let data ← lift (session.tree.readFile session.directory path) (accessFailure "read" path)
  tell .debug (s!"Read {data.length} bytes from " ++ path.toText)
  return data

/-- The file that the path resolves to is replaced, so links stay and lead to the new content. -/
def write (path : Path) (data : Bytes) : Run Unit := do
  let location ← locate path
  onDisk (Disk.replaceFile location data) (accessFailure "write" path)
  tell .debug (s!"Wrote {data.length} bytes to " ++ location.text)

end CacheSeal.CacheFile
