import CacheSeal.FileTree.Lookup
import CacheSeal.Nesting

/-!
The changes to a tree, one system call each. A call that fails leaves the tree as it was.
-/

namespace CacheSeal

/-- Calls on a tree, up to the first that fails. -/
abbrev Disk := ExceptT OsError (StateM FileTree)

namespace Disk

/-- A call that answers from the tree and does not change it. -/
def ask {α : Type} (answer : FileTree → Except OsError α) : Disk α := do
  match answer (← get) with
  | .ok value => return value
  | .error error => throw error

/-- The location that the last part of a path has in the directory `above`. Paths that end in no name of their own are
refused for the given reason. -/
def placeIn (above : Location) (path : Path) (unnamed : OsError) : Disk Location := do
  match (← get).get? above, path.parts.getLast? with
  | none, _ => throw .noEntry
  | some .directory, some part => if Path.isUpwards part then throw unnamed else return above ++ [Name.stored part]
  | some .directory, none => throw unnamed
  | _, _ => throw .notDirectory

/-- Where all parts of a path but the last lead. -/
def reach (here : Location) (path : Path) : Disk Location := do
  ask fun _ => path.check
  ask fun tree => tree.follow here path.parent

def place (here : Location) (path : Path) (unnamed : OsError) : Disk Location := do
  placeIn (← reach here path) path unnamed

def checkName (path : Path) : Disk Unit := do
  if path.parts.getLast?.any Path.isLongName then throw .nameTooLong

def makeDirectoryIn (above : Location) (path : Path) : Disk Location := do
  let location ← placeIn above path .exists
  checkName path
  let tree ← get
  if (tree.get? location).isSome then throw .exists
  set (tree.insert location .directory)
  return location

def makeDirectory (here : Location) (path : Path) : Disk Location := do
  makeDirectoryIn (← reach here path) path

/-- A new file, in a place where nothing stands. -/
def createFile (here : Location) (path : Path) (mode : Nat) (data : Bytes) : Disk Location := do
  let location ← place here path .isDirectory
  let tree ← get
  if (tree.get? location).isSome then throw .exists
  set (tree.insert location (.file mode data))
  return location

/-- Writes a file that is open already, by its location. -/
def fill (location : Location) (data : Bytes) : Disk Unit :=
  modify fun tree =>
    match tree.get? location with
    | some (.file mode _) => tree.insert location (.file mode data)
    | _ => tree

def setMode (location : Location) (mode : Nat) : Disk Unit :=
  modify fun tree =>
    match tree.get? location with
    | some (.file _ data) => tree.insert location (.file mode data)
    | _ => tree

def remove (location : Location) : Disk Unit :=
  modify fun tree => tree.erase location

/-- Moves a file to a path in one step, over whatever stands there unless it is a directory. A link there is replaced
and not followed. -/
def rename (source : Location) (here : Location) (path : Path) : Disk Unit := do
  let location ← place here path .busy
  checkName path
  let tree ← get
  match tree.get? source, tree.get? location with
  | none, _ => throw .noEntry
  | _, some .directory => throw .isDirectory
  | some entry, _ => set ((tree.erase source).insert location entry)

/-- A directory that is there already, be it through a link, is as good as one made, and a link that cannot be told to
lead to one counts for why it cannot. Where the way is missing, `otherwise` is done. -/
def ensureDirectory (here : Location) (path : Path) (make otherwise : Disk Location) : Disk Location :=
  tryCatch make fun error => do
    if error = .noEntry then otherwise
    else
      let tree ← get
      match tree.follow here path with
      | .ok location => if tree.get? location = some .directory then return location else throw error
      | .error .nameTooLong => throw .nameTooLong
      | .error _ => throw error

/-- The directory with these parts, the last of them first, and those above it as far as they are missing, which may be
so many. What was missing is made in the directory above it, where the way there leads by then. -/
def makeUpwards (here : Location) (anchor : Path.Anchor) : Nat → List Text → Disk Location
  | 0, _ => throw .tooDeep
  | _ + 1, [] =>
    let path : Path := ⟨anchor, []⟩
    ensureDirectory here path (makeDirectory here path) (throw .noEntry)
  | depth + 1, part :: above =>
    let path : Path := ⟨anchor, (part :: above).reverse⟩
    ensureDirectory here path (makeDirectory here path) do
      let directory ← makeUpwards here anchor depth above
      ensureDirectory here path (makeDirectoryIn directory path) (throw .noEntry)

/-- The directory of a path, with all above it. -/
def makeParents (here : Location) (path : Path) : Disk Unit :=
  discard (makeUpwards here path.anchor maxNesting path.parent.parts.reverse)

end Disk

end CacheSeal
