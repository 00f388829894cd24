import CacheSeal.Command

/-!
The program on the file system of the machine: it takes up the entries that the arguments name, runs on them in memory,
and then stores what has changed.
-/

namespace CacheSeal.Main

/-- The permission bits under which files are taken up; the bits themselves stay where they are. -/
def takenMode : Nat := 0o644

/-- What stands at a location. A link counts as one that leads straight to its end; one that has none is left out. -/
def look? (location : Location) : IO (Option Entry) := do
  let file := (← IO.currentDir) / location.text.legible
  try
    match (← file.symlinkMetadata).type with
    | .dir => return some .directory
    | .symlink => return some (.link (.ofString (← IO.FS.realPath file).toString))
    | _ => return some (.file takenMode (← IO.FS.readBinFile file).toList)
  catch _ => return none

def takeUp (tree : FileTree) (location : Location) : IO FileTree := do
  match ← look? location with
  | some entry => return tree.insert location entry
  | none => return tree

/-- A location that no link leads to, with the directories above it. -/
def takeUpAll (tree : FileTree) (location : Location) : IO FileTree :=
  (List.range location.length).foldlM (fun tree depth => takeUp tree (location.take (depth + 1))) tree

/-- The entries on the way from a directory along the parts of a path. -/
def takeUpParts (tree : FileTree) (here : Location) : List Text → IO FileTree
  | [] => return tree
  | part :: rest => do
    if Path.isUpwards part then takeUpParts tree here.dropLast rest
    else
      let there := here ++ [part]
      let tree ← takeUp tree there
      match tree.get? there with
      | some (.link target) =>
        let reached := (Path.ofText target).parts
        takeUpParts (← takeUpAll tree reached) reached rest
      | _ => takeUpParts tree there rest

def takeUpPaths (directory : Location) (paths : List Path) : IO FileTree := do
  let above ← takeUpAll .empty directory
  paths.foldlM (fun tree path => takeUpParts tree (path.base directory) path.parts) above

def rights (bits : Nat) : IO.AccessRight :=
  ⟨bits / 4 % 2 = 1, bits / 2 % 2 = 1, bits % 2 = 1⟩

/-- Stores a file in place of what was there; old bits that are to stay are not touched. -/
def storeFile (before : Option Entry) (location : Location) (mode : Nat) (data : Bytes) : IO Unit := do
  let file := location.text.legible
  if let some (.link _) := before then IO.FS.removeFile file
  IO.FS.writeBinFile file ⟨data.toArray⟩
  match before with
  | some (.file old _) => if old ≠ mode then setRights file else return
  | _ => setRights file
where
  setRights (file : String) : IO Unit := IO.setAccessRights file ⟨rights (mode / 64), rights (mode / 8), rights mode⟩

/-- Stores the entries that differ, the oldest first, so that a directory is there before what stands in it. -/
def store (before after : FileTree) : IO Unit :=
  after.entries.reverse.forM fun (location, entry) => do
    if before.get? location ≠ some entry then
      match entry with
      | .file mode data => storeFile (before.get? location) location mode data
      | .directory => IO.FS.createDir location.text.legible
      | .link _ => return

def status : Command.Ending → Nat
  | .exit status => status
  | .escaped _ => 1

def pathsOf (arguments : List Text) : List Path :=
  match Options.Request.ofArguments arguments with
  | .run invocation => .ofText Settings.fileName :: invocation.paths
  | _ => []

def run (arguments : List String) : IO UInt32 := do
  let arguments := arguments.map Text.ofString
  let directory := (Path.ofText (← IO.currentDir).toString).parts
  let before ← takeUpPaths directory (pathsOf arguments)
  let result := Command.run arguments (← (← IO.getStdout).isTty) before directory
  store before result.tree
  IO.print result.output.legible
  IO.eprint result.errors.legible
  return UInt32.ofNat (status result.ending)

end CacheSeal.Main

def main (arguments : List String) : IO UInt32 :=
  CacheSeal.Main.run arguments
