import CacheSeal.FileTree.Basic

/-!
Following a path through a tree, as the system does on every access: links are followed where they stand, so that a
part leading upwards leaves the directory reached and not the one written, and only so many of them in one access.
-/

namespace CacheSeal.FileTree

/-- How many links one access follows. -/
def maxLinks : Nat := 40

/-- Where a walk ends, or the link that it meets first: the directory in which the link stands, what it leads to, and
the parts behind it. -/
inductive Halt where
  | reached (location : Location)
  | link (here : Location) (target : Text) (rest : List Text)
deriving DecidableEq, Repr

/-- Goes along the parts from the directory `here`, up to the first link. The last part may name what does not exist
yet. -/
def advance (tree : FileTree) (here : Location) : List Text → Except OsError Halt
  | [] => .ok (.reached here)
  | part :: rest =>
    if Path.isVoid part then advance tree here rest
    else if Path.isUpwards part then advance tree here.dropLast rest
    else if Path.isLongName part then .error .nameTooLong
    else
      let there := here ++ [Name.stored part]
      match tree.get? there with
      | none => if rest.isEmpty then .ok (.reached there) else .error .noEntry
      | some .directory => advance tree there rest
      | some (.file _ _) => if rest.isEmpty then .ok (.reached there) else .error .notDirectory
      | some (.link target) => .ok (.link here target rest)

/-- The directory from which the target of a link is followed, when the link stands in `here`. -/
def linkBase (here : Location) (target : Text) : Location :=
  if Path.startsAtRoot target then [] else here

/-- The location that the parts lead to, over so many links. -/
def walk (tree : FileTree) : Nat → Location → List Text → Except OsError Location
  | links, here, parts =>
    match tree.advance here parts with
    | .error error => .error error
    | .ok (.reached location) => .ok location
    | .ok (.link around target rest) =>
      match links with
      | 0 => .error .tooManyLinks
      | fewer + 1 => walk tree fewer (linkBase around target) (Path.pieces target ++ rest)

/-- Where the path leads, links at its end included. -/
def follow (tree : FileTree) (here : Location) (path : Path) : Except OsError Location := do
  path.check
  tree.walk maxLinks (path.base here) path.parts

/-- What stands at the end of the path, links followed. -/
def find (tree : FileTree) (here : Location) (path : Path) : Except OsError Entry := do
  match tree.get? (← tree.follow here path) with
  | some entry => return entry
  | none => throw .noEntry

def readFile (tree : FileTree) (here : Location) (path : Path) : Except OsError Bytes := do
  match ← tree.find here path with
  | .file _ data => return data
  | _ => throw .isDirectory

end CacheSeal.FileTree
