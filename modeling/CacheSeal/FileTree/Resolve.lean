import CacheSeal.FileTree.Lookup
import CacheSeal.Nesting

/-!
The location that a path stands for, whether or not all of it exists, in the spelling of the path and of the links. So
many links are followed one from within the other; where one leads back to itself, it and the rest of the path stay as
they are.
-/

namespace CacheSeal.FileTree

/-- The parts after a link that is left as it is. An empty part before others is a slash, which starts from the root. -/
def leave (location : Location) : List Text → Location
  | [] :: part :: rest => Path.climb [] (part :: rest)
  | rest => Path.climb location rest

/-- Links by their spelling, with the locations that they were found to lead to. So each link is followed once, however
often the targets of others name it. -/
abbrev Known := List (Location × Location)

abbrev Resolving := StateT Known (Except OsError)

/-- Follows the parts from `here`, each link by `enter`, which is given the link, where to start and the parts of its
target; and tells whether all links could be followed. -/
def settleParts (tree : FileTree) (enter : Location → Location → List Text → Resolving (Location × Bool))
    (here : Location) : List Text → Resolving (Location × Bool)
  | [] => return (here, true)
  | part :: rest =>
    if Path.isVoid part then settleParts tree enter here rest
    else if Path.isUpwards part then settleParts tree enter here.dropLast rest
    else do
      let there := here ++ [part]
      match Path.partFault? part, tree.get? (there.map Name.stored), (← get).lookup there with
      | some fault, _, _ => throw fault
      | none, some (.link _), some reached => settleParts tree enter reached rest
      | none, some (.link target), none =>
        let (reached, isWhole) ← enter there (linkBase here target) (Path.pieces target)
        if isWhole then
          modify ((there, reached) :: ·)
          settleParts tree enter reached rest
        else return (leave reached rest, false)
      | none, _, _ => settleParts tree enter there rest

/-- Follows the parts from `here`, within the open links. A link within itself stays. -/
def settle (tree : FileTree) : Nat → List Location → Location → List Text → Resolving (Location × Bool)
  | 0, _, _, _ => throw .tooDeep
  | depth + 1, openLinks, here, parts =>
    let enter (link start : Location) (target : List Text) : Resolving (Location × Bool) :=
      if openLinks.contains link then return (link, false) else settle tree depth (link :: openLinks) start target
    tree.settleParts enter here parts

/-- The location of a path; a path that ends in a circle of links has none. What stands there is asked for in the end,
though it does not matter whether it is there. -/
def resolve (tree : FileTree) (here : Location) (path : Path) : Except OsError Location := do
  let ((location, _), _) ← (tree.settle maxNesting [] (path.base here) path.parts).run []
  match tree.follow [] location.toPath with
  | .error .tooManyLinks => .error .tooManyLinks
  | .error .loneSurrogate => .error .loneSurrogate
  | .error .nulInPath => .error .nulInPath
  | _ => .ok location

end CacheSeal.FileTree
