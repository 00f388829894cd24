import CacheSeal.Bytes
import CacheSeal.FileTree.Path

/-!
A tree of files: regular files with their permission bits, directories and symbolic links, each at its location. It is
used by one to whom nothing is refused: permission bits are kept and carried over, and no access fails for them.
-/

namespace CacheSeal

inductive Entry where
  | file (mode : Nat) (data : Bytes)
  | directory
  | link (target : Text)
deriving DecidableEq, Repr

/-- The permission bits of an entry. All may enter a directory, and nobody asks for those of a link. -/
def Entry.mode : Entry → Nat
  | file mode _ => mode
  | directory => 0o755
  | link _ => 0o777

/-- An entry at its location. The length of the location is kept, for it tells most of them apart. -/
structure FileTree.Item where
  location : Location
  entry : Entry
  length : Nat := location.length
  length_eq : length = location.length := by rfl
deriving DecidableEq, Repr

/-- Entries by location. The root is a directory without being listed. -/
structure FileTree where
  items : List FileTree.Item
deriving DecidableEq, Repr

namespace FileTree

/-- Whether an item stands at a location of this length. -/
def Item.isAt (location : Location) (length : Nat) (item : Item) : Bool :=
  item.length == length && item.location == location

theorem Item.isAt_iff (location : Location) (item : Item) :
    item.isAt location location.length = true ↔ item.location = location := by
  constructor
  · intro isAt
    exact beq_iff_eq.mp (Bool.and_eq_true_iff.mp isAt).2
  · intro same
    simp [Item.isAt, item.length_eq, same]

def empty : FileTree :=
  ⟨[]⟩

def entries (tree : FileTree) : List (Location × Entry) :=
  tree.items.map fun item => (item.location, item.entry)

def get? (tree : FileTree) (location : Location) : Option Entry :=
  if location = [] then some .directory
  else (tree.items.find? (Item.isAt location location.length)).map (·.entry)

def erase (tree : FileTree) (location : Location) : FileTree :=
  let length := location.length
  ⟨tree.items.filter (!Item.isAt location length ·)⟩

def insert (tree : FileTree) (location : Location) (entry : Entry) : FileTree :=
  ⟨{ location, entry } :: (tree.erase location).items⟩

end FileTree

/-- Why the file system refuses, or is not even asked. -/
inductive OsError where
  | noEntry
  | notDirectory
  | isDirectory
  | exists
  | tooManyLinks
  | busy
  | nameTooLong
  /-- All names that were tried for a new file were taken. -/
  | noFreeName
  /-- A path with such a character is not even tried. -/
  | nulInPath
  /-- Nor is one that has no bytes. -/
  | loneSurrogate
  /-- Too many links lead to each other, or too many directories are missing within each other. -/
  | tooDeep
deriving DecidableEq, Repr

namespace OsError

def reason : OsError → String
  | noEntry => "No such file or directory"
  | notDirectory => "Not a directory"
  | isDirectory => "Is a directory"
  | .exists => "File exists"
  | tooManyLinks => "Too many levels of symbolic links"
  | busy => "Device or resource busy"
  | nameTooLong => "File name too long"
  | noFreeName => "No usable temporary file name found"
  | nulInPath => "embedded null byte"
  | loneSurrogate => "surrogates not allowed"
  | tooDeep => "nested too deeply"

/-- The number by which the system knows the reason; it has none for what it is not asked. -/
def number : OsError → Nat
  | noEntry => 2
  | notDirectory => 20
  | isDirectory => 21
  | .exists | noFreeName => 17
  | tooManyLinks => 40
  | busy => 16
  | nameTooLong => 36
  | nulInPath | loneSurrogate | tooDeep => 0

end OsError

namespace Path

def partFault? (part : Text) : Option OsError :=
  if hasLoneSurrogate part then some .loneSurrogate else if hasNul part then some .nulInPath else none

/-- A path is made bytes of before anything else is asked of it. -/
def check (path : Path) : Except OsError Unit :=
  if path.parts.any hasLoneSurrogate then .error .loneSurrogate
  else if path.parts.any hasNul then .error .nulInPath
  else if path.isTooLong then .error .nameTooLong
  else .ok ()

end Path

end CacheSeal
