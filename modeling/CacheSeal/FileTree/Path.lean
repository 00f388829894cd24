import CacheSeal.FileTree.Name

/-!
Paths as they are written: from the root or from the working directory, with empty parts and single dots left out.
Parts that lead upwards stay, for what they mean depends on links.
-/

namespace CacheSeal

/-- Where a path starts. Two slashes are kept apart from one. -/
inductive Path.Anchor where
  | here
  | root
  | doubleRoot
deriving DecidableEq, Repr

structure Path where
  anchor : Path.Anchor
  parts : List Text
deriving DecidableEq, Repr

/-- The names on the way from the root to an entry. -/
abbrev Location := List Text

namespace Path

def slash : CodePoint := '/'

/-- The text between slashes, empty pieces included. -/
def pieces (text : Text) : List Text :=
  List.splitOn slash text

/-- Parts that lead nowhere. -/
def isVoid (part : Text) : Bool :=
  part = [] || part = "."

def isUpwards (part : Text) : Bool :=
  part = ".."

def anchorOf (text : Text) : Anchor :=
  match (text.takeWhile (· = slash)).length with
  | 0 => .here
  | 2 => .doubleRoot
  | _ => .root

def ofText (text : Text) : Path :=
  ⟨anchorOf text, (pieces text).filter (!isVoid ·)⟩

def anchorText : Anchor → String
  | .here => ""
  | .root => "/"
  | .doubleRoot => "//"

def toText (path : Path) : Text :=
  let text : Text := anchorText path.anchor ++ List.intercalate [slash] path.parts
  if text.isEmpty then "." else text

/-- The path without its last part, or the path itself if it has none. -/
def parent (path : Path) : Path :=
  { path with parts := path.parts.dropLast }

/-- Whether a text starts from the root, as what a link leads to may do. -/
def startsAtRoot (text : Text) : Bool :=
  text.head? = some slash

def isAbsolute (path : Path) : Bool :=
  path.anchor ≠ .here

/-- No file system has such a name. -/
def hasNul (part : Text) : Bool :=
  part.contains '\x00'

/-- Nor can such a name be given to one. -/
def hasLoneSurrogate (part : Text) : Bool :=
  (Name.bytes? part).isNone

/-- No file system has a name of more bytes. -/
def maxNameBytes : Nat := 255

/-- A path of this many bytes, or more, is not even tried. -/
def pathLimit : Nat := 4096

def isLongName (name : Text) : Bool :=
  maxNameBytes < Name.byteCount name

def isTooLong (path : Path) : Bool :=
  pathLimit ≤ Name.byteCount path.toText

/-- Where to start, when the working directory is `here`. -/
def base (path : Path) (here : Location) : Location :=
  if path.isAbsolute then [] else here

/-- The location that a path has if no part of it is a link. -/
def climb : Location → List Text → Location
  | location, [] => location
  | location, part :: rest =>
    if isVoid part then climb location rest
    else if isUpwards part then climb location.dropLast rest
    else climb (location ++ [part]) rest

def literal (path : Path) (here : Location) : Location :=
  climb (path.base here) path.parts

end Path

namespace Location

def toPath (location : Location) : Path :=
  ⟨.root, location⟩

def text (location : Location) : Text :=
  location.toPath.toText

end Location

end CacheSeal
