import CacheSeal.FileTree.Resolve
import CacheSeal.FileTree.Stage
import CacheSeal.Header.Basic
import CacheSeal.Json.Printer
import CacheSeal.Report.Text
import CacheSeal.Settings.Error
import CacheSeal.Yaml.Error

/-!
What the program works on: the file tree, its working directory, and what it has told so far. A run that fails keeps
what was told and changed before.
-/

namespace CacheSeal

inductive Level where
  | debug
  | info
deriving DecidableEq, Repr

structure Notice where
  level : Level
  text : Text
deriving DecidableEq, Repr

def Level.name : Level → String
  | .debug => "DEBUG"
  | .info => "INFO"

def Notice.line (notice : Notice) : Text :=
  notice.level.name ++ " " ++ notice.text

structure Session where
  tree : FileTree
  directory : Location
  notices : List Notice
deriving DecidableEq, Repr

/-- Reading or writing a file failed. -/
structure AccessError where
  action : String
  path : Path
  reason : OsError
deriving DecidableEq, Repr

def AccessError.message (error : AccessError) : Text :=
  s!"Cannot {error.action} " ++ error.path.toText ++ s!": {error.reason.reason}"

/-- Why a run ends early. -/
inductive Failure where
  | settings (error : Settings.Error)
  | layout (error : Layout.Error)
  | truncated (error : Header.Truncated)
  | access (error : AccessError)
  | unknownName (error : Report.UnknownName)
  | unprintable (error : Json.Unprintable)
  /-- A path that ends in a circle of links, where it is to be resolved. -/
  | linkCircle
  | nulInPath
  /-- A path with a surrogate that stands for no byte. -/
  | surrogateInPath
  /-- Things lie within each other, or lead to each other, deeper than is followed. -/
  | tooDeep
  /-- It cannot even be told whether the settings file is there. -/
  | pathTooLong
  /-- A settings file is not UTF-8. -/
  | undecodable
  /-- A scalar of the settings file does not suit its tag. -/
  | badScalar (error : Yaml.Error)
  /-- A number has more digits than are ever shown. -/
  | hugeNumber
  /-- An option that names a file was left empty. -/
  | noPath

def Failure.ofUnshowable : Value.Unshowable → Failure
  | .hugeNumber => .hugeNumber
  | .tooDeep => .tooDeep

def Failure.ofObstacle : Json.Obstacle → Failure
  | .unprintable error => .unprintable error
  | .unshowable cause => .ofUnshowable cause

def Failure.ofUntold : Report.Untold → Failure
  | .unknownName error => .unknownName error
  | .hugeNumber => .hugeNumber

/-- Settings that are refused for a value that cannot be shown fail for that instead. -/
def Failure.ofSettings (error : Settings.Error) : Failure :=
  match error.checkShowable with
  | .ok _ => .settings error
  | .error unshowable => .ofUnshowable unshowable

/-- A path that the system was not even asked about is a fault of another kind than one that it refuses. -/
def Failure.ofDisk (error : OsError) (refused : Failure) : Failure :=
  match error with
  | .nulInPath => .nulInPath
  | .loneSurrogate => .surrogateInPath
  | .tooDeep => .tooDeep
  | _ => refused

namespace Session

abbrev Run := ExceptT Failure (StateM Session)

def tell (level : Level) (text : Text) : Run Unit :=
  modify fun session => { session with notices := session.notices ++ [⟨level, text⟩] }

/-- Carries out calls on the tree; what they changed before they failed stays changed. -/
def onDisk {α : Type} (disk : Disk α) (failure : OsError → Failure) : Run α := do
  let session ← get
  let (result, tree) := disk.run session.tree
  set { session with tree }
  match result with
  | .ok value => return value
  | .error error => throw (failure error)

/-- A pure result within a run. -/
def lift {ε α : Type} (result : Except ε α) (failure : ε → Failure) : Run α :=
  match result with
  | .ok value => pure value
  | .error error => throw (failure error)

/-- A refused access to a file. -/
def accessFailure (action : String) (path : Path) (error : OsError) : Failure :=
  .ofDisk error (.access ⟨action, path, error⟩)

/-- The location that a path resolves to. -/
def locate (path : Path) : Run Location := do
  let session ← get
  lift (session.tree.resolve session.directory path) fun error => .ofDisk error .linkCircle

end Session

end CacheSeal
