import CacheSeal.Argument
import CacheSeal.Session
import CacheSeal.Settings.Entries
import CacheSeal.Yaml.Document

/-!
Finding and reading the settings file: the one that is asked for, or the one in the working directory if there is one.
What its document loads as is up to `Yaml.load`, which stands for a loader that the program does not bring along.
-/

namespace CacheSeal.Settings

def fileName : String := "codecache.yaml"

def readDocument (path : Text) (data : Bytes) : Except Failure Value :=
  match Yaml.decode? data with
  | none => .error .undecodable
  | some chars =>
    match Yaml.load chars with
    | .ok value => .ok value
    | .error .malformed => .error (.settings (.noDocument path))
    | .error error => .error (.badScalar error)

def unreadable (path : Text) (error : OsError) : Failure :=
  .ofDisk error (.settings (.unreadable path error.number error.reason))

open Session

/-- Where the settings are looked for: at an explicit path, which is resolved first, or in the working directory. -/
def place (explicit : Argument Path) : Run Location := do
  match explicit with
  | .given path => locate path
  | _ => return (← get).directory ++ [Text.ofString fileName]

/-- The settings in the file at a location, or those in effect without one, if the file need not be there. -/
def loadAt (location : Location) (isNeeded : Bool) : Run Settings := do
  let tree := (← get).tree
  let path := location.toPath
  let shown := location.text
  match tree.find [] path with
  | .ok _ => pure ()
  | .error .nameTooLong => throw .pathTooLong
  | .error _ =>
    if isNeeded then throw (.settings (.notFound shown))
    return default
  let data ← lift (tree.readFile [] path) (unreadable shown)
  let value ← lift (readDocument shown data) id
  match entries? value with
  | none => throw (.settings (.noMapping shown))
  | some entries =>
    lift (entries.forM fun entry => entry.1.checkShowable) .ofUnshowable
    lift (checkKeys entries) .settings
    tell .debug ("Loaded config from " ++ shown)
    lift (ofValues entries) .ofSettings

/-- An option without a path asks for the file in the working directory, which then has to be there. -/
def load (explicit : Argument Path) : Run Settings := do
  loadAt (← place explicit) (!explicit.isAbsent)

end CacheSeal.Settings
