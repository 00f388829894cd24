import CacheSeal.FileTree.Change
import CacheSeal.Text.Hex

/-!
Replacing a file at once. The content goes into a new file in the same directory, which then takes the place of the old
one; if anything fails on the way, the new file is removed again.
-/

namespace CacheSeal.Disk

/-- The permission bits of a new file before it takes its place. -/
def stagedMode : Nat := 0o600

/-- How many names are tried for a new file. -/
def maxAttempts : Nat := 10000

/-- A name for a new file. All of one ending are of one length. -/
def stagedName (attempt : Nat) (ending : String) : Text :=
  ".tmp-" ++ String.ofList (Hex.lastDigits .lower 8 attempt) ++ ending

def stagedPath (directory : Path) (attempt : Nat) (ending : String) : Path :=
  { directory with parts := directory.parts ++ [stagedName attempt ending] }

/-- A new empty file in a directory, by the first of so many names that is free there. -/
def stageWithin (here : Location) (directory : Path) (ending : String) : Nat → Disk Location
  | 0 => throw .noFreeName
  | attempts + 1 =>
    tryCatch (createFile here (stagedPath directory attempts ending) stagedMode []) fun error =>
      if error = .exists then stageWithin here directory ending attempts else throw error

def stage (here : Location) (directory : Path) (ending : String) : Disk Location :=
  stageWithin here directory ending maxAttempts

/-- Puts new content at a location, which no link on the way there leads to. The permission bits of what was there
stay. -/
def replaceFile (location : Location) (data : Bytes) : Disk Unit := do
  let path := location.toPath
  let staged ← stage [] path.parent ".cache"
  tryCatch
    (do
      fill staged data
      if let .ok old := (← get).find [] path then setMode staged old.mode
      rename staged [] path)
    fun error => do
      remove staged
      throw error

end CacheSeal.Disk
