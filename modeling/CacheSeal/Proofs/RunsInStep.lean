import CacheSeal.Proofs.AccessFailures
import CacheSeal.Proofs.RefilledFiles

/-! Writes on trees that are alike. They fail in both for the same reason or succeed in both, whatever is written, and
the trees that they leave are alike again. So it can be told of a path alone whether a file can be written there. -/

namespace CacheSeal
open Proofs.FailingRuns

namespace Disk
variable {α : Type} {before after : FileTree} {here location : Location} {path : Path}

theorem ask_inStep {answer other : FileTree → Except OsError α}
    (same : ∀ before after : FileTree, before.Alike after → answer before = other after) :
    InStep FileTree.Alike (ask answer) (ask other) := by
  intro before after alike
  rw [run_ask, run_ask]
  exact ⟨same before after alike, alike⟩

theorem placeIn_inStep (above : Location) (path : Path) (unnamed : OsError) :
    InStep FileTree.Alike (placeIn above path unnamed) (placeIn above path unnamed) := by
  apply InStep.bind_get
  intro before after alike
  obtain same | ⟨⟨_, _, old⟩, _, _, new⟩ := alike above
  · rw [same]
    split
    · exact .throw _
    · split
      · exact .throw _
      · exact .pure _
    · exact .throw _
    · exact .throw _
  · rw [old, new]
    exact .throw _

theorem place_inStep (here : Location) (path : Path) (unnamed : OsError) :
    InStep FileTree.Alike (place here path unnamed) (place here path unnamed) := by
  apply InStep.bind
  · apply InStep.bind (ask_inStep fun _ _ _ => rfl)
    intro _
    exact ask_inStep fun _ _ alike => (alike.follow_eq here path.parent).symm
  · intro above
    exact placeIn_inStep above path unnamed

theorem checkName_inStep (path : Path) : InStep FileTree.Alike (checkName path) (checkName path) := by
  unfold checkName
  split
  · exact .throw _
  · exact .pure _

theorem createFile_inStep (here : Location) (path : Path) (mode : Nat) (data : Bytes) :
    InStep FileTree.Alike (createFile here path mode data) (createFile here path mode data) := by
  apply InStep.bind (place_inStep here path .isDirectory)
  intro location
  apply InStep.bind_get
  intro before after alike
  cases stands : before.get? location with
  | none =>
    rw [alike.absent stands]
    apply InStep.bind (.set (alike.insert (.inl rfl)))
    intro _
    exact .pure _
  | some entry =>
    obtain ⟨other, also, -⟩ := alike.present stands
    rw [also]
    exact .throw _

theorem stageWithin_inStep (here : Location) (directory : Path) (ending : String) (attempts : Nat) :
    InStep FileTree.Alike (stageWithin here directory ending attempts) (stageWithin here directory ending attempts) := by
  induction attempts with
  | zero => exact .throw _
  | succ attempts ih =>
    apply InStep.tryCatch (createFile_inStep _ _ _ _)
    intro error
    split
    · exact ih
    · exact .throw error

theorem stage_inStep (here : Location) (directory : Path) (ending : String) :
    InStep FileTree.Alike (stage here directory ending) (stage here directory ending) :=
  stageWithin_inStep here directory ending maxAttempts

theorem fill_inStep (location : Location) (data other : Bytes) :
    InStep FileTree.Alike (fill location data) (fill location other) := by
  apply InStep.modify
  intro before after alike
  obtain same | ⟨⟨mode, _, old⟩, _, _, new⟩ := alike location
  · rw [same]
    cases before.get? location with
    | none => exact alike
    | some entry =>
      cases entry with
      | file mode _ => exact alike.insert (.inr ⟨⟨mode, data, rfl⟩, mode, other, rfl⟩)
      | directory => exact alike
      | link _ => exact alike
  · rw [old, new]
    exact alike.insert (.inr ⟨⟨_, _, rfl⟩, _, _, rfl⟩)

theorem setMode_inStep (location : Location) (mode other : Nat) :
    InStep FileTree.Alike (setMode location mode) (setMode location other) := by
  apply InStep.modify
  intro before after alike
  obtain same | ⟨⟨_, data, old⟩, _, _, new⟩ := alike location
  · rw [same]
    cases before.get? location with
    | none => exact alike
    | some entry =>
      cases entry with
      | file _ data => exact alike.insert (.inr ⟨⟨mode, data, rfl⟩, other, data, rfl⟩)
      | directory => exact alike
      | link _ => exact alike
  · rw [old, new]
    exact alike.insert (.inr ⟨⟨_, _, rfl⟩, _, _, rfl⟩)

theorem remove_inStep (location : Location) : InStep FileTree.Alike (remove location) (remove location) :=
  .modify fun _ _ alike => alike.erase

theorem rename_inStep (source here : Location) (path : Path) :
    InStep FileTree.Alike (rename source here path) (rename source here path) := by
  apply InStep.bind (place_inStep here path .busy)
  intro location
  apply InStep.bind (checkName_inStep path)
  intro _
  apply InStep.bind_get
  intro before after alike
  cases stands : before.get? source with
  | none =>
    rw [alike.absent stands]
    exact .throw _
  | some old =>
    obtain ⟨new, also, entries⟩ := alike.present stands
    rw [also]
    have moved : ((before.erase source).insert location old).Alike ((after.erase source).insert location new) :=
      alike.erase.insert entries
    obtain same | ⟨⟨_, _, first⟩, _, _, second⟩ := alike location
    · rw [same]
      cases before.get? location with
      | none => exact .set moved
      | some entry =>
        cases entry with
        | file _ _ => exact .set moved
        | directory => exact .throw _
        | link _ => exact .set moved
    · rw [first, second]
      exact .set moved

theorem replaceFile_inStep (location : Location) (data other : Bytes) :
    InStep FileTree.Alike (replaceFile location data) (replaceFile location other) := by
  apply InStep.bind (stage_inStep [] location.toPath.parent ".cache")
  intro staged
  apply InStep.tryCatch
  · apply InStep.bind (fill_inStep staged data other)
    intro _
    apply InStep.bind_get
    intro before after alike
    obtain ⟨error, refused, also⟩ | ⟨old, new, found, also, -⟩ := alike.find [] location.toPath
    · rw [refused, also]
      exact rename_inStep staged [] location.toPath
    · rw [found, also]
      apply InStep.bind (setMode_inStep staged old.mode new.mode)
      intro _
      exact rename_inStep staged [] location.toPath
  · intro error
    apply InStep.bind (remove_inStep staged)
    intro _
    exact .throw error

end Disk

namespace Session
variable {α ε : Type} {alike : FileTree → FileTree → Prop}

/-- Sessions in one directory, on trees that are related. What was told in them may differ. -/
def Beside (alike : FileTree → FileTree → Prop) (first second : Session) : Prop :=
  first.directory = second.directory ∧ alike first.tree second.tree

theorem onDisk_inStep {left right : Disk α} (runs : InStep alike left right) (failure : OsError → Failure) :
    InStep (Beside alike) (onDisk left failure) (onDisk right failure) := by
  intro first second beside
  obtain ⟨same, after⟩ := runs first.tree second.tree beside.2
  rw [run_onDisk, run_onDisk]
  rcases ran : left.run first.tree with ⟨result, leftAfter⟩
  rcases also : right.run second.tree with ⟨other, rightAfter⟩
  rw [ran, also] at same after
  obtain rfl : result = other := same
  cases result with
  | error error => exact ⟨rfl, beside.1, after⟩
  | ok value => exact ⟨rfl, beside.1, after⟩

theorem lift_inStep (result : Except ε α) (failure : ε → Failure) :
    InStep (Beside alike) (lift result failure) (lift result failure) := by
  cases result with
  | error error => exact .throw _
  | ok value => exact .pure _

theorem tell_inStep (level : Level) (first second : Text) :
    InStep (Beside alike) (tell level first) (tell level second) :=
  .modify fun _ _ beside => beside

theorem locate_inStep (path : Path) : InStep (Beside FileTree.Alike) (locate path) (locate path) := by
  apply InStep.bind_get
  rintro first second ⟨here, alike⟩
  rw [← here, ← alike.resolve_eq]
  exact lift_inStep _ _

end Session

open Session
variable {tree : FileTree} {directory : Location} {notices : List Notice} {path : Path}

theorem CacheFile.write_inStep (path : Path) (data other : Bytes) :
    InStep (Beside FileTree.Alike) (write path data) (write path other) := by
  apply InStep.bind (locate_inStep path)
  intro location
  apply InStep.bind (onDisk_inStep (Disk.replaceFile_inStep location data other) _)
  intro _
  exact tell_inStep .debug _ _

/-- On one tree the same content leaves the same tree, whatever was told before. -/
theorem CacheFile.write_told (path : Path) (data : Bytes) : InStep (Beside Eq) (write path data) (write path data) := by
  apply InStep.bind
  · apply InStep.bind_get
    rintro ⟨tree, directory, told⟩ ⟨_, _, notices⟩ ⟨rfl, rfl⟩
    exact lift_inStep _ _
  · intro location
    apply InStep.bind (onDisk_inStep (.refl _) _)
    intro _
    exact tell_inStep .debug _ _

/-- No cache file can be written at the path. -/
def CacheFile.Unwritable (tree : FileTree) (directory : Location) (path : Path) : Prop :=
  ∃ failure, ((write path []).run ⟨tree, directory, []⟩).1 = .error failure

theorem CacheFile.unwritable_iff (data : Bytes) (notices : List Notice) :
    Unwritable tree directory path ↔ ∃ failure, ((write path data).run ⟨tree, directory, notices⟩).1 = .error failure := by
  unfold Unwritable
  rw [(write_inStep path [] data ⟨tree, directory, []⟩ ⟨tree, directory, notices⟩ ⟨rfl, .refl tree⟩).1]

namespace ReportFile
variable {payload other : Json} {text shown : String}

theorem store_inStep (printed : payload.print = .ok text) (also : other.print = .ok shown) (here : Location) (path : Path) :
    InStep (Beside FileTree.Alike) (store here path payload) (store here path other) := by
  unfold store
  rw [content_ok printed, content_ok also]
  apply InStep.bind (onDisk_inStep (Disk.stage_inStep _ _ _) _)
  intro staged
  apply InStep.tryCatch
  · apply InStep.bind (onDisk_inStep (Disk.fill_inStep staged _ _) _)
    intro _
    have filled (data other : Bytes) :=
      InStep.bind (onDisk_inStep (Disk.fill_inStep staged data other) (accessFailure "write" path)) fun _ =>
        onDisk_inStep (Disk.rename_inStep staged here path) (accessFailure "write" path)
    exact filled _ _
  · intro failure
    apply InStep.bind (onDisk_inStep (Disk.remove_inStep staged) _)
    intro _
    exact .throw failure

/-- On one tree the same report leaves the same tree, whatever was told before. -/
theorem write_told (path : Path) (payload : Json) : InStep (Beside Eq) (write path payload) (write path payload) := by
  apply InStep.bind_get
  rintro ⟨tree, directory, told⟩ ⟨_, _, notices⟩ ⟨rfl, rfl⟩
  apply InStep.bind (onDisk_inStep (.refl _) _)
  intro _
  apply InStep.bind (onDisk_inStep (.refl _) _)
  intro staged
  apply InStep.tryCatch
  · apply InStep.bind (onDisk_inStep (.refl _) _)
    intro _
    apply InStep.bind (lift_inStep _ _)
    intro data
    apply InStep.bind (onDisk_inStep (.refl _) _)
    intro _
    exact onDisk_inStep (.refl _) _
  · intro failure
    apply InStep.bind (onDisk_inStep (.refl _) _)
    intro _
    exact .throw failure

theorem write_result_eq (printed : payload.print = .ok text) (also : other.print = .ok shown) (session : Session) :
    ((write path payload).run session).1 = ((write path other).run session).1 := by
  rw [write_eq, write_eq, run_bind, run_bind, run_get]
  dsimp only
  rw [run_bind, run_bind]
  rcases (onDisk (Disk.makeParents session.directory path) (accessFailure "write" path)).run session with ⟨result, after⟩
  cases result with
  | error failure => rfl
  | ok _ => exact (store_inStep printed also session.directory path after after ⟨rfl, .refl after.tree⟩).1

/-- No report can be written at the path. -/
def Unwritable (tree : FileTree) (directory : Location) (path : Path) : Prop :=
  ∃ failure, ((write path .null).run ⟨tree, directory, []⟩).1 = .error failure

theorem unwritable_iff (printed : payload.print = .ok text) (notices : List Notice) :
    Unwritable tree directory path ↔
      ∃ failure, ((write path payload).run ⟨tree, directory, notices⟩).1 = .error failure := by
  have blank : Json.null.print = .ok "null" := rfl
  unfold Unwritable
  rw [(write_told path .null ⟨tree, directory, []⟩ ⟨tree, directory, notices⟩ ⟨rfl, rfl⟩).1,
    write_result_eq blank printed]

end ReportFile

end CacheSeal
