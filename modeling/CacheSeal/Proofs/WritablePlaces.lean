import CacheSeal.Proofs.ArgumentPaths
import CacheSeal.Proofs.ExitStatus
import CacheSeal.Proofs.MissingDirectories

/-! Where a file can be written, told from the tree. There must be room beside it for a new file, in a directory in
which one of the names that are tried is free, and what has its own name must not be a directory. A report needs
besides that the directories on its way are there or can be made. -/

namespace CacheSeal
open Proofs.FailingRuns

namespace Disk
variable {tree : FileTree} {here above fresh source location : Location} {path directory : Path} {name : Text}
  {ending : String} {attempt : Nat}

/-- A path leads to a directory in which a new file can be made: its path is not too long, and one of the names that are
tried is free. -/
structure HasRoom (tree : FileTree) (here : Location) (directory : Path) (ending : String) : Prop where
  checked : (stagedPath directory 0 ending).check = .ok ()
  free : ∃ above, tree.follow here directory = .ok above ∧ tree.get? above = some .directory ∧
    ∃ attempt < maxAttempts, tree.get? (above ++ [Name.stored (stagedName attempt ending)]) = none

/-- A file can be put where the path says: its last part is a name in a directory, and what has that name, if anything
does, is not a directory. -/
def Replaceable (tree : FileTree) (here : Location) (path : Path) : Prop :=
  ∃ above name, Place tree here path above name ∧ ¬ Path.isLongName name = true ∧
    tree.get? (above ++ [Name.stored name]) ≠ some .directory

/-- New files have their places in the directory that the path leads to. -/
theorem place_stagedPath_iff : Place tree here (stagedPath directory attempt ending) above name ↔
    (stagedPath directory 0 ending).check = .ok () ∧ tree.follow here directory = .ok above ∧
      tree.get? above = some .directory ∧ name = stagedName attempt ending := by
  have parent : (stagedPath directory attempt ending).parent = directory :=
    congrArg (Path.mk directory.anchor) List.dropLast_concat
  have last : (stagedPath directory attempt ending).parts.getLast? = some (stagedName attempt ending) :=
    List.getLast?_concat
  have alike := check_stagedPath directory attempt 0 ending
  constructor
  · rintro ⟨checked, leads, stands, named, -⟩
    rw [parent] at leads
    rw [last, Option.some.injEq] at named
    exact ⟨alike.symm.trans checked, leads, stands, named.symm⟩
  · rintro ⟨checked, leads, stands, rfl⟩
    refine ⟨alike.trans checked, ?_, stands, last, rfl⟩
    rwa [parent]

/-- Names are tried until one is free. -/
theorem stageWithin_of_free {attempts : Nat}
    (places : ∀ attempt, Place tree here (stagedPath directory attempt ending) above (stagedName attempt ending))
    (free : ∃ attempt < attempts, tree.get? (above ++ [Name.stored (stagedName attempt ending)]) = none) :
    ∃ fresh, tree.get? fresh = none ∧
      (stageWithin here directory ending attempts).run tree = (.ok fresh, tree.insert fresh (.file stagedMode [])) := by
  induction attempts with
  | zero =>
    obtain ⟨attempt, below, -⟩ := free
    exact absurd below (Nat.not_lt_zero attempt)
  | succ attempts ih =>
    rw [stageWithin, run_tryCatch]
    simp only [createFile, run_bind, (places attempts).run, run_get]
    cases stands : tree.get? (above ++ [Name.stored (stagedName attempts ending)]) with
    | none => exact ⟨_, stands, rfl⟩
    | some entry =>
      obtain ⟨attempt, below, absent⟩ := free
      have earlier : attempt < attempts := by
        refine Nat.lt_of_le_of_ne (Nat.le_of_lt_succ below) ?_
        rintro rfl
        cases stands.symm.trans absent
      obtain ⟨fresh, unused, staged⟩ := ih ⟨attempt, earlier, absent⟩
      exact ⟨fresh, unused, staged⟩

theorem HasRoom.stage (room : HasRoom tree here directory ending) : ∃ fresh, tree.get? fresh = none ∧
    (Disk.stage here directory ending).run tree = (.ok fresh, tree.insert fresh (.file stagedMode [])) := by
  obtain ⟨above, leads, stands, free⟩ := room.free
  refine stageWithin_of_free (fun attempt => ?_) free
  exact place_stagedPath_iff.mpr ⟨room.checked, leads, stands, rfl⟩

theorem refused_or_hasRoom (tree : FileTree) (here : Location) (directory : Path) (ending : String) :
    (∃ error, (Disk.stage here directory ending).run tree = (.error error, tree)) ∨
      HasRoom tree here directory ending := by
  refine (stage_run tree here directory ending).imp_right ?_
  rintro ⟨attempt, few, fresh, ⟨⟨above, name, place, rfl⟩, absent⟩, -⟩
  obtain ⟨checked, leads, stands, rfl⟩ := place_stagedPath_iff.mp place
  exact ⟨checked, above, leads, stands, attempt, few, absent⟩

/-- A new file takes nothing away that a path could be replaced at. -/
theorem Replaceable.insert {mode : Nat} {data : Bytes} (replaceable : Replaceable tree here path)
    (absent : tree.get? fresh = none) : Replaceable (tree.insert fresh (.file mode data)) here path := by
  obtain ⟨above, name, place, short, free⟩ := replaceable
  have apart {location : Location} (stands : tree.get? location = some .directory) :
      (tree.insert fresh (.file mode data)).get? location = some .directory := by
    rw [FileTree.get?_insert_of_ne, stands]
    rintro rfl
    cases absent.symm.trans stands
  refine ⟨above, name, ⟨place.checked, (FileTree.follow_insert_ok_iff mode data absent).mpr place.leads,
    apart place.directory, place.last, place.onwards⟩, short, ?_⟩
  by_cases same : above ++ [Name.stored name] = fresh
  · rw [same, FileTree.get?_insert_self (FileTree.ne_root_of_absent absent)]
    exact nofun
  · rwa [FileTree.get?_insert_of_ne same]

theorem Replaceable.rename {entry : Entry} (replaceable : Replaceable tree here path)
    (stands : tree.get? source = some entry) :
    ∃ after, (Disk.rename source here path).run tree = (.ok (), after) := by
  obtain ⟨above, name, place, short, free⟩ := replaceable
  simp only [Disk.rename, checkName, run_bind, place.run, place.last, Option.any_some, if_neg short, run_pure, run_get,
    stands]
  exact ⟨_, rfl⟩

/-- A location can be given new content if there is room beside it and no directory has its name, and only then. -/
theorem replaceFile_ok_iff (tree : FileTree) (location : Location) (data : Bytes) :
    (∃ after, (replaceFile location data).run tree = (.ok (), after)) ↔
      HasRoom tree [] location.toPath.parent ".cache" ∧ Replaceable tree [] location.toPath := by
  constructor
  · rintro ⟨after, replaced⟩
    obtain ⟨error, failed⟩ | ⟨above, name, place, short, free, -⟩ := replaceFile_run tree location data
    · cases failed.symm.trans replaced
    obtain ⟨error, failed⟩ | room := refused_or_hasRoom tree [] location.toPath.parent ".cache"
    · rw [replaceFile_eq, run_bind, failed] at replaced
      cases replaced
    · exact ⟨room, above, name, place, short, free⟩
  · rintro ⟨room, replaceable⟩
    obtain ⟨fresh, absent, staged⟩ := room.stage
    have stands : (tree.insert fresh (.file (tree.bitsAt location) data)).get? fresh =
        some (.file (tree.bitsAt location) data) := FileTree.get?_insert_self (FileTree.ne_root_of_absent absent)
    obtain ⟨after, renamed⟩ := (replaceable.insert absent).rename stands
    refine ⟨after, ?_⟩
    rw [replaceFile_eq, run_bind, staged]
    dsimp only
    rw [run_tryCatch, finish_run absent, renamed]

end Disk

open Session Disk
variable {tree : FileTree} {directory : Location} {path : Path}

/-- The path is resolved to a location that can be given new content. -/
def CacheFile.Writable (tree : FileTree) (directory : Location) (path : Path) : Prop :=
  ∃ location, tree.resolve directory path = .ok location ∧
    HasRoom tree [] location.toPath.parent ".cache" ∧ Replaceable tree [] location.toPath

theorem CacheFile.unwritable_iff_not_writable :
    Unwritable tree directory path ↔ ¬ Writable tree directory path := by
  unfold Unwritable Writable
  simp only [write, run_bind, run_locate, run_onDisk, run_tell, ← replaceFile_ok_iff tree _ []]
  cases resolved : tree.resolve directory path with
  | error error =>
    refine iff_of_true ⟨_, rfl⟩ ?_
    rintro ⟨_, ⟨⟩, -⟩
  | ok location =>
    dsimp only [Except.mapError]
    cases ran : (replaceFile location []).run tree with
    | mk result after =>
      cases result with
      | error error =>
        refine iff_of_true ⟨_, rfl⟩ ?_
        rintro ⟨_, ⟨⟩, _, replaced⟩
        cases ran.symm.trans replaced
      | ok _ =>
        refine iff_of_false ?_ fun missing => missing ⟨location, rfl, after, ran⟩
        rintro ⟨_, ⟨⟩⟩

namespace ReportFile
variable {payload : Json}

/-- The directory of the path is there or can be made. With all that were missing made, there is room in the directory
that the path spells, and what it names can be replaced. -/
def Writable (tree : FileTree) (directory : Location) (path : Path) : Prop :=
  ∃ levels < maxNesting, ∃ above ready, Readied tree directory path.parent levels above ready ∧
    HasRoom ready [] (path.parent.literal directory).toPath ".json" ∧ Replaceable ready directory path

theorem store_ok_iff {text : String} (printed : payload.print = .ok text) (here : Location) (path : Path)
    (session : Session) : ((store here path payload).run session).1 = .ok () ↔
      HasRoom session.tree [] (path.parent.literal here).toPath ".json" ∧ Replaceable session.tree here path := by
  constructor
  · intro stored
    obtain ⟨failure, failed⟩ | ⟨_, above, name, -, place, short, free, -⟩ := store_run here path payload session
    · rw [failed] at stored
      cases stored
    obtain ⟨error, failed⟩ | room := refused_or_hasRoom session.tree [] (path.parent.literal here).toPath ".json"
    · rw [store, run_bind, run_onDisk, failed] at stored
      cases stored
    · exact ⟨room, above, name, place, short, free⟩
  · rintro ⟨room, replaceable⟩
    obtain ⟨fresh, absent, staged⟩ := room.stage
    have named := FileTree.ne_root_of_absent absent
    have stands : (session.tree.insert fresh (.file stagedMode (text ++ "\n").toUTF8.toList)).get? fresh = some _ :=
      FileTree.get?_insert_self named
    obtain ⟨after, renamed⟩ := (replaceable.insert absent).rename stands
    simp only [store, run_bind, run_onDisk, staged, run_tryCatch, fill_run named, content_ok printed, run_lift_ok,
      renamed]

/-- The tree is one of a system, and the working directory is in it. -/
theorem unwritable_iff_not_writable (plain : path.Plain) (rooted : tree.Rooted)
    (grounded : tree.get? (path.base directory) = some .directory) :
    Unwritable tree directory path ↔ ¬ Writable tree directory path := by
  have blank : Json.null.print = .ok "null" := rfl
  unfold Unwritable
  rw [write_eq, run_bind, run_get]
  dsimp only
  rw [run_bind, run_onDisk]
  have made_iff {ready : FileTree} := @makeParents_ok_iff tree ready directory path plain rooted grounded
  cases ran : (makeParents directory path).run tree with
  | mk result ready =>
    cases result with
    | error error =>
      refine iff_of_true ⟨_, rfl⟩ ?_
      rintro ⟨levels, few, above, ready, readied, -⟩
      cases ran.symm.trans (made_iff.mpr ⟨levels, few, above, readied⟩)
    | ok _ =>
      dsimp only
      have stored := store_ok_iff blank directory path ⟨ready, directory, []⟩
      cases wrote : ((store directory path .null).run ⟨ready, directory, []⟩).1 with
      | error failure =>
        refine iff_of_true ⟨failure, rfl⟩ ?_
        rintro ⟨levels, few, above, _, readied, possible⟩
        cases ran.symm.trans (made_iff.mpr ⟨levels, few, above, readied⟩)
        cases wrote.symm.trans (stored.mpr possible)
      | ok _ =>
        obtain ⟨levels, few, above, readied⟩ := made_iff.mp ran
        exact iff_of_false nofun fun missing => missing ⟨levels, few, above, ready, readied, stored.mp wrote⟩

end ReportFile

/-- A command is at fault for its output just where the report or the result goes to a place that cannot be written. -/
theorem Command.badOutput_iff {arguments : List Text} {invocation : Options.Invocation} (rooted : tree.Rooted)
    (grounded : tree.get? directory = some .directory)
    (asked : Options.Request.ofArguments arguments = .run invocation) :
    BadOutput tree directory invocation ↔
      (∃ json failOnMismatch noColor path, invocation.task = .validate json (.given path) failOnMismatch noColor ∧
        ¬ ReportFile.Writable tree directory path) ∨
      isRewriting invocation.task = true ∧
        ∃ destination, Goes invocation.path (outputOf invocation.task) destination ∧
          ¬ CacheFile.Writable tree directory destination := by
  have report_iff {json failOnMismatch noColor : Bool} {path : Path}
      (task : invocation.task = .validate json (.given path) failOnMismatch noColor) :
      ReportFile.Unwritable tree directory path ↔ ¬ ReportFile.Writable tree directory path := by
    refine ReportFile.unwritable_iff_not_writable (Options.plain_of_report asked task) rooted ?_
    unfold Path.base
    split
    · rfl
    · exact grounded
  constructor
  · intro bad
    cases bad with
    | report task refused => exact .inl ⟨_, _, _, _, task, (report_iff task).mp refused⟩
    | cache rewriting goes refused =>
      exact .inr ⟨rewriting, _, goes, CacheFile.unwritable_iff_not_writable.mp refused⟩
  · rintro (⟨json, failOnMismatch, noColor, path, task, missing⟩ | ⟨rewriting, destination, goes, missing⟩)
    · exact .report task ((report_iff task).mpr missing)
    · exact .cache rewriting goes (CacheFile.unwritable_iff_not_writable.mpr missing)

end CacheSeal
