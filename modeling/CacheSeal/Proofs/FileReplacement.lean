import CacheSeal.Proofs.FailingRuns
import CacheSeal.Proofs.PathResolution

/-! Replacing a file, call by call. A replacement that fails has taken its new file away again and leaves the tree as it
was; one that succeeds has changed the entry at one place. -/

namespace CacheSeal.Disk
open Proofs.FailingRuns
variable {tree : FileTree} {here above fresh source : Location} {path directory : Path} {name : Text}

theorem run_ask {α : Type} (answer : FileTree → Except OsError α) (tree : FileTree) :
    (ask answer).run tree = (answer tree, tree) := by
  simp only [ask, run_bind, run_get]
  cases answer tree <;> rfl

/-- The path has its last name in a directory to which the parts before it lead. -/
structure Place (tree : FileTree) (here : Location) (path : Path) (above : Location) (name : Text) : Prop where
  checked : path.check = .ok ()
  leads : tree.follow here path.parent = .ok above
  directory : tree.get? above = some .directory
  last : path.parts.getLast? = some name
  onwards : Path.isUpwards name = false

theorem placeIn_run (tree : FileTree) (above : Location) (path : Path) (unnamed : OsError) :
    (∃ error, (placeIn above path unnamed).run tree = (.error error, tree)) ∨
      ∃ name, tree.get? above = some .directory ∧ path.parts.getLast? = some name ∧ Path.isUpwards name = false ∧
        (placeIn above path unnamed).run tree = (.ok (above ++ [Name.stored name]), tree) := by
  simp only [placeIn, run_bind, run_get]
  split
  · exact .inl ⟨_, rfl⟩
  · rename_i name directory last
    split
    · exact .inl ⟨_, rfl⟩
    · rename_i onwards
      exact .inr ⟨name, directory, last, Bool.eq_false_iff.mpr onwards, rfl⟩
  · exact .inl ⟨_, rfl⟩
  · exact .inl ⟨_, rfl⟩

theorem place_run (tree : FileTree) (here : Location) (path : Path) (unnamed : OsError) :
    (∃ error, (place here path unnamed).run tree = (.error error, tree)) ∨
      ∃ above name, Place tree here path above name ∧
        (place here path unnamed).run tree = (.ok (above ++ [Name.stored name]), tree) := by
  simp only [place, reach, run_bind, run_ask]
  cases checked : path.check with
  | error error => exact .inl ⟨error, rfl⟩
  | ok _ =>
    dsimp only
    cases leads : tree.follow here path.parent with
    | error error => exact .inl ⟨error, rfl⟩
    | ok above =>
      obtain failed | ⟨name, directory, last, onwards, placed⟩ := placeIn_run tree above path unnamed
      · exact .inl failed
      · exact .inr ⟨above, name, ⟨checked, leads, directory, last, onwards⟩, placed⟩

/-- A new file makes no place that was not there. -/
theorem Place.of_insert {mode : Nat} {data : Bytes} (absent : tree.get? fresh = none)
    (place : Place (tree.insert fresh (.file mode data)) here path above name) : Place tree here path above name := by
  refine ⟨place.checked, (FileTree.follow_insert_ok_iff mode data absent).mp place.leads, ?_, place.last, place.onwards⟩
  have directory := place.directory
  by_cases same : above = fresh
  · rw [same, FileTree.get?_insert_self (FileTree.ne_root_of_absent absent)] at directory
    cases directory
  · rwa [FileTree.get?_insert_of_ne same] at directory

theorem Place.run (place : Place tree here path above name) (unnamed : OsError) :
    (Disk.place here path unnamed).run tree = (.ok (above ++ [Name.stored name]), tree) := by
  simp only [Disk.place, reach, run_bind, run_ask, place.checked, place.leads]
  simp [placeIn, run_bind, run_get, place.directory, place.last, place.onwards, run_pure]

/-- Room for a new file at a path: a place at which nothing stands. -/
structure Room (tree : FileTree) (here : Location) (path : Path) (fresh : Location) : Prop where
  place : ∃ above name, Place tree here path above name ∧ fresh = above ++ [Name.stored name]
  absent : tree.get? fresh = none

theorem createFile_run (tree : FileTree) (here : Location) (path : Path) (mode : Nat) (data : Bytes) :
    (∃ error, (createFile here path mode data).run tree = (.error error, tree)) ∨
      ∃ fresh, Room tree here path fresh ∧
        (createFile here path mode data).run tree = (.ok fresh, tree.insert fresh (.file mode data)) := by
  simp only [createFile, run_bind, run_get]
  obtain ⟨error, failed⟩ | ⟨above, name, place, placed⟩ := place_run tree here path .isDirectory
  · exact .inl ⟨error, by rw [failed]⟩
  · rw [placed]
    dsimp only
    cases found : tree.get? (above ++ [Name.stored name]) with
    | none => exact .inr ⟨_, ⟨⟨above, name, place, rfl⟩, found⟩, rfl⟩
    | some _ => exact .inl ⟨_, rfl⟩

theorem stageWithin_run (tree : FileTree) (here : Location) (directory : Path) (ending : String) (attempts : Nat) :
    (∃ error, (stageWithin here directory ending attempts).run tree = (.error error, tree)) ∨
      ∃ attempt < attempts, ∃ fresh, Room tree here (stagedPath directory attempt ending) fresh ∧
        (stageWithin here directory ending attempts).run tree = (.ok fresh, tree.insert fresh (.file stagedMode [])) := by
  induction attempts with
  | zero => exact .inl ⟨.noFreeName, rfl⟩
  | succ attempts ih =>
    rw [stageWithin, run_tryCatch]
    obtain ⟨error, failed⟩ | ⟨fresh, room, made⟩ :=
      createFile_run tree here (stagedPath directory attempts ending) stagedMode []
    · rw [failed]
      dsimp only
      split
      · obtain refused | ⟨attempt, below, fresh, room, staged⟩ := ih
        · exact .inl refused
        · exact .inr ⟨attempt, Nat.lt_succ_of_lt below, fresh, room, staged⟩
      · exact .inl ⟨error, rfl⟩
    · rw [made]
      exact .inr ⟨attempts, Nat.lt_succ_self attempts, fresh, room, rfl⟩

theorem stage_run (tree : FileTree) (here : Location) (directory : Path) (ending : String) :
    (∃ error, (stage here directory ending).run tree = (.error error, tree)) ∨
      ∃ attempt < maxAttempts, ∃ fresh, Room tree here (stagedPath directory attempt ending) fresh ∧
        (stage here directory ending).run tree = (.ok fresh, tree.insert fresh (.file stagedMode [])) :=
  stageWithin_run tree here directory ending maxAttempts

theorem rename_run {entry : Entry} (stands : tree.get? source = some entry) (here : Location) (path : Path) :
    (∃ error, (rename source here path).run tree = (.error error, tree)) ∨
      ∃ above name, Place tree here path above name ∧ ¬ Path.isLongName name = true ∧
        tree.get? (above ++ [Name.stored name]) ≠ some .directory ∧
        (rename source here path).run tree = (.ok (), (tree.erase source).insert (above ++ [Name.stored name]) entry) := by
  simp only [rename, checkName, run_bind]
  obtain ⟨error, failed⟩ | ⟨above, name, place, placed⟩ := place_run tree here path .busy
  · exact .inl ⟨error, by rw [failed]⟩
  · rw [placed, place.last]
    dsimp only [Option.any_some]
    by_cases long : Path.isLongName name = true
    · rw [if_pos long]
      exact .inl ⟨_, rfl⟩
    · rw [if_neg long]
      simp only [run_pure, run_get, stands]
      split
      · rename_i directory
        cases directory
      · exact .inl ⟨_, rfl⟩
      · rename_i same free
        cases same
        exact .inr ⟨above, name, place, long, fun directory => free directory, rfl⟩

theorem fill_run (named : fresh ≠ []) (mode : Nat) (old data : Bytes) :
    (fill fresh data).run (tree.insert fresh (.file mode old)) = (.ok (), tree.insert fresh (.file mode data)) := by
  simp only [fill, run_modify, FileTree.get?_insert_self named, FileTree.insert_insert]

theorem setMode_run (named : fresh ≠ []) (old mode : Nat) (data : Bytes) :
    (setMode fresh mode).run (tree.insert fresh (.file old data)) = (.ok (), tree.insert fresh (.file mode data)) := by
  simp only [setMode, run_modify, FileTree.get?_insert_self named, FileTree.insert_insert]

/-- What is done to a new file for it to take the place of another. -/
def finish (fresh location : Location) (data : Bytes) : Disk Unit := do
  fill fresh data
  if let .ok old := (← get).find [] location.toPath then setMode fresh old.mode
  rename fresh [] location.toPath

theorem replaceFile_eq (location : Location) (data : Bytes) :
    replaceFile location data = (do
      let fresh ← stage [] location.toPath.parent ".cache"
      tryCatch (finish fresh location data) fun error => do
        remove fresh
        throw error) :=
  rfl

theorem finish_run (absent : tree.get? fresh = none) (location : Location) (data : Bytes) :
    (finish fresh location data).run (tree.insert fresh (.file stagedMode [])) =
      (rename fresh [] location.toPath).run (tree.insert fresh (.file (tree.bitsAt location) data)) := by
  have named := FileTree.ne_root_of_absent absent
  have bits : (tree.insert fresh (.file stagedMode data)).bitsAt location = tree.bitsAt location :=
    FileTree.bitsAt_insert data absent location
  simp only [finish, run_bind, fill_run named, run_get]
  rw [← bits, FileTree.bitsAt]
  cases (tree.insert fresh (.file stagedMode data)).find [] location.toPath with
  | error _ => rfl
  | ok old => simp only [run_bind, setMode_run named]

theorem replaceFile_run (tree : FileTree) (location : Location) (data : Bytes) :
    (∃ error, (replaceFile location data).run tree = (.error error, tree)) ∨
      ∃ above name, Place tree [] location.toPath above name ∧ ¬ Path.isLongName name = true ∧
        tree.get? (above ++ [Name.stored name]) ≠ some .directory ∧
        (replaceFile location data).run tree =
          (.ok (), tree.insert (above ++ [Name.stored name]) (.file (tree.bitsAt location) data)) := by
  rw [replaceFile_eq, run_bind]
  obtain ⟨error, failed⟩ | ⟨_, -, fresh, ⟨-, absent⟩, staged⟩ := stage_run tree [] location.toPath.parent ".cache"
  · exact .inl ⟨error, by rw [failed]⟩
  have named := FileTree.ne_root_of_absent absent
  rw [staged]
  dsimp only
  rw [run_tryCatch, finish_run absent]
  have stands : (tree.insert fresh (.file (tree.bitsAt location) data)).get? fresh =
      some (.file (tree.bitsAt location) data) :=
    FileTree.get?_insert_self named
  obtain ⟨error, failed⟩ | ⟨above, name, place, short, free, renamed⟩ := rename_run stands [] location.toPath
  · left
    refine ⟨error, ?_⟩
    rw [failed]
    simp only [run_bind, remove, run_modify, run_throw, FileTree.erase_insert, FileTree.erase_of_absent absent]
  · right
    refine ⟨above, name, place.of_insert absent, short, ?_, ?_⟩
    · intro directory
      apply free
      rw [FileTree.get?_insert_of_ne, directory]
      intro same
      rw [same, absent] at directory
      cases directory
    · rw [renamed]
      simp only [FileTree.erase_insert, FileTree.erase_of_absent absent]

end CacheSeal.Disk
