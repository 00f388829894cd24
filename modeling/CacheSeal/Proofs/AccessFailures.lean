import CacheSeal.Proofs.CacheFileReads
import CacheSeal.Proofs.FailureReasons
import CacheSeal.ReportFile

/-! How reading and writing fail. Where the system is asked at all, every failure is a refused access that names the
path. Reads ask it at once; writes resolve their path first, and reports may give up on the directories above theirs. -/

namespace CacheSeal
open Proofs.FailingRuns

namespace Session
variable {action : String} {path : Path} {session : Session}

/-- A refused access to the path. -/
def IsAccess (action : String) (path : Path) (failure : Failure) : Prop :=
  ∃ reason, failure = .access ⟨action, path, reason⟩

theorem isAccess_accessFailure_iff {error : OsError} :
    IsAccess action path (accessFailure action path error) ↔ error.OfSystem := by
  constructor
  · intro access
    obtain ⟨reason, same⟩ := access
    cases error <;> first | decide | cases same
  · intro system
    refine ⟨error, ?_⟩
    cases error <;> first | rfl | exact absurd rfl system

/-- The run succeeds, or its failure is a refused access to the path. -/
def Answers {α : Type} (action : String) (path : Path) (run : Run α) (session : Session) : Prop :=
  ∀ failure, (run.run session).1 = .error failure → IsAccess action path failure

theorem onDisk_fails {α : Type} {disk : Disk α} {allowed : OsError → Prop} {directory : Location}
    (fails : Disk.FailsFor allowed disk) (failure : OsError → Failure) :
    FailsOnly (fun session => session.directory = directory)
      (fun refused => ∃ error, allowed error ∧ refused = failure error) (onDisk disk failure) := by
  intro session here
  have ends := fails session.tree trivial
  rw [run_onDisk]
  rcases ran : disk.run session.tree with ⟨result, after⟩
  rw [ran] at ends
  cases result with
  | ok value =>
    apply Ends.ok
    exact here
  | error error =>
    apply Ends.error
    · exact here
    · exact ⟨error, ends.fails error rfl, rfl⟩

end Session

open Session
variable {path : Path} {session : Session}

/-- A read is refused as an access, unless its path cannot even be named. -/
theorem CacheFile.read_answers_iff : Answers "read" path (CacheFile.read path) session ↔ path.Nameable := by
  constructor
  · intro answers
    rw [Path.nameable_iff]
    intro error refused
    rw [← isAccess_accessFailure_iff]
    apply answers
    rw [CacheFile.read_run, FileTree.readFile_of_check refused]
  · intro nameable failure failed
    rw [CacheFile.read_run] at failed
    split at failed
    · cases failed
    next refused =>
      cases failed
      exact isAccess_accessFailure_iff.mpr (FileTree.readFile_error nameable refused)

/-- A write is refused as an access, unless its path cannot be resolved. -/
theorem CacheFile.write_answers_iff {data : Bytes} :
    Answers "write" path (CacheFile.write path data) session ↔
      ∃ location, session.tree.resolve session.directory path = .ok location := by
  unfold Answers
  simp only [CacheFile.write, run_bind, run_locate, run_onDisk, run_tell]
  cases resolved : session.tree.resolve session.directory path with
  | error error =>
    constructor
    · intro answers
      obtain ⟨reason, same⟩ := answers _ rfl
      cases error <;> cases same
    · intro located
      obtain ⟨location, same⟩ := located
      cases same
  | ok location =>
    refine iff_of_true ?_ ⟨location, rfl⟩
    intro failure failed
    have ends := Disk.replaceFile_fails (FileTree.resolve_nameable resolved) data session.tree trivial
    dsimp only [Except.mapError] at failed
    rcases ran : (Disk.replaceFile location data).run session.tree with ⟨result, after⟩
    rw [ran] at ends failed
    cases result with
    | error error =>
      cases failed
      exact isAccess_accessFailure_iff.mpr (ends.fails error rfl)
    | ok value => cases failed

namespace ReportFile

/-- What is done for a report once its directory is there. -/
def store (here : Location) (path : Path) (payload : Json) : Run Unit := do
  let refused := accessFailure "write" path
  let staged ← onDisk (Disk.stage [] (path.parent.literal here).toPath ".json") refused
  let finish : Run Unit := do
    onDisk (Disk.fill staged (begun payload)) refused
    let data ← lift (content payload) .ofObstacle
    onDisk (Disk.fill staged data) refused
    onDisk (Disk.rename staged here path) refused
  tryCatch finish fun failure => do
    onDisk (Disk.remove staged) refused
    throw failure

theorem write_eq (path : Path) (payload : Json) :
    write path payload = (do
      let here := (← get).directory
      onDisk (Disk.makeParents here path) (accessFailure "write" path)
      store here path payload) :=
  rfl

theorem content_ok {payload : Json} {text : String} (printed : payload.print = .ok text) :
    content payload = .ok (text ++ "\n").toUTF8.toList := by
  unfold content
  rw [printed]
  rfl

theorem onDisk_accesses {α : Type} {disk : Disk α} {directory : Location}
    (fails : Disk.FailsFor OsError.OfSystem disk) :
    FailsOnly (fun session => session.directory = directory) (IsAccess "write" path)
      (onDisk disk (accessFailure "write" path)) := by
  refine (onDisk_fails fails _).weaken ?_
  intro failure refused
  obtain ⟨error, system, same⟩ := refused
  rw [same]
  exact isAccess_accessFailure_iff.mpr system

theorem store_fails {payload : Json} {text : String} {here directory : Location} (printed : payload.print = .ok text)
    (nameable : path.Nameable) (hereNameable : here.toPath.Nameable) :
    FailsOnly (fun session => session.directory = directory) (IsAccess "write" path) (store here path payload) := by
  apply FailsOnly.bind (onDisk_accesses (Disk.stage_fails (nameable.parent.literal hereNameable) (by decide)))
  intro staged
  refine FailsOnly.tryCatch (?_ : FailsOnly _ (IsAccess "write" path) _) ?_
  · apply FailsOnly.bind (onDisk_accesses (Disk.fill_fails staged _))
    intro _
    rw [content_ok printed]
    apply FailsOnly.bind (.pure _)
    intro data
    apply FailsOnly.bind (onDisk_accesses (Disk.fill_fails staged data))
    intro _
    exact onDisk_accesses (Disk.rename_fails nameable staged)
  · intro failure access
    exact (onDisk_accesses (Disk.remove_fails staged)).bind fun _ => .throw access

/-- A report is refused as an access, unless its path cannot be named, or too many directories are missing on the way. -/
theorem write_answers {payload : Json} {text : String} (printed : payload.print = .ok text) (nameable : path.Nameable)
    (hereNameable : session.directory.toPath.Nameable)
    (near : ¬ Disk.GivesUp session.tree session.directory path) :
    Answers "write" path (write path payload) session := by
  intro failure failed
  rw [write_eq, run_bind, run_get] at failed
  dsimp only at failed
  rw [run_bind, run_onDisk] at failed
  have fails : Disk.FailsFor (fun error => error.OfSystem ∨ error = .tooDeep)
      (Disk.makeParents session.directory path) :=
    Disk.makeParents_fails nameable (fun _ => .inl) (.inr (.inr rfl))
  have ends := fails session.tree trivial
  unfold Disk.GivesUp at near
  rcases made : (Disk.makeParents session.directory path).run session.tree with ⟨result, after⟩
  rw [made] at failed ends near
  cases result with
  | error error =>
    cases failed
    have system := (ends.fails error rfl).resolve_right fun deep => near (congrArg Except.error deep)
    exact isAccess_accessFailure_iff.mpr system
  | ok _ => exact (store_fails printed nameable hereNameable _ rfl).fails failure failed

end ReportFile

/-- Every failure to read, write or report is a refused access to the path where the system is asked: by a read if the
path can be named, by a write if it can be resolved, by a report if it can be named and not too many directories are
missing above it. Read and written is nothing else, and no path within the bound has too many above it. The working
directory has names of its own. -/
theorem accesses_answered (session : Session) (path : Path) (data : Bytes) {payload : Json} {text : String}
    (printed : payload.print = .ok text) (hereNameable : session.directory.toPath.Nameable) :
    (Answers "read" path (CacheFile.read path) session ↔ path.Nameable) ∧
      (Answers "write" path (CacheFile.write path data) session ↔
        ∃ location, session.tree.resolve session.directory path = .ok location) ∧
      (path.Nameable → ¬ Disk.GivesUp session.tree session.directory path →
        Answers "write" path (ReportFile.write path payload) session) ∧
      (path.Nameable → path.parts.length ≤ maxNesting → ¬ Disk.GivesUp session.tree session.directory path) :=
  ⟨CacheFile.read_answers_iff, CacheFile.write_answers_iff,
    fun nameable near => ReportFile.write_answers printed nameable hereNameable near, Disk.not_givesUp⟩

theorem accesses_answered_linked :
    Answers "read" (Path.ofText "foo") (CacheFile.read (Path.ofText "foo")) ⟨CacheFile.linked, [], []⟩ ∧
      Answers "write" (Path.ofText "foo") (CacheFile.write (Path.ofText "foo") [1]) ⟨CacheFile.linked, [], []⟩ ∧
      Answers "write" (Path.ofText "foo") (ReportFile.write (Path.ofText "foo") .null) ⟨CacheFile.linked, [], []⟩ := by
  have printed : Json.null.print = .ok "null" := rfl
  have nameable : (Path.ofText "foo").Nameable := by decide
  obtain ⟨reads, writes, reports, near⟩ :=
    accesses_answered ⟨CacheFile.linked, [], []⟩ (Path.ofText "foo") [1] printed (by decide)
  exact ⟨reads.mpr nameable, writes.mpr ⟨["bar"], rfl⟩, reports nameable (near nameable (by decide))⟩

/-- A path that ends in a circle of links is not resolved, and the write of it fails as no access. -/
theorem write_circle_unanswered :
    (CacheFile.write (Path.ofText "loop") [1]).run ⟨CacheFile.circle, [], []⟩ =
        (.error .linkCircle, ⟨CacheFile.circle, [], []⟩) ∧
      ¬ Answers "write" (Path.ofText "loop") (CacheFile.write (Path.ofText "loop") [1]) ⟨CacheFile.circle, [], []⟩ := by
  refine ⟨rfl, ?_⟩
  intro answers
  obtain ⟨reason, same⟩ := answers .linkCircle rfl
  cases same

end CacheSeal
