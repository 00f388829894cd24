import CacheSeal.Proofs.CacheFileWrites
import CacheSeal.Proofs.PathAgreement

/-! What is read of a cache file that has just been written. The write follows its path also where nothing is, which
no lookup does; so the content comes back just if the path could be looked up before. -/

namespace CacheSeal

namespace FileTree
variable {before after : FileTree} {target : Location} {data : Bytes}

/-- A replacement opens no way and closes none. -/
theorem Replaced.sameWays (replaced : before.Replaced target data after) : SameWays before after target := by
  refine ⟨replaced.elsewhere, ?_, .inr ⟨_, _, replaced.there⟩⟩
  cases stands : before.get? target with
  | none => exact .inl stands
  | some entry =>
    cases entry with
    | file mode data => exact .inr ⟨mode, data, stands⟩
    | directory => cases (replaced.directories target stands).symm.trans replaced.there
    | link text => exact absurd ⟨text, stands⟩ replaced.noLink

end FileTree

namespace CacheFile
open Proofs.FailingRuns Session
variable {path : Path} {data : Bytes} {session after : Session}

theorem read_run (path : Path) (session : Session) :
    (read path).run session =
      match session.tree.readFile session.directory path with
      | .ok data => (.ok data, { session with
          notices := session.notices ++ [⟨.debug, s!"Read {data.length} bytes from " ++ path.toText⟩] })
      | .error error => (.error (accessFailure "read" path error), session) := by
  simp only [read, run_bind, run_get, run_lift]
  cases session.tree.readFile session.directory path with
  | ok data => rfl
  | error error => rfl

theorem written_of_run (grounded : session.tree.Settled session.directory)
    (wrote : (write path data).run session = (.ok (), after)) :
    after.directory = session.directory ∧
      ∃ location target, session.tree.Written session.directory path data after.tree location target := by
  obtain ⟨failure, failed⟩ | ⟨location, above, name, notices, resolved, place, short, free, written⟩ :=
    write_run path data session
  · rw [failed] at wrote
    cases wrote
  · rw [written] at wrote
    cases wrote
    exact ⟨rfl, location, _, .of_place grounded data resolved place short free⟩

/-- Where no circle of links is met, a write is a replacement at the place that the path resolves to. -/
theorem replaced_of_run (grounded : session.tree.Settled session.directory)
    (wrote : (write path data).run session = (.ok (), after))
    (whole : session.tree.IsWhole session.directory path) :
    ∃ location, session.tree.resolve session.directory path = .ok location ∧
      session.tree.Replaced (location.map Name.stored) data after.tree := by
  obtain ⟨-, location, target, written⟩ := written_of_run grounded wrote
  obtain ⟨same, noLink⟩ := written.whole whole
  have replaced := written.replaced_iff.mpr noLink
  rw [same] at replaced
  exact ⟨location, written.resolved, replaced⟩

/-- What was written is read again if the path could be looked up before it was written, to a file or to a free place
in a directory. If it could not, and it leads through no circle of links, then the read is refused although the write
was not. The working directory is one of proper names, in the spelling that the system hands out. -/
theorem read_after_write (grounded : session.tree.Settled session.directory)
    (stored : session.directory.map Name.stored = session.directory)
    (wrote : (write path data).run session = (.ok (), after)) :
    match session.tree.follow session.directory path with
    | .ok _ => (read path).run after = (.ok data, { after with
        notices := after.notices ++ [⟨.debug, s!"Read {data.length} bytes from " ++ path.toText⟩] })
    | .error _ => session.tree.IsWhole session.directory path →
        ∃ error, (read path).run after = (.error (accessFailure "read" path error), after) := by
  obtain ⟨here, location, target, written⟩ := written_of_run grounded wrote
  rw [read_run, here]
  split
  next reached found =>
    obtain ⟨whole, same⟩ := FileTree.resolve_agrees stored found written.resolved
    obtain ⟨location', resolved, replaced⟩ := replaced_of_run grounded wrote whole
    cases written.resolved.symm.trans resolved
    subst same
    rw [FileTree.readFile_of_follow (replaced.sameWays.follow found) replaced.there]
  next _ refused =>
    intro whole
    obtain ⟨location', resolved, replaced⟩ := replaced_of_run grounded wrote whole
    cases unfollowed : after.tree.follow session.directory path with
    | ok reached =>
      have found := replaced.sameWays.symm.follow unfollowed
      rw [refused] at found
      cases found
    | error error =>
      rw [FileTree.readFile_of_unfollowed unfollowed]
      exact ⟨error, rfl⟩

theorem read_after_write_through_link :
    linked.Settled [] ∧ ∃ after, (write (Path.ofText "foo") [1]).run ⟨linked, [], []⟩ = (.ok (), after) ∧
      ∃ final, (read (Path.ofText "foo")).run after = (.ok [1], final) := by
  obtain ⟨after, wrote⟩ : ∃ after, (write (Path.ofText "foo") [1]).run ⟨linked, [], []⟩ = (.ok (), after) := ⟨_, rfl⟩
  have again := read_after_write .root rfl wrote
  have found : linked.follow [] (Path.ofText "foo") = .ok ["bar"] := rfl
  simp only [found] at again
  exact ⟨.root, after, wrote, _, again⟩

/-- Behind a name that does not exist the write goes back and on, but a lookup ends there. -/
theorem read_behind_absent :
    ∃ after, (write (Path.ofText "absent/../g") [1]).run ⟨.empty, [], []⟩ = (.ok (), after) ∧
      (read (Path.ofText "absent/../g")).run after =
        (.error (.access ⟨"read", Path.ofText "absent/../g", .noEntry⟩), after) :=
  ⟨_, rfl, rfl⟩

end CacheFile

end CacheSeal
