import CacheSeal.CacheFile
import CacheSeal.Proofs.FileReplacement

/-! What the writing of a cache file does to a tree. It changes one entry or none, and keeps every link unless the path
goes through a circle of links. -/

namespace CacheSeal

namespace Session
open Proofs.FailingRuns

theorem run_onDisk {α : Type} (disk : Disk α) (failure : OsError → Failure) (session : Session) :
    (onDisk disk failure).run session =
      match disk.run session.tree with
      | (.ok value, tree) => (.ok value, { session with tree })
      | (.error error, tree) => (.error (failure error), { session with tree }) := by
  simp only [onDisk, run_bind, run_get]
  rcases disk.run session.tree with ⟨result, tree⟩
  cases result <;> rfl

theorem run_lift {ε α : Type} (result : Except ε α) (failure : ε → Failure) (session : Session) :
    (lift result failure).run session = (result.mapError failure, session) := by
  cases result <;> rfl

theorem run_lift_ok {ε α : Type} (value : α) (failure : ε → Failure) (session : Session) :
    (lift (.ok value) failure).run session = (.ok value, session) :=
  rfl

theorem run_locate (path : Path) (session : Session) :
    (locate path).run session =
      ((session.tree.resolve session.directory path).mapError (Failure.ofDisk · .linkCircle), session) := by
  simp only [locate, run_bind, run_get, run_lift]

theorem run_tell (level : Level) (text : Text) (session : Session) :
    (tell level text).run session = (.ok (), { session with notices := session.notices ++ [⟨level, text⟩] }) :=
  rfl

end Session

namespace FileTree
variable {tree before after : FileTree} {here above location target : Location} {path : Path} {name : Text}
  {data : Bytes}

/-- The permission bits of the entry at a location, or those of a new file. -/
def modeAt (tree : FileTree) (location : Location) : Nat :=
  ((tree.get? location).map Entry.mode).getD Disk.stagedMode

def IsLink (tree : FileTree) (location : Location) : Prop :=
  ∃ text, tree.get? location = some (.link text)

/-- The entry that a location names: its last name, in the directory that the names before it lead to. -/
def target? (tree : FileTree) (location : Location) : Option Location :=
  match tree.follow [] location.toPath.parent, location.getLast? with
  | .ok above, some name => some (above ++ [Name.stored name])
  | _, _ => none

/-- The target alone is another: a regular file with the new content, and with the permission bits of the old one. -/
structure Replaced (before : FileTree) (target : Location) (data : Bytes) (after : FileTree) : Prop extends
    Put before target (.file (before.modeAt target) data) after where
  links : ∀ other text, before.get? other = some (.link text) → after.get? other = some (.link text)
  directories : ∀ other, before.get? other = some .directory → after.get? other = some .directory

/-- What a write to a path from the directory `here` leaves behind. The path resolves to `location`, and the entry that
this names is the one put in place. It is a replacement unless a link stands there, which is then lost; and that can only
be if a circle of links was met on the way. -/
structure Written (before : FileTree) (here : Location) (path : Path) (data : Bytes) (after : FileTree)
    (location target : Location) : Prop where
  resolved : before.resolve here path = .ok location
  named : before.target? location = some target
  put : before.Put target (.file (before.bitsAt location) data) after
  replaced_iff : before.Replaced target data after ↔ ¬ before.IsLink target
  whole : before.IsWhole here path → target = location.map Name.stored ∧ ¬ before.IsLink target

private theorem advance_name (present : Path.isVoid name = false) (onwards : Path.isUpwards name = false)
    (short : ¬ Path.isLongName name = true) (noLink : ¬ tree.IsLink (above ++ [Name.stored name])) :
    tree.advance above [name] = .ok (.reached (above ++ [Name.stored name])) := by
  rw [advance, if_neg (by rw [present]; decide), if_neg (by rw [onwards]; decide), if_neg short]
  dsimp only
  split
  · rfl
  · rfl
  · rfl
  · rename_i text link
    exact absurd ⟨text, link⟩ noLink

/-- The place of a location is in the directory that all its names but the last lead to. -/
private theorem place_front (place : Disk.Place tree [] location.toPath above name) :
    ∃ front, location = front ++ [name] ∧ tree.follow [] (Location.toPath front) = .ok above := by
  obtain ⟨front, split⟩ := List.getLast?_eq_some_iff.mp place.last
  change location = front ++ [name] at split
  refine ⟨front, split, ?_⟩
  have parent : location.toPath.parent = Location.toPath front := by
    rw [split]
    exact congrArg (Path.mk .root) List.dropLast_concat
  rw [← parent]
  exact place.leads

theorem bitsAt_place (proper : location.Proper) (place : Disk.Place tree [] location.toPath above name)
    (short : ¬ Path.isLongName name = true) (noLink : ¬ tree.IsLink (above ++ [Name.stored name])) :
    tree.bitsAt location = tree.modeAt (above ++ [Name.stored name]) := by
  obtain ⟨front, split, leads⟩ := place_front place
  obtain ⟨-, arrives⟩ := follow_ok_iff.mp leads
  have present := (proper name (split ▸ List.mem_append_right front List.mem_cons_self)).1
  have found : tree.follow [] location.toPath = .ok (above ++ [Name.stored name]) := by
    refine follow_ok_iff.mpr ⟨place.checked, ?_⟩
    change tree.walk maxLinks [] location = _
    rw [split]
    exact walk_append arrives place.directory (advance_name present place.onwards short noLink)
  unfold bitsAt modeAt find
  rw [found]
  cases stands : tree.get? (above ++ [Name.stored name]) with
  | none =>
    simp only [bind, Except.bind, stands]
    rfl
  | some entry =>
    simp only [bind, Except.bind, stands]
    rfl

theorem target?_place (place : Disk.Place tree [] location.toPath above name) :
    tree.target? location = some (above ++ [Name.stored name]) := by
  have last : location.getLast? = some name := place.last
  rw [target?, place.leads, last]

/-- A settled location names the entry where it says. -/
theorem Settled.place_eq (settled : tree.Settled location) (place : Disk.Place tree [] location.toPath above name) :
    above ++ [Name.stored name] = location.map Name.stored := by
  obtain ⟨front, rfl, leads⟩ := place_front place
  have frontSettled : tree.Settled front := by
    have shorter := settled.dropLast
    rwa [List.dropLast_concat] at shorter
  rw [frontSettled.follow_ok leads, List.map_append, List.map_singleton]

theorem Replaced.noLink (replaced : before.Replaced target data after) : ¬ before.IsLink target := by
  rintro ⟨text, link⟩
  have kept := replaced.links target text link
  rw [replaced.there] at kept
  cases kept

theorem Put.replaced (put : before.Put target (.file (before.modeAt target) data) after)
    (free : before.get? target ≠ some .directory) (noLink : ¬ before.IsLink target) :
    before.Replaced target data after := by
  refine ⟨put, ?_, ?_⟩
  · intro other text link
    rw [put.elsewhere other fun same => noLink ⟨text, same ▸ link⟩, link]
  · intro other directory
    rw [put.elsewhere other fun same => free (same ▸ directory), directory]

theorem Written.of_place (settled : tree.Settled here) (data : Bytes) (resolved : tree.resolve here path = .ok location)
    (place : Disk.Place tree [] location.toPath above name) (short : ¬ Path.isLongName name = true)
    (free : tree.get? (above ++ [Name.stored name]) ≠ some .directory) :
    tree.Written here path data (tree.insert (above ++ [Name.stored name]) (.file (tree.bitsAt location) data)) location
      (above ++ [Name.stored name]) := by
  have put : tree.Put (above ++ [Name.stored name]) (.file (tree.bitsAt location) data)
      (tree.insert (above ++ [Name.stored name]) (.file (tree.bitsAt location) data)) :=
    put_insert (List.concat_ne_nil _ _)
  refine ⟨resolved, target?_place place, put, ?_, ?_⟩
  · refine ⟨Replaced.noLink, ?_⟩
    intro noLink
    rw [bitsAt_place (resolve_proper settled resolved) place short noLink] at put ⊢
    exact put.replaced free noLink
  · intro whole
    have reachedSettled := resolve_settled settled whole resolved
    have target := reachedSettled.place_eq place
    refine ⟨target, ?_⟩
    rintro ⟨text, link⟩
    rw [target] at link
    exact reachedSettled.unlinked location (List.prefix_refl location) text link

end FileTree

namespace CacheFile
open Proofs.FailingRuns Session

theorem write_run (path : Path) (data : Bytes) (session : Session) :
    (∃ failure, (write path data).run session = (.error failure, session)) ∨
      ∃ location above name notices, session.tree.resolve session.directory path = .ok location ∧
        Disk.Place session.tree [] location.toPath above name ∧ ¬ Path.isLongName name = true ∧
        session.tree.get? (above ++ [Name.stored name]) ≠ some .directory ∧
        (write path data).run session = (.ok (), {
          tree := session.tree.insert (above ++ [Name.stored name]) (.file (session.tree.bitsAt location) data)
          directory := session.directory
          notices }) := by
  simp only [write, run_bind, run_locate, run_onDisk, run_tell]
  cases resolved : session.tree.resolve session.directory path with
  | error error => exact .inl ⟨_, rfl⟩
  | ok location =>
    dsimp only [Except.mapError]
    obtain ⟨error, failed⟩ | ⟨above, name, place, short, free, replaced⟩ :=
      Disk.replaceFile_run session.tree location data
    · rw [failed]
      exact .inl ⟨_, rfl⟩
    · rw [replaced]
      exact .inr ⟨location, above, name, _, rfl, place, short, free, rfl⟩

/-- A write that fails leaves the session as it was. One that succeeds puts the content into the entry that the path
comes to, and this is a replacement just if no link is lost there. The working directory is one of proper names, as a
system hands it out. -/
theorem write_outcome (path : Path) (data : Bytes) (session : Session)
    (grounded : session.tree.Settled session.directory) :
    match (write path data).run session with
    | (.error _, after) => after = session
    | (.ok _, after) => after.directory = session.directory ∧
      ∃ location target, session.tree.Written session.directory path data after.tree location target := by
  obtain ⟨failure, failed⟩ | ⟨location, above, name, notices, resolved, place, short, free, written⟩ :=
    write_run path data session
  · rw [failed]
  · rw [written]
    exact ⟨rfl, location, _, .of_place grounded data resolved place short free⟩

/-- A file, and a link that leads to it. -/
def linked : FileTree :=
  (FileTree.empty.insert ["bar"] (.file 0o644 [0])).insert ["foo"] (.link "bar")

theorem write_through_link :
    linked.Settled [] ∧ ∃ after,
      (write (Path.ofText "foo") [1]).run ⟨linked, [], []⟩ = (.ok (), after) ∧ linked.Replaced ["bar"] [1] after.tree := by
  have outcome := write_outcome (Path.ofText "foo") [1] ⟨linked, [], []⟩ .root
  obtain ⟨after, ran⟩ : ∃ after, (write (Path.ofText "foo") [1]).run ⟨linked, [], []⟩ = (.ok (), after) := ⟨_, rfl⟩
  rw [ran] at outcome
  obtain ⟨-, location, target, written⟩ := outcome
  have resolved : FileTree.resolve linked [] (Path.ofText "foo") = .ok ["bar"] := rfl
  cases resolved.symm.trans written.resolved
  have named : FileTree.target? linked ["bar"] = some (["bar"] : Location) := rfl
  cases named.symm.trans written.named
  refine ⟨.root, after, ran, written.replaced_iff.mpr ?_⟩
  rintro ⟨text, link⟩
  cases link

/-- The same with a link that leads back to itself. -/
def circle : FileTree :=
  linked.insert ["loop"] (.link "loop")

/-- Behind a circle of links no link is followed any more, and the one at the end is replaced. -/
theorem write_behind_circle :
    (write (Path.ofText "loop/../foo") [1]).run ⟨circle, [], []⟩ =
      (.ok (), ⟨circle.insert ["foo"] (.file 0o644 [1]), [], [⟨.debug, "Wrote 1 bytes to /foo"⟩]⟩) ∧
    ¬ ∃ target, circle.Replaced target [1] (circle.insert ["foo"] (.file 0o644 [1])) := by
  refine ⟨rfl, ?_⟩
  rintro ⟨target, replaced⟩
  have kept := replaced.links ["foo"] "bar" rfl
  cases kept

end CacheFile

end CacheSeal
