import CacheSeal.Proofs.JsonDrafts
import CacheSeal.Proofs.PathAgreement
import CacheSeal.Proofs.RunsInStep
import CacheSeal.Proofs.ReportFileWrites

/-! Reports appear whole or not at all. The text goes into a file of its own as far as it can be written, and only a
whole text takes the place of what was there. So whatever stops a report, on the way to its place, within its text or
at the end, all that it leaves are directories with nothing in them. -/

namespace CacheSeal

namespace FileTree
variable {ready after : FileTree} {here above : Location} {path : Path} {name : Text} {mode : Nat} {data : Bytes}

/-- A file is read by the path of its place, unless it has replaced a link: that may have been on the way. -/
theorem Put.readFile (put : ready.Put (above ++ [Name.stored name]) (.file mode data) after)
    (place : Disk.Place ready here path above name) (plain : path.Plain) (short : ¬ Path.isLongName name = true)
    (leaf : ready.Leaf (above ++ [Name.stored name])) : after.readFile here path = .ok data := by
  have ways : SameWays ready after (above ++ [Name.stored name]) :=
    ⟨put.elsewhere, leaf, .inr ⟨mode, data, put.there⟩⟩
  have directory : after.get? above = some .directory := by
    rw [ways.elsewhere above (ways.ne_of_not_leaf (not_leaf place.directory nofun)), place.directory]
  have placed : Disk.Place after here path above name :=
    ⟨place.checked, ways.follow place.leads, directory, place.last, place.onwards⟩
  refine readFile_of_follow (placed.follow plain short fun target link => ?_) put.there
  cases put.there.symm.trans link

end FileTree

namespace ReportFile
open Session
variable {path : Path} {payload : Json} {session : Session} {data : Bytes}

theorem content_ok_iff : content payload = .ok data ↔
    ∃ text, payload.print = .ok text ∧ data = (text ++ "\n").toUTF8.toList := by
  cases printed : payload.print with
  | error error => simp [content, printed, bind, Except.bind]
  | ok text => simp [content_ok printed, eq_comm]

theorem returns_iff_writable {text : String} (printed : payload.print = .ok text) (session : Session) :
    ((write path payload).run session).1 = .ok () ↔ ¬ Unwritable session.tree session.directory path := by
  rw [unwritable_iff printed session.notices]
  cases ((write path payload).run session).1 with
  | error failure => exact iff_of_false nofun fun returns => returns ⟨failure, rfl⟩
  | ok done => exact iff_of_true rfl nofun

/-- Whether a report can be written is a matter of its place alone, given that all in it can be. -/
theorem returns_iff (plain : path.Plain) : ((write path payload).run session).1 = .ok () ↔
    payload.hasText 0 = true ∧ ¬ Unwritable session.tree session.directory path := by
  cases fits : payload.hasText 0 with
  | true => rw [returns_iff_writable (Json.print_ok_iff.mpr ⟨fits, rfl⟩), and_iff_right rfl]
  | false =>
    refine iff_of_false (fun returns => ?_) nofun
    obtain ⟨failure, failed, -⟩ | ⟨-, data, _, _, _, written, -⟩ := write_run plain payload session
    · cases failed.symm.trans returns
    · obtain ⟨text, printed, -⟩ := content_ok_iff.mp written
      cases fits.symm.trans (Json.print_ok_iff.mp printed).1

/-- A report either is in its place with its whole text, or has failed and left of all that stood before nothing
changed, and beside that at most new directories on the way to it, without a file in them. It is there just if all of
the payload can be written and its place is one that can be written. Its place is the last name of the path, in the
directory to which the rest leads; a link there is replaced. -/
theorem write_atomic (rooted : session.tree.Rooted) (text : Text) (payload : Json) :
    let path := Path.ofText text
    let outcome := (write path payload).run session
    let stored := (String.ofList (payload.text 0) ++ "\n").toUTF8.toList
    (outcome.1 = .ok () ↔ payload.hasText 0 = true ∧ ¬ Unwritable session.tree session.directory path) ∧
      ((outcome.1 = .ok () ∧ ∃ ready above name,
          session.tree.Made session.directory path.parent ready ∧ Disk.Place ready session.directory path above name ∧
          ready.get? (above ++ [Name.stored name]) ≠ some .directory ∧
          ready.Put (above ++ [Name.stored name]) (.file 0o600 stored) outcome.2.tree ∧
          (ready.Leaf (above ++ [Name.stored name]) →
            outcome.2.tree.readFile session.directory path = .ok stored)) ∨
        (∃ failure, outcome.1 = .error failure) ∧ session.tree.Made session.directory path.parent outcome.2.tree ∧
          ∀ location name entry, session.tree.get? location = none →
            outcome.2.tree.get? (location ++ [name]) = some entry → entry = .directory) := by
  have plain := Path.plain_ofText text
  refine ⟨returns_iff plain, ?_⟩
  obtain ⟨failure, failed, made⟩ | ⟨done, data, ready, above, name, written, made, place, short, free, left⟩ :=
    write_run plain payload session
  · exact .inr ⟨⟨failure, failed⟩, made, fun location name entry absent stands => made.toGrown.hollow rooted absent stands⟩
  · obtain ⟨printed, shown, rfl⟩ := content_ok_iff.mp written
    obtain ⟨-, rfl⟩ := Json.print_ok_iff.mp shown
    have put : ready.Put (above ++ [Name.stored name])
        (.file 0o600 (String.ofList (payload.text 0) ++ "\n").toUTF8.toList) _ :=
      FileTree.put_insert (List.concat_ne_nil _ _)
    rw [left]
    exact .inl ⟨done, ready, above, name, made, place, free, put, put.readFile place plain short⟩

/-- An earlier report stands where one is to be written. -/
def published : FileTree :=
  .insert .empty ["r.json"] (.file 0o640 [0x7b, 0x7d, 0x0a])

/-- It cannot be written beyond its first item. -/
def halfWritten : Json :=
  .list [.int 1, .foreign "object"]

theorem write_atomic_stopped_within :
    published.Rooted ∧ begun halfWritten = "[\n  1,\n  ".toUTF8.toList ∧
      (let outcome := (write (Path.ofText "r.json") halfWritten).run ⟨published, [], []⟩
      outcome.1 ≠ .ok () ∧ outcome.2.tree.get? ["r.json"] = some (.file 0o640 [0x7b, 0x7d, 0x0a])) := by
  have rooted : published.Rooted :=
    @FileTree.Rooted.insert .empty [] "r.json" FileTree.rooted_empty rfl (by decide) _
  refine ⟨rooted, by rfl, ?_⟩
  intro outcome
  obtain ⟨returns, outcomes⟩ :=
    @write_atomic ⟨published, [], []⟩ rooted "r.json" halfWritten
  obtain ⟨done, -⟩ | ⟨⟨failure, failed⟩, made, -⟩ := outcomes
  · exact absurd (returns.mp done).1 (by decide)
  · refine ⟨fun done => ?_, made.retains _ _ rfl⟩
    cases failed.symm.trans done

end ReportFile

end CacheSeal
