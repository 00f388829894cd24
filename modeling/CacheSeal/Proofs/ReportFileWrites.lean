import CacheSeal.Proofs.AccessFailures
import Mathlib.Data.List.Basic

/-! What the write of a report leaves. Directories are made from the first that is missing downwards, so that all that a
failed write leaves are directories with nothing else in them; one that succeeds has changed one entry besides. -/

namespace CacheSeal

/-- A path without parts that lead nowhere. -/
def Path.Plain (path : Path) : Prop :=
  ∀ part ∈ path.parts, Path.isVoid part = false

theorem Path.check_ne_noEntry (path : Path) : path.check ≠ .error .noEntry := by
  unfold check
  split
  · exact nofun
  · split
    · exact nofun
    · split <;> exact nofun

theorem Path.plain_ofText (text : Text) : (Path.ofText text).Plain := by
  intro part member
  rw [ofText, List.mem_filter, Bool.not_eq_true'] at member
  exact member.2

theorem Path.Plain.parent {path : Path} (plain : path.Plain) : path.parent.Plain :=
  fun part member => plain part (List.dropLast_subset _ member)

namespace FileTree

/-- All that stands in a place stands in a directory. -/
def Rooted (tree : FileTree) : Prop :=
  ∀ location name entry, tree.get? (location ++ [name]) = some entry → tree.get? location = some .directory

theorem rooted_empty : empty.Rooted := by
  intro location name entry stands
  rw [get?_of_ne_root (List.concat_ne_nil _ _)] at stands
  cases stands

/-- A new entry in a directory is a place of its own, if it does not stand where a directory stood. -/
theorem Rooted.insert {tree : FileTree} {above : Location} {name : Text} (rooted : tree.Rooted)
    (directory : tree.get? above = some .directory) (free : tree.get? (above ++ [name]) ≠ some .directory)
    (entry : Entry) : (tree.insert (above ++ [name]) entry).Rooted := by
  have named : above ++ [name] ≠ [] := List.concat_ne_nil _ _
  have kept {location : Location} (stands : tree.get? location = some .directory) :
      (tree.insert (above ++ [name]) entry).get? location = some .directory := by
    rw [get?_insert_of_ne, stands]
    rintro rfl
    exact free stands
  intro location part other stands
  by_cases same : location ++ [part] = above ++ [name]
  · obtain rfl := (List.append_inj_left' same rfl : location = above)
    exact kept directory
  · rw [get?_insert_of_ne same] at stands
    exact kept (rooted location part other stands)

/-- All stays that stood there, and what is new are directories. -/
structure Grown (before after : FileTree) : Prop where
  retains : ∀ location entry, before.get? location = some entry → after.get? location = some entry
  introduced : ∀ location entry, before.get? location = none → after.get? location = some entry → entry = .directory

namespace Grown
variable {before middle after : FileTree} {here location : Location}

theorem refl (tree : FileTree) : tree.Grown tree := by
  refine ⟨fun _ _ stands => stands, ?_⟩
  intro location entry absent stands
  cases absent.symm.trans stands

theorem trans (first : before.Grown middle) (second : middle.Grown after) : before.Grown after := by
  refine ⟨fun location entry stands => second.retains location entry (first.retains location entry stands), ?_⟩
  intro location entry absent stands
  cases between : middle.get? location with
  | none => exact second.introduced location entry between stands
  | some old =>
    obtain rfl := first.introduced location old absent between
    cases (second.retains location _ between).symm.trans stands
    rfl

theorem insert (absent : before.get? location = none) : before.Grown (before.insert location .directory) := by
  have named := ne_root_of_absent absent
  constructor
  · intro other entry stands
    rw [get?_insert_of_ne, stands]
    rintro rfl
    cases absent.symm.trans stands
  · intro other entry missing stands
    by_cases same : other = location
    · rw [same, get?_insert_self named] at stands
      cases stands
      rfl
    · rw [get?_insert_of_ne same, missing] at stands
      cases stands

/-- A new directory holds only what is new as well. -/
theorem hollow (grown : before.Grown after) (rooted : before.Rooted) (absent : before.get? location = none)
    {name : Text} {entry : Entry} (stands : after.get? (location ++ [name]) = some entry) : entry = .directory := by
  apply grown.introduced (location ++ [name]) entry ?_ stands
  cases found : before.get? (location ++ [name]) with
  | none => rfl
  | some old => cases absent.symm.trans (rooted location name old found)

theorem advance_ok (grown : before.Grown after) {parts : List Text} {halt : Halt}
    (halts : before.advance here parts = .ok halt) : after.advance here parts = .ok halt := by
  induction parts generalizing here with
  | nil => exact halts
  | cons part rest ih =>
    rw [advance] at halts ⊢
    by_cases void : Path.isVoid part = true
    · rw [if_pos void] at halts ⊢
      exact ih halts
    by_cases upwards : Path.isUpwards part = true
    · rw [if_neg void, if_pos upwards] at halts ⊢
      exact ih halts
    by_cases long : Path.isLongName part = true
    · rw [if_neg void, if_neg upwards, if_pos long] at halts
      cases halts
    rw [if_neg void, if_neg upwards, if_neg long] at halts ⊢
    dsimp only at halts ⊢
    cases found : before.get? (here ++ [Name.stored part]) with
    | some entry =>
      rw [grown.retains _ entry found]
      rw [found] at halts
      cases entry with
      | directory => exact ih halts
      | file _ _ => exact halts
      | link _ => exact halts
    | none =>
      rw [found] at halts
      cases rest with
      | cons next rest => cases halts
      | nil =>
        -- the walk has ended where nothing stood, and ends there also if a directory does
        cases stands : after.get? (here ++ [Name.stored part]) with
        | none => exact halts
        | some entry =>
          obtain rfl := grown.introduced _ entry found stands
          exact halts

theorem walk_ok (grown : before.Grown after) {links : Nat} {parts : List Text}
    (arrives : before.walk links here parts = .ok location) : after.walk links here parts = .ok location := by
  induction links generalizing here parts with
  | zero =>
    obtain halts | ⟨_, _, _, _, ⟨⟩, _⟩ := walk_ok_iff.mp arrives
    exact walk_ok_iff.mpr (.inl (grown.advance_ok halts))
  | succ links ih =>
    obtain halts | ⟨_, around, target, rest, ⟨⟩, halts, further⟩ := walk_ok_iff.mp arrives
    · exact walk_ok_iff.mpr (.inl (grown.advance_ok halts))
    · exact walk_ok_iff.mpr (.inr ⟨links, around, target, rest, rfl, grown.advance_ok halts, ih further⟩)

/-- A path leads where it led. -/
theorem follow_ok (grown : before.Grown after) {path : Path} (leads : before.follow here path = .ok location) :
    after.follow here path = .ok location := by
  obtain ⟨checked, arrives⟩ := follow_ok_iff.mp leads
  exact follow_ok_iff.mpr ⟨checked, grown.walk_ok arrives⟩

end Grown

/-- New are only directories on the way along a path. -/
structure Made (before : FileTree) (here : Location) (path : Path) (after : FileTree) : Prop extends
    Grown before after where
  onWay : ∀ location, before.get? location = none → after.get? location = some .directory →
    ∃ front, front <+: path.parts ∧ after.follow here ⟨path.anchor, front⟩ = .ok location

namespace Made
variable {before middle after : FileTree} {here : Location} {path longer : Path}

theorem refl (tree : FileTree) (here : Location) (path : Path) : tree.Made here path tree := by
  refine ⟨.refl tree, ?_⟩
  intro location absent stands
  cases absent.symm.trans stands

theorem lengthen (made : before.Made here path after) (anchor : longer.anchor = path.anchor)
    (reaches : path.parts <+: longer.parts) : before.Made here longer after := by
  refine ⟨made.toGrown, ?_⟩
  intro location absent stands
  obtain ⟨front, short, leads⟩ := made.onWay location absent stands
  rw [← anchor] at leads
  exact ⟨front, short.trans reaches, leads⟩

theorem trans (first : before.Made here path middle) (second : middle.Made here path after) :
    before.Made here path after := by
  refine ⟨first.toGrown.trans second.toGrown, ?_⟩
  intro location absent stands
  cases between : middle.get? location with
  | none => exact second.onWay location between stands
  | some entry =>
    obtain rfl := first.introduced location entry absent between
    obtain ⟨front, short, leads⟩ := first.onWay location absent between
    exact ⟨front, short, second.toGrown.follow_ok leads⟩

end Made

end FileTree

namespace Disk
open Proofs.FailingRuns
variable {tree after : FileTree} {here above location : Location} {path : Path} {name : Text}

/-- A path leads to its place, unless a link stands there. -/
theorem Place.follow (place : Place tree here path above name) (plain : path.Plain)
    (short : ¬ Path.isLongName name = true)
    (noLink : ∀ target, tree.get? (above ++ [Name.stored name]) ≠ some (.link target)) :
    tree.follow here path = .ok (above ++ [Name.stored name]) := by
  have parts : path.parts = path.parent.parts ++ [name] := (List.dropLast_append_getLast? name place.last).symm
  have present : Path.isVoid name = false := plain name (List.mem_of_getLast? place.last)
  have ends : tree.advance above [name] = .ok (.reached (above ++ [Name.stored name])) := by
    rw [FileTree.advance, if_neg (by simp [present]), if_neg (by simp [place.onwards]), if_neg short]
    dsimp only
    cases stands : tree.get? (above ++ [Name.stored name]) with
    | none => rfl
    | some entry =>
      cases entry with
      | directory => rfl
      | file mode data => rfl
      | link target => exact absurd stands (noLink target)
  rw [FileTree.follow_ok_iff]
  refine ⟨place.checked, ?_⟩
  rw [parts]
  obtain ⟨-, arrives⟩ := FileTree.follow_ok_iff.mp place.leads
  exact FileTree.walk_append arrives place.directory ends

/-- What a path leads to, when a directory has been made there. -/
theorem Place.leads_insert (place : Place tree here path above name) (plain : path.Plain)
    (short : ¬ Path.isLongName name = true) (absent : tree.get? (above ++ [Name.stored name]) = none) :
    (tree.insert (above ++ [Name.stored name]) .directory).follow here path = .ok (above ++ [Name.stored name]) := by
  have grown := FileTree.Grown.insert absent
  have after : Place (tree.insert (above ++ [Name.stored name]) .directory) here path above name :=
    ⟨place.checked, grown.follow_ok place.leads, grown.retains _ _ place.directory, place.last, place.onwards⟩
  apply after.follow plain short
  intro target
  rw [FileTree.get?_insert_self (FileTree.ne_root_of_absent absent)]
  exact nofun

/-- One call has failed and changed nothing, or it has made a directory where the path leads then. -/
def Calls (tree : FileTree) (here : Location) (path : Path) (outcome : Except OsError Location × FileTree) : Prop :=
  (∃ error, outcome = (.error error, tree)) ∨
    ∃ location, outcome = (.ok location, tree.insert location .directory) ∧ tree.get? location = none ∧
      (tree.insert location .directory).follow here path = .ok location

theorem makeDirectoryIn_run (checked : path.check = .ok ()) (leads : tree.follow here path.parent = .ok above)
    (plain : path.Plain) : Calls tree here path ((makeDirectoryIn above path).run tree) := by
  simp only [makeDirectoryIn, run_bind]
  obtain ⟨error, failed⟩ | ⟨name, directory, last, onwards, placed⟩ := placeIn_run tree above path .exists
  · exact .inl ⟨error, by rw [failed]⟩
  have place : Place tree here path above name := ⟨checked, leads, directory, last, onwards⟩
  rw [placed, checkName, last]
  dsimp only [Option.any_some]
  by_cases long : Path.isLongName name = true
  · rw [if_pos long]
    exact .inl ⟨_, rfl⟩
  · rw [if_neg long]
    simp only [run_pure, run_get]
    cases found : tree.get? (above ++ [Name.stored name]) with
    | some entry => exact .inl ⟨_, rfl⟩
    | none => exact .inr ⟨_, rfl, found, place.leads_insert plain long found⟩

theorem makeDirectory_run (tree : FileTree) (here : Location) (plain : path.Plain) :
    ((makeDirectory here path).run tree = (.error .noEntry, tree) → path.check = .ok ()) ∧
      Calls tree here path ((makeDirectory here path).run tree) := by
  simp only [makeDirectory, reach, run_bind, run_ask]
  cases checked : path.check with
  | error error =>
    refine ⟨?_, .inl ⟨error, rfl⟩⟩
    rintro ⟨⟩
    exact absurd checked path.check_ne_noEntry
  | ok _ =>
    refine ⟨fun _ => rfl, ?_⟩
    dsimp only
    cases leads : tree.follow here path.parent with
    | error error => exact .inl ⟨error, rfl⟩
    | ok above => exact makeDirectoryIn_run checked leads plain

/-- What a run leaves that sees to it that there is a directory where the path leads. -/
structure Ensures (tree : FileTree) (here : Location) (path : Path) (outcome : Except OsError Location × FileTree) :
    Prop where
  made : tree.Made here path outcome.2
  leads : ∀ location, outcome.1 = .ok location →
    outcome.2.follow here path = .ok location ∧ outcome.2.get? location = some .directory

theorem ensures_error (tree : FileTree) (here : Location) (path : Path) (error : OsError) :
    Ensures tree here path (.error error, tree) :=
  ⟨.refl tree here path, nofun⟩

theorem Calls.ensures (absent : tree.get? location = none)
    (leads : (tree.insert location .directory).follow here path = .ok location) :
    Ensures tree here path (.ok location, tree.insert location .directory) := by
  have named := FileTree.ne_root_of_absent absent
  refine ⟨⟨.insert absent, ?_⟩, ?_⟩
  · intro other missing stands
    by_cases same : other = location
    · rw [same]
      exact ⟨path.parts, List.prefix_rfl, leads⟩
    · rw [FileTree.get?_insert_of_ne same, missing] at stands
      cases stands
  · rintro _ ⟨⟩
    exact ⟨leads, FileTree.get?_insert_self named⟩

theorem ensureDirectory_run {make otherwise : Disk Location} (calls : Calls tree here path (make.run tree))
    (rescued : make.run tree = (.error .noEntry, tree) → Ensures tree here path (otherwise.run tree)) :
    Ensures tree here path ((ensureDirectory here path make otherwise).run tree) := by
  rw [ensureDirectory, run_tryCatch]
  obtain ⟨error, failed⟩ | ⟨location, made, absent, leads⟩ := calls
  · rw [failed]
    dsimp only
    by_cases missing : error = .noEntry
    · rw [if_pos missing]
      subst missing
      exact rescued failed
    · rw [if_neg missing, run_bind, run_get]
      dsimp only
      split
      · rename_i location leads
        split
        · rename_i directory
          refine ⟨.refl tree here path, ?_⟩
          rintro _ ⟨⟩
          exact ⟨leads, directory⟩
        · exact ensures_error tree here path error
      · exact ensures_error tree here path .nameTooLong
      · exact ensures_error tree here path error
  · rw [made]
    exact Calls.ensures absent leads

/-- Induction on the parts, the last of them first, as the directories are tried. -/
theorem makeUpwards_run (here : Location) (anchor : Path.Anchor) (depth : Nat) {parts : List Text}
    (plain : ∀ part ∈ parts, Path.isVoid part = false) (tree : FileTree) :
    Ensures tree here ⟨anchor, parts.reverse⟩ ((makeUpwards here anchor depth parts).run tree) := by
  have whole : Path.Plain ⟨anchor, parts.reverse⟩ := fun part member => plain part (List.mem_reverse.mp member)
  induction depth generalizing parts tree with
  | zero => exact ensures_error tree here _ .tooDeep
  | succ depth ih =>
    obtain ⟨checks, calls⟩ := makeDirectory_run tree here whole
    cases parts with
    | nil => exact ensureDirectory_run calls fun _ => ensures_error tree here _ .noEntry
    | cons part above =>
      apply ensureDirectory_run calls
      intro missing
      have checked := checks missing
      have upper : ∀ part ∈ above, Path.isVoid part = false :=
        fun part member => plain part (List.mem_cons_of_mem _ member)
      have ensures := ih upper tree fun part member => upper part (List.mem_reverse.mp member)
      have reaches : above.reverse <+: (part :: above).reverse := by
        rw [List.reverse_cons]
        exact List.prefix_append _ _
      rw [run_bind]
      rcases ran : (makeUpwards here anchor depth above).run tree with ⟨result, middle⟩
      rw [ran] at ensures
      have first : tree.Made here ⟨anchor, (part :: above).reverse⟩ middle := ensures.made.lengthen rfl reaches
      cases result with
      | error error => exact ⟨first, nofun⟩
      | ok directory =>
        obtain ⟨leads, -⟩ := ensures.leads directory rfl
        have parent : Path.parent ⟨anchor, (part :: above).reverse⟩ = ⟨anchor, above.reverse⟩ := by
          simp [Path.parent]
        have rest := ensureDirectory_run (makeDirectoryIn_run checked (parent ▸ leads) whole) fun _ =>
          ensures_error middle here _ .noEntry
        exact ⟨first.trans rest.made, rest.leads⟩

theorem makeParents_run (here : Location) (plain : path.Plain) (tree : FileTree) :
    tree.Made here path.parent ((makeParents here path).run tree).2 := by
  have ensures := makeUpwards_run here path.anchor maxNesting
    (fun part member => plain.parent part (List.mem_reverse.mp member)) tree
  rw [List.reverse_reverse] at ensures
  rw [makeParents, run_discard]
  rcases ran : (makeUpwards here path.anchor maxNesting path.parent.parts.reverse).run tree with ⟨result, after⟩
  rw [ran] at ensures
  cases result with
  | error error => exact ensures.made
  | ok location => exact ensures.made

end Disk

namespace ReportFile
open Session Proofs.FailingRuns
variable {payload : Json} {path : Path} {here : Location} {session : Session}

/-- A report takes the place of one entry, once it is complete; until then there is only its new file beside all that
was there, and that goes again where the report fails. -/
theorem store_run (here : Location) (path : Path) (payload : Json) (session : Session) :
    (∃ failure, (store here path payload).run session = (.error failure, session)) ∨
      ∃ data above name, content payload = .ok data ∧ Disk.Place session.tree here path above name ∧
        ¬ Path.isLongName name = true ∧ session.tree.get? (above ++ [Name.stored name]) ≠ some .directory ∧
        (store here path payload).run session = (.ok (),
          { session with tree := session.tree.insert (above ++ [Name.stored name]) (.file Disk.stagedMode data) }) := by
  simp only [store, run_bind, run_onDisk]
  obtain ⟨error, failed⟩ | ⟨_, -, fresh, ⟨-, absent⟩, staged⟩ :=
    Disk.stage_run session.tree [] (path.parent.literal here).toPath ".json"
  · exact .inl ⟨_, by rw [failed]⟩
  have named := FileTree.ne_root_of_absent absent
  rw [staged]
  dsimp only
  rw [run_tryCatch]
  simp only [run_bind, run_onDisk, Disk.fill_run named]
  cases printed : content payload with
  | error error =>
    -- what is written by now goes with the file that holds it
    left
    refine ⟨.ofObstacle error, ?_⟩
    rw [run_lift]
    dsimp only [Except.mapError]
    simp only [Disk.remove, run_modify, run_throw, FileTree.erase_insert, FileTree.erase_of_absent absent]
  | ok data =>
    simp only [run_lift_ok, Disk.fill_run named]
    have stands : (session.tree.insert fresh (.file Disk.stagedMode data)).get? fresh =
        some (.file Disk.stagedMode data) := FileTree.get?_insert_self named
    obtain ⟨error, failed⟩ | ⟨above, name, place, short, free, renamed⟩ := Disk.rename_run stands here path
    · left
      rw [failed]
      simp only [Disk.remove, run_modify, run_throw, FileTree.erase_insert, FileTree.erase_of_absent absent]
      exact ⟨_, rfl⟩
    · right
      refine ⟨data, above, name, rfl, place.of_insert absent, short, ?_, ?_⟩
      · intro directory
        rw [FileTree.get?_insert_of_ne, directory] at free
        · exact free rfl
        · rintro same
          cases absent.symm.trans (same ▸ directory)
      rw [renamed]
      simp only [FileTree.erase_insert, FileTree.erase_of_absent absent]

/-- A report is where the path leads, in a file of the strictest permission bits, and all else are directories made for
it on the way. -/
def Placed (before : FileTree) (directory : Location) (path : Path) (data : Bytes) (after : FileTree) : Prop :=
  ∃ ready above name, before.Made directory path.parent ready ∧ Disk.Place ready directory path above name ∧
    ready.Put (above ++ [Name.stored name]) (.file Disk.stagedMode data) after

/-- A write that fails has made directories at most. One that succeeds has made them, and then put one entry. -/
theorem write_run (plain : path.Plain) (payload : Json) (session : Session) :
    let outcome := (write path payload).run session
    (∃ failure, outcome.1 = .error failure ∧ session.tree.Made session.directory path.parent outcome.2.tree) ∨
      outcome.1 = .ok () ∧ ∃ data ready above name, content payload = .ok data ∧
        session.tree.Made session.directory path.parent ready ∧ Disk.Place ready session.directory path above name ∧
        ¬ Path.isLongName name = true ∧ ready.get? (above ++ [Name.stored name]) ≠ some .directory ∧
        outcome.2.tree = ready.insert (above ++ [Name.stored name]) (.file Disk.stagedMode data) := by
  rw [write_eq, run_bind, run_get]
  dsimp only
  rw [run_bind, run_onDisk]
  have made := Disk.makeParents_run session.directory plain session.tree
  rcases ran : (Disk.makeParents session.directory path).run session.tree with ⟨result, ready⟩
  rw [ran] at made
  cases result with
  | error error => exact .inl ⟨_, rfl, made⟩
  | ok _ =>
    dsimp only
    obtain ⟨failure, failed⟩ | ⟨data, above, name, printed, place, short, free, stored⟩ :=
      store_run session.directory path payload { session with tree := ready }
    · left
      rw [failed]
      exact ⟨failure, rfl, made⟩
    · right
      rw [stored]
      exact ⟨rfl, data, ready, above, name, printed, made, place, short, free, rfl⟩

theorem write_leaves (plain : path.Plain) (payload : Json) (session : Session) :
    let outcome := (write path payload).run session
    (∃ failure, outcome.1 = .error failure ∧ session.tree.Made session.directory path.parent outcome.2.tree) ∨
      outcome.1 = .ok () ∧ ∃ data, content payload = .ok data ∧
        Placed session.tree session.directory path data outcome.2.tree := by
  refine (write_run plain payload session).imp_right ?_
  rintro ⟨done, data, ready, above, name, printed, made, place, -, -, left⟩
  refine ⟨done, data, printed, ready, above, name, made, place, ?_⟩
  rw [left]
  exact FileTree.put_insert (List.concat_ne_nil _ _)

end ReportFile

end CacheSeal
