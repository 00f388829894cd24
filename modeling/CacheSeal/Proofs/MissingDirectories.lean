import CacheSeal.Proofs.PathAgreement
import CacheSeal.Proofs.PathLengths
import CacheSeal.Proofs.ReportFileWrites

/-! When the directories on the way to a file can be made. Each is there already, or its name is free in the one above
it, which may have been missing as well and is made first then. -/

namespace CacheSeal

namespace FileTree
variable {tree : FileTree} {here there location : Location} {part name : Text} {first : List Text} {halt : Halt}
  {path : Path} {count : Nat}

theorem Rooted.dropLast (rooted : tree.Rooted) (directory : tree.get? location = some .directory) :
    tree.get? location.dropLast = some .directory := by
  rcases List.eq_nil_or_concat location with rfl | ⟨front, last, rfl⟩
  · exact directory
  · rw [List.concat_eq_append] at *
    rw [List.dropLast_concat]
    exact rooted front last _ directory

theorem Steps.arrives (steps : tree.Steps here part there) (rooted : tree.Rooted)
    (start : tree.get? here = some .directory) : tree.get? there = some .directory := by
  cases steps with
  | void _ => exact start
  | upwards _ _ => exact rooted.dropLast start
  | directory _ stands => exact stands

/-- A halt behind a further part is one behind a directory, or at a link before it. -/
theorem Advances.split_last (advances : tree.Advances here (first ++ [name]) halt) (rooted : tree.Rooted)
    (start : tree.get? here = some .directory) :
    (∃ above, tree.Advances here first (.reached above) ∧ tree.get? above = some .directory) ∨
      ∃ around text left, tree.Advances here first (.link around text left) ∧ tree.get? around = some .directory ∧
        halt = .link around text (left ++ [name]) := by
  induction first generalizing here with
  | nil => exact .inl ⟨here, .done, start⟩
  | cons part more ih =>
    rw [List.cons_append] at advances
    generalize whole : more ++ [name] = onward at advances
    cases advances with
    | onward steps goesOn =>
      obtain ⟨above, begins, directory⟩ | ⟨around, text, left, begins, directory, same⟩ :=
        ih (whole ▸ goesOn) (steps.arrives rooted start)
      · exact .inl ⟨above, .onward steps begins, directory⟩
      · exact .inr ⟨around, text, left, .onward steps begins, directory, same⟩
    | leaf named stands => cases (List.append_eq_nil_iff.mp whole).2
    | link named stands => exact .inr ⟨_, _, more, .link named stands, start, by rw [whole]⟩

theorem directory_linkBase (start : tree.get? here = some .directory) (text : Text) :
    tree.get? (linkBase here text) = some .directory := by
  unfold linkBase
  split
  · rfl
  · exact start

theorem Leads.split_last (leads : tree.Leads here (first ++ [name]) count location) (rooted : tree.Rooted)
    (start : tree.get? here = some .directory) :
    ∃ fewer ≤ count, ∃ above, tree.Leads here first fewer above ∧ tree.get? above = some .directory := by
  generalize whole : first ++ [name] = parts at leads
  induction leads generalizing first with
  | reached halts =>
    obtain ⟨above, begins, directory⟩ | ⟨_, _, _, _, _, ⟨⟩⟩ := (whole ▸ halts).split_last rooted start
    exact ⟨0, Nat.le_refl 0, above, .reached begins, directory⟩
  | link halts further ih =>
    obtain ⟨above, begins, directory⟩ | ⟨_, _, left, begins, directory, same⟩ :=
      (whole ▸ halts).split_last rooted start
    · exact ⟨0, Nat.zero_le _, above, .reached begins, directory⟩
    · cases same
      obtain ⟨fewer, few, above, rest, stands⟩ :=
        ih (directory_linkBase directory _) (List.append_assoc _ left [name])
      exact ⟨fewer + 1, Nat.succ_le_succ few, above, .link begins rest, stands⟩

/-- What leads to anything leads through a directory. -/
theorem follow_parent (rooted : tree.Rooted) (start : tree.get? (path.base here) = some .directory)
    (leads : tree.follow here path = .ok location) (named : path.parts.getLast? = some name) :
    ∃ above, tree.follow here path.parent = .ok above ∧ tree.get? above = some .directory := by
  obtain ⟨checked, arrives⟩ := follow_ok_iff.mp leads
  obtain ⟨count, few, course⟩ := walk_ok_iff_leads.mp arrives
  rw [← List.dropLast_append_getLast? name named] at course
  obtain ⟨fewer, less, above, rest, directory⟩ := course.split_last rooted start
  exact ⟨above, follow_ok_iff.mpr ⟨Path.check_parent checked,
    walk_ok_iff_leads.mpr ⟨fewer, Nat.le_trans less few, rest⟩⟩, directory⟩

theorem find_ok {entry : Entry} (leads : tree.follow here path = .ok location)
    (stands : tree.get? location = some entry) : tree.find here path = .ok entry := by
  simp only [find, leads, bind, Except.bind, stands]
  rfl

theorem find_missing_iff : tree.find here path = .error .noEntry ↔
    tree.follow here path = .error .noEntry ∨
      ∃ location, tree.follow here path = .ok location ∧ tree.get? location = none := by
  unfold find
  cases tree.follow here path with
  | error error => simp [bind, Except.bind]
  | ok location =>
    cases stands : tree.get? location <;>
      simp [bind, Except.bind, stands, throw, throwThe, MonadExceptOf.throw, pure, Except.pure]

end FileTree

namespace Disk
open Proofs.FailingRuns

/-- A directory is where the path leads: it stands there, or it is made in the directory above it. -/
inductive ReadyAt (tree : FileTree) (here : Location) (path : Path) : Location → FileTree → Prop where
  | stands {location} (leads : tree.follow here path = .ok location)
      (directory : tree.get? location = some .directory) : ReadyAt tree here path location tree
  | made {above name} (place : Place tree here path above name) (short : ¬ Path.isLongName name = true)
      (free : tree.get? (above ++ [Name.stored name]) = none) :
      ReadyAt tree here path (above ++ [Name.stored name]) (tree.insert (above ++ [Name.stored name]) .directory)

/-- The same, where so many directories above it were missing and have been made before. -/
inductive Readied (tree : FileTree) (here : Location) : Path → Nat → Location → FileTree → Prop where
  | atOnce {path location after} (ready : ReadyAt tree here path location after) :
      Readied tree here path 0 location after
  | further {path levels above middle location after} (missing : tree.find here path.parent = .error .noEntry)
      (upper : Readied tree here path.parent levels above middle) (ready : ReadyAt middle here path location after) :
      Readied tree here path (levels + 1) location after

/-- How a call ends that makes a directory: it makes one, finds no directory to make it in, or is refused. -/
inductive Attempt (tree : FileTree) (here : Location) (path : Path) : Except OsError Location × FileTree → Prop where
  | made {above name} (place : Place tree here path above name) (short : ¬ Path.isLongName name = true)
      (free : tree.get? (above ++ [Name.stored name]) = none) :
      Attempt tree here path (.ok (above ++ [Name.stored name]), tree.insert (above ++ [Name.stored name]) .directory)
  | missing (checked : path.check = .ok ()) (missing : tree.find here path.parent = .error .noEntry) :
      Attempt tree here path (.error .noEntry, tree)
  | refused {error} (other : error ≠ .noEntry)
      (taken : ∀ above name, Place tree here path above name → ¬ Path.isLongName name = true →
        tree.get? (above ++ [Name.stored name]) ≠ none)
      (present : path.check = .ok () → tree.find here path.parent ≠ .error .noEntry) :
      Attempt tree here path (.error error, tree)

/-- A directory that is ready is where its path leads, and all that stood before is there as it was. -/
structure IsReady (tree : FileTree) (here : Location) (path : Path) (location : Location) (after : FileTree) :
    Prop where
  leads : after.follow here path = .ok location
  directory : after.get? location = some .directory
  grown : tree.Grown after
  rooted : after.Rooted

variable {tree after : FileTree} {here above location : Location} {path : Path} {name : Text} {levels : Nat}
  {anchor : Path.Anchor}

theorem Place.unique {otherAbove : Location} {otherName : Text} (place : Place tree here path above name)
    (other : Place tree here path otherAbove otherName) : above = otherAbove ∧ name = otherName :=
  ⟨Except.ok.inj (place.leads.symm.trans other.leads), Option.some.inj (place.last.symm.trans other.last)⟩

theorem makeDirectoryIn_attempt (checked : path.check = .ok ()) (leads : tree.follow here path.parent = .ok above) :
    Attempt tree here path ((makeDirectoryIn above path).run tree) := by
  have lacks : tree.find here path.parent = .error .noEntry ↔ tree.get? above = none := by
    rw [FileTree.find_missing_iff, leads]
    simp
  have same {other : Location} {name : Text} (place : Place tree here path other name) : other = above :=
    Except.ok.inj (place.leads.symm.trans leads)
  simp only [makeDirectoryIn, placeIn, checkName, run_bind, run_get]
  cases stands : tree.get? above with
  | none => exact .missing checked (lacks.mpr stands)
  | some entry =>
    have present : path.check = .ok () → tree.find here path.parent ≠ .error .noEntry := by
      rw [Ne, lacks, stands]
      rintro - ⟨⟩
    cases entry with
    | file _ _ =>
      refine .refused (by decide) (fun _ _ place => ?_) present
      cases stands.symm.trans (same place ▸ place.directory)
    | link _ =>
      refine .refused (by decide) (fun _ _ place => ?_) present
      cases stands.symm.trans (same place ▸ place.directory)
    | directory =>
      cases last : path.parts.getLast? with
      | none =>
        refine .refused (by decide) (fun _ _ place => ?_) present
        cases last.symm.trans place.last
      | some name =>
        by_cases upwards : Path.isUpwards name = true
        · simp only [if_pos upwards, run_throw]
          refine .refused (by decide) (fun _ _ place => ?_) present
          cases last.symm.trans place.last
          cases upwards.symm.trans place.onwards
        have place : Place tree here path above name :=
          ⟨checked, leads, stands, last, Bool.eq_false_iff.mpr upwards⟩
        simp only [if_neg upwards, run_pure, Option.any_some]
        by_cases long : Path.isLongName name = true
        · simp only [if_pos long, run_throw]
          refine .refused (by decide) (fun _ _ again short => ?_) present
          exact absurd ((place.unique again).2 ▸ long) short
        simp only [if_neg long, run_pure]
        cases found : tree.get? (above ++ [Name.stored name]) with
        | none => exact .made place long found
        | some old =>
          refine .refused (by decide) (fun _ _ again _ => ?_) present
          obtain ⟨rfl, rfl⟩ := place.unique again
          rw [found]
          rintro ⟨⟩

theorem makeDirectory_run_eq (checked : path.check = .ok ()) (leads : tree.follow here path.parent = .ok above) :
    (makeDirectory here path).run tree = (makeDirectoryIn above path).run tree := by
  simp only [makeDirectory, reach, run_bind, run_ask, checked, leads]

theorem makeDirectory_attempt (tree : FileTree) (here : Location) (path : Path) :
    Attempt tree here path ((makeDirectory here path).run tree) := by
  cases checked : path.check with
  | error error =>
    simp only [makeDirectory, reach, run_bind, run_ask, checked]
    refine .refused ?_ (fun _ _ place => ?_) fun passed => ?_
    · rintro rfl
      exact path.check_ne_noEntry checked
    · cases checked.symm.trans place.checked
    · cases checked.symm.trans passed
  | ok _ =>
    cases leads : tree.follow here path.parent with
    | ok above =>
      rw [makeDirectory_run_eq checked leads]
      exact makeDirectoryIn_attempt checked leads
    | error error =>
      simp only [makeDirectory, reach, run_bind, run_ask, checked, leads]
      by_cases missing : error = .noEntry
      · subst missing
        exact .missing checked (FileTree.find_missing_iff.mpr (.inl leads))
      · refine .refused missing (fun _ _ place => ?_) fun _ lacks => ?_
        · cases leads.symm.trans place.leads
        · obtain refused | ⟨_, arrives, -⟩ := FileTree.find_missing_iff.mp lacks
          · exact missing (Except.error.inj (leads.symm.trans refused))
          · cases leads.symm.trans arrives

theorem ReadyAt.checked (ready : ReadyAt tree here path location after) : path.check = .ok () := by
  cases ready with
  | stands leads _ => exact (FileTree.follow_ok_iff.mp leads).1
  | made place _ _ => exact place.checked

/-- What is ready has a directory above it. -/
theorem ReadyAt.present (ready : ReadyAt tree here path location after) (rooted : tree.Rooted)
    (start : tree.get? (path.base here) = some .directory) : tree.find here path.parent = .ok .directory := by
  cases ready with
  | made place _ _ => exact FileTree.find_ok place.leads place.directory
  | stands leads directory =>
    cases last : path.parts.getLast? with
    | some name =>
      obtain ⟨above, upper, stands⟩ := FileTree.follow_parent rooted start leads last
      exact FileTree.find_ok upper stands
    | none =>
      have parent : path.parent = path := by
        obtain ⟨anchor, parts⟩ := path
        obtain rfl : parts = [] := List.getLast?_eq_none_iff.mp last
        rfl
      rw [parent]
      exact FileTree.find_ok leads directory

theorem ensureDirectory_ok_iff (rooted : tree.Rooted) (start : tree.get? (path.base here) = some .directory)
    (plain : path.Plain) (otherwise : Disk Location) :
    (ensureDirectory here path (makeDirectory here path) otherwise).run tree = (.ok location, after) ↔
      ReadyAt tree here path location after ∨ path.check = .ok () ∧ tree.find here path.parent = .error .noEntry ∧
        otherwise.run tree = (.ok location, after) := by
  rw [ensureDirectory, run_tryCatch]
  have attempt := makeDirectory_attempt tree here path
  generalize (makeDirectory here path).run tree = outcome at attempt
  cases attempt with
  | @made above name place short free =>
    constructor
    · rintro ⟨⟩
      exact .inl (.made place short free)
    · rintro (ready | ⟨-, missing, -⟩)
      · cases ready with
        | stands leads directory =>
          have noLink (target : Text) : tree.get? (above ++ [Name.stored name]) ≠ some (.link target) := by
            rw [free]
            rintro ⟨⟩
          cases leads.symm.trans (place.follow plain short noLink)
          cases free.symm.trans directory
        | made again _ _ =>
          obtain ⟨rfl, rfl⟩ := place.unique again
          rfl
      · cases missing.symm.trans (FileTree.find_ok place.leads place.directory)
  | missing checked missing =>
    dsimp only
    rw [if_pos rfl]
    constructor
    · exact fun ran => .inr ⟨checked, missing, ran⟩
    · rintro (ready | ⟨-, -, ran⟩)
      · cases missing.symm.trans (ready.present rooted start)
      · exact ran
  | @refused error other taken present =>
    dsimp only
    rw [if_neg other, run_bind, run_get]
    have only : ReadyAt tree here path location after ↔
        tree.follow here path = .ok location ∧ tree.get? location = some .directory ∧ after = tree := by
      constructor
      · rintro (⟨leads, directory⟩ | ⟨place, short, free⟩)
        · exact ⟨leads, directory, rfl⟩
        · exact absurd free (taken _ _ place short)
      · rintro ⟨leads, directory, rfl⟩
        exact .stands leads directory
    have stays : ¬ (path.check = .ok () ∧ tree.find here path.parent = .error .noEntry ∧
        otherwise.run tree = (.ok location, after)) := by
      rintro ⟨checked, missing, -⟩
      exact present checked missing
    rw [only, or_iff_left stays]
    dsimp only
    split
    next reached leads =>
      rw [leads]
      split
      next directory =>
        constructor
        · rintro ⟨⟩
          exact ⟨rfl, directory, rfl⟩
        · rintro ⟨⟨⟩, -, rfl⟩
          rfl
      next unsuited =>
        constructor
        · rintro ⟨⟩
        · rintro ⟨⟨⟩, directory, -⟩
          exact absurd directory unsuited
    next refusal =>
      rw [refusal]
      constructor
      · rintro ⟨⟩
      · rintro ⟨⟨⟩, -⟩
    next _ refusal =>
      rw [refusal]
      constructor
      · rintro ⟨⟩
      · rintro ⟨⟨⟩, -⟩

theorem ReadyAt.isReady (ready : ReadyAt tree here path location after) (rooted : tree.Rooted) (plain : path.Plain) :
    IsReady tree here path location after := by
  cases ready with
  | stands leads directory => exact ⟨leads, directory, .refl tree, rooted⟩
  | @made above name place short free =>
    have still : tree.get? (above ++ [Name.stored name]) ≠ some .directory := by
      rw [free]
      exact nofun
    refine ⟨place.leads_insert plain short free, ?_, .insert free, rooted.insert place.directory still _⟩
    exact FileTree.get?_insert_self (FileTree.ne_root_of_absent free)

theorem Readied.isReady (readied : Readied tree here path levels location after) (rooted : tree.Rooted)
    (plain : path.Plain) : IsReady tree here path location after := by
  induction readied with
  | atOnce ready => exact ready.isReady rooted plain
  | further _ _ ready ih =>
    have upper := ih plain.parent
    have last := ready.isReady upper.rooted plain
    exact ⟨last.leads, last.directory, upper.grown.trans last.grown, last.rooted⟩

theorem ensureDirectory_congr {make other : Disk Location} (same : make.run tree = other.run tree)
    (otherwise : Disk Location) :
    (ensureDirectory here path make otherwise).run tree = (ensureDirectory here path other otherwise).run tree := by
  rw [ensureDirectory, ensureDirectory, run_tryCatch, run_tryCatch, same]

theorem find_base (start : tree.get? (Path.base ⟨anchor, []⟩ here) = some .directory) :
    tree.find here ⟨anchor, []⟩ = .ok .directory :=
  FileTree.find_ok (FileTree.follow_ok_iff.mpr ⟨by cases anchor <;> decide, rfl⟩) start

/-- Behind a directory that was readied, what is made in it is what its path leads to. -/
theorem below_ok_iff {upper : Disk Location}
    (ensured : ∀ above middle, upper.run tree = (.ok above, middle) → IsReady tree here path.parent above middle)
    (checked : path.check = .ok ()) (start : tree.get? (path.base here) = some .directory) (plain : path.Plain) :
    (upper >>= fun above => ensureDirectory here path (makeDirectoryIn above path) (throw .noEntry)).run tree =
        (.ok location, after) ↔
      ∃ above middle, upper.run tree = (.ok above, middle) ∧ ReadyAt middle here path location after := by
  have last {above : Location} {middle : FileTree} (ready : IsReady tree here path.parent above middle) :
      (ensureDirectory here path (makeDirectoryIn above path) (throw .noEntry)).run middle = (.ok location, after) ↔
        ReadyAt middle here path location after := by
    rw [ensureDirectory_congr (makeDirectory_run_eq checked ready.leads).symm,
      ensureDirectory_ok_iff ready.rooted (ready.grown.retains _ _ start) plain]
    refine or_iff_left ?_
    rintro ⟨-, -, ⟨⟩⟩
  rw [run_bind]
  cases ran : upper.run tree with
  | mk result middle =>
    cases result with
    | error error => exact iff_of_false nofun fun ⟨_, _, made, _⟩ => nomatch made
    | ok above =>
      dsimp only
      rw [last (ensured above middle ran)]
      constructor
      · exact fun ready => ⟨above, middle, rfl, ready⟩
      · rintro ⟨_, _, ⟨⟩, ready⟩
        exact ready

/-- Induction on the parts, the last of them first, as the directories are tried. -/
theorem makeUpwards_ok_iff (depth : Nat) {parts : List Text}
    (plain : Path.Plain ⟨anchor, parts.reverse⟩) (rooted : tree.Rooted)
    (start : tree.get? (Path.base ⟨anchor, []⟩ here) = some .directory) :
    (makeUpwards here anchor depth parts).run tree = (.ok location, after) ↔
      ∃ levels < depth, Readied tree here ⟨anchor, parts.reverse⟩ levels location after := by
  induction depth generalizing parts location after with
  | zero => exact iff_of_false nofun nofun
  | succ depth ih =>
    cases parts with
    | nil =>
      refine (ensureDirectory_ok_iff rooted start plain _).trans ?_
      constructor
      · rintro (ready | ⟨-, -, ⟨⟩⟩)
        exact ⟨0, Nat.succ_pos depth, .atOnce ready⟩
      · rintro ⟨levels, -, readied⟩
        cases readied with
        | atOnce ready => exact .inl ready
        | further missing _ _ => cases missing.symm.trans (find_base start)
    | cons part above =>
      have parent : Path.parent ⟨anchor, (part :: above).reverse⟩ = ⟨anchor, above.reverse⟩ := by
        simp [Path.parent]
      have upper : Path.Plain ⟨anchor, above.reverse⟩ := parent ▸ plain.parent
      have begins : tree.get? (Path.base ⟨anchor, (part :: above).reverse⟩ here) = some .directory := start
      have ensured (directory : Location) (middle : FileTree)
          (made : (makeUpwards here anchor depth above).run tree = (.ok directory, middle)) :
          IsReady tree here (Path.parent ⟨anchor, (part :: above).reverse⟩) directory middle := by
        obtain ⟨levels, -, readied⟩ := (ih upper).mp made
        rw [parent]
        exact readied.isReady rooted upper
      refine (ensureDirectory_ok_iff rooted begins plain _).trans ?_
      constructor
      · rintro (ready | ⟨checked, missing, ran⟩)
        · exact ⟨0, Nat.succ_pos depth, .atOnce ready⟩
        · obtain ⟨directory, middle, made, ready⟩ := (below_ok_iff ensured checked begins plain).mp ran
          obtain ⟨levels, few, readied⟩ := (ih upper).mp made
          rw [← parent] at readied
          exact ⟨levels + 1, Nat.succ_lt_succ few, .further missing readied ready⟩
      · rintro ⟨levels, few, readied⟩
        cases readied with
        | atOnce ready => exact .inl ready
        | further missing upperReady ready =>
          rw [parent] at upperReady
          have made := (ih upper).mpr ⟨_, Nat.lt_of_succ_lt_succ few, upperReady⟩
          have ran := (below_ok_iff ensured ready.checked begins plain).mpr ⟨_, _, made, ready⟩
          exact .inr ⟨ready.checked, missing, ran⟩

theorem makeParents_ok_iff (plain : path.Plain) (rooted : tree.Rooted)
    (start : tree.get? (path.base here) = some .directory) :
    (makeParents here path).run tree = (.ok (), after) ↔
      ∃ levels < maxNesting, ∃ above, Readied tree here path.parent levels above after := by
  have whole : Path.Plain ⟨path.anchor, path.parent.parts.reverse.reverse⟩ := by
    rw [List.reverse_reverse]
    exact plain.parent
  have upwards (above : Location) :
      (makeUpwards here path.anchor maxNesting path.parent.parts.reverse).run tree = (.ok above, after) ↔
        ∃ levels < maxNesting, Readied tree here path.parent levels above after := by
    rw [makeUpwards_ok_iff maxNesting whole rooted start, List.reverse_reverse]
    exact Iff.rfl
  rw [makeParents, run_discard]
  constructor
  · intro made
    cases ran : (makeUpwards here path.anchor maxNesting path.parent.parts.reverse).run tree with
    | mk result left =>
      rw [ran] at made
      cases result with
      | error error => cases made
      | ok above =>
        cases made
        obtain ⟨levels, few, readied⟩ := (upwards above).mp ran
        exact ⟨levels, few, above, readied⟩
  · rintro ⟨levels, few, above, readied⟩
    rw [(upwards above).mpr ⟨levels, few, readied⟩]

end Disk

end CacheSeal
