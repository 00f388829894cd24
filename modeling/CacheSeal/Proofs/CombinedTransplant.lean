import CacheSeal.Proofs.CommandPlans
import CacheSeal.Proofs.RepairedCaches

/-! A transplant that also rehashes is a transplant and then a rehash. In memory the two come to the same content, and a
file that holds what was written first can be written just if it could be before. -/

namespace CacheSeal

namespace CacheFile
variable {tree before after : FileTree} {directory place : Location} {path : Path} {mode : Nat} {old data : Bytes}

theorem writable_of_write (done : ((write path data).run ⟨tree, directory, []⟩).1 = .ok ()) :
    ¬ Unwritable tree directory path := by
  rw [unwritable_iff data [], done]
  exact nofun

theorem unwritable_of_alike (alike : before.Alike after) :
    Unwritable after directory path ↔ Unwritable before directory path := by
  have same := (write_inStep path [] [] ⟨before, directory, []⟩ ⟨after, directory, []⟩ ⟨rfl, alike⟩).1
  rw [Unwritable, Unwritable, same]

/-- A file that can be looked up is written where it is, with the permission bits that it has. -/
theorem write_back (grounded : tree.Settled directory) (stored : directory.map Name.stored = directory)
    (leads : tree.follow directory path = .ok place) (file : tree.get? place = some (.file mode old))
    (writable : ¬ Unwritable tree directory path) (data : Bytes) :
    ∃ told, (write path data).run ⟨tree, directory, []⟩ =
      (.ok (), ⟨tree.insert place (.file mode data), directory, told⟩) := by
  obtain ⟨failure, failed⟩ | ⟨location, above, name, told, resolved, spot, short, free, written⟩ :=
    write_run path data ⟨tree, directory, []⟩
  · exact absurd ((unwritable_iff data []).mpr ⟨failure, congrArg Prod.fst failed⟩) writable
  · refine ⟨told, ?_⟩
    obtain ⟨whole, same⟩ := FileTree.resolve_agrees stored leads resolved
    have outcome := FileTree.Written.of_place grounded data resolved spot short free
    obtain ⟨here, noLink⟩ := outcome.whole whole
    rw [← same] at here
    have replaced := outcome.replaced_iff.mpr noLink
    -- the bits that were put there are those of the entry there
    have kept := outcome.put.there.symm.trans replaced.there
    have bits : tree.modeAt place = mode := by
      rw [FileTree.modeAt, file]
      rfl
    rw [here, bits, Option.some.injEq, Entry.file.injEq] at kept
    rw [written, here, kept.1]

end CacheFile

theorem Report.joinLines_pair (first second : Text) : joinLines [first, second] = first ++ ("\n" ++ second) := by
  simp [joinLines, List.intercalate]

namespace Command
open Options Session Proofs.FailingRuns
variable {tree after : FileTree} {directory place : Location} {common invocation : Invocation} {donor : Argument Path}
  {layout : Layout} {between : Bytes} {shown : Text} {plan : Plan} {onTerminal : Bool}

theorem layoutInEffect_alongside {first second : Invocation} (alongside : Alongside first second) :
    layoutInEffect tree directory second = layoutInEffect tree directory first := by
  rw [layoutInEffect_eq, layoutInEffect_eq, alongside.settings, alongside.width, alongside.order]

/-- A transplant reads the cache file and the donor, and comes to this content and this text. -/
inductive Draws (tree : FileTree) (directory : Location) (invocation : Invocation) (donor : Argument Path)
    (layout : Layout) (between : Bytes) (shown : Text) : Prop where
  | intro {buffer donated : Bytes} {lender : Path} (inEffect : layoutInEffect tree directory invocation = some layout)
      (found : readAs tree directory invocation.path = .ok buffer) (given : givenPath donor = .ok lender)
      (lent : readAs tree directory lender = .ok donated)
      (drawn : moved invocation layout buffer donated false = .ok (between, shown)) :
      Draws tree directory invocation donor layout between shown

theorem transplants_iff :
    plannedTransplant tree directory invocation donor false .absent = .ok plan ↔ ∃ layout between shown,
      Draws tree directory invocation donor layout between shown ∧
        plan = ⟨.cache invocation.path between, shown, 0⟩ := by
  rw [plannedTransplant_ok_iff]
  constructor
  · rintro ⟨layout, buffer, lender, donated, between, shown, _, inEffect, found, given, lent, drawn, ⟨⟩, rfl⟩
    exact ⟨layout, between, shown, ⟨inEffect, found, given, lent, drawn⟩, rfl⟩
  · rintro ⟨layout, between, shown, ⟨inEffect, found, given, lent, drawn⟩, rfl⟩
    exact ⟨layout, _, _, _, between, shown, _, inEffect, found, given, lent, drawn, rfl, rfl⟩

theorem moved_true_ok_iff {buffer donated data : Bytes} {text : Text} :
    moved invocation layout buffer donated true = .ok (data, text) ↔ ∃ between shown result,
      moved invocation layout buffer donated false = .ok (between, shown) ∧ Cache.rehash layout between = .ok result ∧
        data = result.data ∧ text = Report.joinLines [shown, rehashText invocation result] := by
  simp only [moved, bind_ok_iff, mapError_ok_iff, if_true, Bool.false_eq_true, if_false]
  constructor
  · rintro ⟨made, transplanted, told, reported, result, rehashed, same⟩
    cases same
    exact ⟨made.data, told, result, ⟨made, transplanted, told, reported, rfl⟩, rehashed, rfl, rfl⟩
  · rintro ⟨_, _, result, ⟨made, transplanted, told, reported, same⟩, rehashed, rfl, rfl⟩
    cases same
    exact ⟨made, transplanted, _, reported, result, rehashed, rfl⟩

theorem combines_iff :
    plannedTransplant tree directory invocation donor true .absent = .ok plan ↔ ∃ layout between shown result,
      Draws tree directory invocation donor layout between shown ∧ Cache.rehash layout between = .ok result ∧
        plan = ⟨.cache invocation.path result.data, Report.joinLines [shown, rehashText invocation result], 0⟩ := by
  rw [plannedTransplant_ok_iff]
  constructor
  · rintro ⟨layout, buffer, lender, donated, data, text, _, inEffect, found, given, lent, made, ⟨⟩, rfl⟩
    obtain ⟨between, shown, result, drawn, rehashed, rfl, rfl⟩ := moved_true_ok_iff.mp made
    exact ⟨layout, between, shown, result, ⟨inEffect, found, given, lent, drawn⟩, rehashed, rfl⟩
  · rintro ⟨layout, between, shown, result, ⟨inEffect, found, given, lent, drawn⟩, rehashed, rfl⟩
    exact ⟨layout, _, _, _, _, _, _, inEffect, found, given, lent,
      moved_true_ok_iff.mpr ⟨between, shown, result, drawn, rehashed, rfl, rfl⟩, rfl, rfl⟩

/-- A plan to write a cache file is carried out just if it can be written. -/
theorem exits_of_planned {path : Path} {data : Bytes} {text : Text}
    (came : planned tree directory invocation onTerminal = .ok ⟨.cache path data, text, 0⟩) {told : List Notice}
    (written : (CacheFile.write path data).run ⟨tree, directory, []⟩ = (.ok (), ⟨after, directory, told⟩)) :
    let result := runInvocation invocation onTerminal tree directory
    result.ending = .exit 0 ∧ result.output = text ++ "\n" ∧ result.tree = after := by
  obtain ⟨ending, output, left⟩ := runInvocation_planned invocation onTerminal tree directory
  rw [came, carriedOut] at ending output left
  dsimp only [Outlet.write] at ending output left
  rw [written] at ending output left
  exact ⟨ending, output, left⟩

/-- What is drawn is as long as the cache was, and can be rehashed. -/
theorem Draws.rehashes (draws : Draws tree directory common donor layout between shown) :
    Numeral.isWritten between.length = true ∧ ∃ result, Cache.rehash layout between = .ok result := by
  obtain ⟨inEffect, found, given, lent, drawn⟩ := draws
  simp only [moved, bind_ok_iff, mapError_ok_iff, Bool.false_eq_true, if_false] at drawn
  obtain ⟨made, transplanted, text, reported, same⟩ := drawn
  cases same
  have small := (readAs_ok_iff.mp found).2
  have fits := (Cache.transplant_data transplanted).1
  rw [← Cache.transplant_length transplanted] at fits small
  obtain ⟨notices, rehashed⟩ := Cache.rehash_ok fits
  exact ⟨small, _, rehashed⟩

/-- The task itself is no part of this. -/
theorem draws_iff (task : Task) :
    Draws tree directory { common with task := task } donor layout between shown ↔
      Draws tree directory common donor layout between shown := by
  have same : layoutInEffect tree directory { common with task := task } = layoutInEffect tree directory common :=
    layoutInEffect_alongside ⟨rfl, rfl, rfl, rfl⟩
  constructor
  · rintro ⟨inEffect, found, given, lent, drawn⟩
    exact ⟨same.symm.trans inEffect, found, given, lent, drawn⟩
  · rintro ⟨inEffect, found, given, lent, drawn⟩
    exact ⟨same.trans inEffect, found, given, lent, drawn⟩

theorem Draws.site (draws : Draws tree directory common donor layout between shown) :
    layoutInEffect tree directory common = some layout ∧ ∃ place mode buffer,
      tree.follow directory common.path = .ok place ∧ tree.get? place = some (.file mode buffer) := by
  obtain ⟨inEffect, found, -, -, -⟩ := draws
  obtain ⟨place, mode, leads, file⟩ := FileTree.file_of_readFile (readAs_ok_iff.mp found).1
  exact ⟨inEffect, place, mode, _, leads, file⟩

/-- All is there that either way needs: something to write, and a place to write it. -/
def Ready (tree : FileTree) (directory : Location) (common : Invocation) (donor : Argument Path) : Prop :=
  ∃ layout between shown, Draws tree directory common donor layout between shown ∧
    ¬ CacheFile.Unwritable tree directory common.path

theorem ready_of_combined
    (exits : (runInvocation { common with task := .transplant donor true .absent } onTerminal tree directory).ending =
      .exit 0) : Ready tree directory common donor := by
  obtain ⟨plan, came, done⟩ := planned_of_exits exits
  obtain ⟨layout, between, shown, result, draws, rehashed, rfl⟩ := combines_iff.mp came
  exact ⟨layout, between, shown, (draws_iff _).mp draws, CacheFile.writable_of_write done⟩

theorem ready_of_transplant
    (exits : (runInvocation { common with task := .transplant donor false .absent } onTerminal tree directory).ending =
      .exit 0) : Ready tree directory common donor := by
  obtain ⟨plan, came, done⟩ := planned_of_exits exits
  obtain ⟨layout, between, shown, draws, rfl⟩ := transplants_iff.mp came
  exact ⟨layout, between, shown, (draws_iff _).mp draws, CacheFile.writable_of_write done⟩

/-- The transplant alone leaves the file that the rehash finds, so the two leave what the combined command does. -/
theorem Ready.runs (ready : Ready tree directory common donor) (grounded : tree.Settled directory)
    (stored : directory.map Name.stored = directory)
    (apart : ∀ place, tree.follow directory common.path = .ok place →
      Settings.source tree directory common.settings ≠ .ok place) (onTerminal firstOnTerminal secondOnTerminal : Bool) :
    let first := runInvocation { common with task := .transplant donor false .absent } firstOnTerminal tree directory
    let second := runInvocation { common with task := .rehash .absent } secondOnTerminal first.tree directory
    let single := runInvocation { common with task := .transplant donor true .absent } onTerminal tree directory
    (single.ending = .exit 0 ∧ first.ending = .exit 0 ∧ second.ending = .exit 0) ∧
      single.tree = second.tree ∧ single.output = first.output ++ second.output := by
  obtain ⟨layout, between, shown, draws, writable⟩ := ready
  obtain ⟨small, result, rehashed⟩ := draws.rehashes
  obtain ⟨inEffect, place, mode, buffer, leads, file⟩ := draws.site
  have site : Site tree directory common place layout := ⟨grounded, leads, apart place leads, inEffect⟩
  -- after the transplant the path leads where it led, and nothing but the file there is new
  obtain ⟨middle, isMiddle⟩ : ∃ middle, middle = tree.insert place (.file mode between) := ⟨_, rfl⟩
  have put : tree.Put place (.file mode between) middle := isMiddle ▸ FileTree.put_insert (FileTree.ne_root_of_file file)
  have refilled : tree.Refilled middle place := isMiddle ▸ .of_insert file between
  have still : ¬ CacheFile.Unwritable middle directory common.path := by
    rw [CacheFile.unwritable_of_alike refilled.alike]
    exact writable
  have left := site.refilled refilled
  obtain ⟨_, transplants⟩ := CacheFile.write_back grounded stored leads file writable between
  obtain ⟨_, combines⟩ := CacheFile.write_back grounded stored leads file writable result.data
  obtain ⟨_, rehashes⟩ := CacheFile.write_back left.grounded stored left.leads put.there still result.data
  have first : planned tree directory { common with task := .transplant donor false .absent } firstOnTerminal =
      .ok ⟨.cache common.path between, shown, 0⟩ :=
    transplants_iff.mpr ⟨layout, between, shown, (draws_iff _).mpr draws, rfl⟩
  have single : planned tree directory { common with task := .transplant donor true .absent } onTerminal =
      .ok ⟨.cache common.path result.data, Report.joinLines [shown, rehashText common result], 0⟩ :=
    combines_iff.mpr ⟨layout, between, shown, result, (draws_iff _).mpr draws, rehashed, rfl⟩
  have second : planned middle directory { common with task := .rehash .absent } secondOnTerminal =
      .ok ⟨.cache common.path result.data, rehashText common result, 0⟩ :=
    plannedRehash_ok_iff.mpr ⟨layout, between, result, common.path,
      left.layout_alongside ⟨rfl, rfl, rfl, rfl⟩ put.there,
      readAs_ok_iff.mpr ⟨FileTree.readFile_of_follow left.leads put.there, small⟩, rehashed, rfl, rfl⟩
  obtain ⟨firstEnds, firstPrinted, firstLeft⟩ := exits_of_planned first transplants
  obtain ⟨secondEnds, secondPrinted, secondLeft⟩ := exits_of_planned second rehashes
  obtain ⟨singleEnds, singlePrinted, singleLeft⟩ := exits_of_planned single combines
  dsimp only
  rw [firstLeft, ← isMiddle, singleLeft, secondLeft, singlePrinted, firstPrinted, secondPrinted]
  refine ⟨⟨singleEnds, firstEnds, secondEnds⟩, ?_, ?_⟩
  · rw [isMiddle, FileTree.insert_insert]
  · simp only [Report.joinLines_pair, List.append_assoc]

/-- A transplant that also rehashes ends well just if a transplant and then a rehash do, with the same options, and then
it leaves the same tree and prints what they print. The settings are in another file, and the working directory is one
of proper names, in the spelling that the system hands out. -/
theorem combined_iff_in_turn {combined transplanting rehashing : List Text}
    (combinedAsked : Request.ofArguments combined = .run { common with task := .transplant donor true .absent })
    (transplantAsked : Request.ofArguments transplanting = .run { common with task := .transplant donor false .absent })
    (rehashAsked : Request.ofArguments rehashing = .run { common with task := .rehash .absent })
    (grounded : tree.Settled directory) (stored : directory.map Name.stored = directory)
    (apart : ∀ place, tree.follow directory common.path = .ok place →
      Settings.source tree directory common.settings ≠ .ok place)
    (onTerminal firstOnTerminal secondOnTerminal : Bool) :
    let first := run transplanting firstOnTerminal tree directory
    let second := run rehashing secondOnTerminal first.tree directory
    let single := run combined onTerminal tree directory
    (single.ending = .exit 0 ↔ first.ending = .exit 0 ∧ second.ending = .exit 0) ∧
      (single.ending = .exit 0 → single.tree = second.tree ∧ single.output = first.output ++ second.output) := by
  simp only [run_eq combinedAsked, run_eq transplantAsked, run_eq rehashAsked]
  have together (ready : Ready tree directory common donor) :=
    ready.runs grounded stored apart onTerminal firstOnTerminal secondOnTerminal
  constructor
  · constructor
    · intro exits
      exact (together (ready_of_combined exits)).1.2
    · rintro ⟨exits, -⟩
      exact (together (ready_of_transplant exits)).1.1
  · intro exits
    exact (together (ready_of_combined exits)).2

theorem combined_iff_in_turn_own_donor :
    let first := run ["transplant", "b.jsc", "-d", "a.jsc", "-v"] false shelf []
    let second := run ["rehash", "b.jsc", "-v"] false first.tree []
    let single := run ["transplant", "b.jsc", "-d", "a.jsc", "-v", "--rehash"] true shelf []
    single.ending = .exit 0 ∧ single.tree = second.tree ∧ single.output = first.output ++ second.output := by
  have apart : ∀ place, shelf.follow [] (Path.ofText "b.jsc") = .ok place →
      Settings.source shelf [] .absent ≠ .ok place := by
    have source : Settings.source shelf [] .absent = .ok ["codecache.yaml"] := by rfl
    have leads : shelf.follow [] (Path.ofText "b.jsc") = .ok ["a.jsc"] := by rfl
    rw [source, leads]
    rintro _ ⟨⟩
    exact nofun
  have exits : (run ["transplant", "b.jsc", "-d", "a.jsc", "-v", "--rehash"] true shelf []).ending = .exit 0 := by rfl
  obtain ⟨-, alike⟩ := @combined_iff_in_turn shelf []
    ⟨Path.ofText "b.jsc", .absent, .absent, .absent, true, .rehash .absent⟩ (.given (Path.ofText "a.jsc"))
    ["transplant", "b.jsc", "-d", "a.jsc", "-v", "--rehash"] ["transplant", "b.jsc", "-d", "a.jsc", "-v"]
    ["rehash", "b.jsc", "-v"] rfl rfl rfl .root rfl apart true false false
  exact ⟨exits, alike exits⟩

end Command

end CacheSeal
