import CacheSeal.Proofs.CommandEffects
import CacheSeal.Proofs.RefilledFiles
import CacheSeal.Proofs.SettingsOutcomes

/-! The layout under which a command works. It comes from the settings file and two options, so it stays the same while
another file is refilled, for every command that names the same settings. -/

namespace CacheSeal
open Session Proofs.FailingRuns

namespace Settings
variable {before after : FileTree} {directory place : Location} {explicit : Argument Path}

/-- The place of the file in which the settings are, if there is one. -/
def source (tree : FileTree) (directory : Location) (explicit : Argument Path) : Except OsError Location := do
  tree.follow [] (← located tree directory explicit).toPath

theorem located_eq (refilled : before.Refilled after place) :
    located after directory explicit = located before directory explicit := by
  cases explicit with
  | given path => exact refilled.alike.resolve_eq directory path
  | absent => rfl
  | empty => rfl

theorem source_eq (refilled : before.Refilled after place) :
    source after directory explicit = source before directory explicit := by
  unfold source
  rw [located_eq refilled]
  exact bind_congr fun location => refilled.alike.follow_eq [] location.toPath

theorem load_result_eq (refilled : before.Refilled after place) (apart : source before directory explicit ≠ .ok place)
    (notices : List Notice) :
    ((load explicit).run ⟨after, directory, notices⟩).1 = ((load explicit).run ⟨before, directory, notices⟩).1 := by
  unfold load
  simp only [run_bind, place_run, located_eq refilled]
  unfold source at apart
  cases found : located before directory explicit with
  | error error => rfl
  | ok location =>
    rw [found] at apart
    have elsewhere : before.follow [] location.toPath ≠ .ok place := apart
    dsimp only [Except.mapError]
    simp only [loadAt_result, refilled.find_eq elsewhere, refilled.readFile_eq elsewhere]

def layoutOf {ε : Type} (result : Except ε Settings) : Option Layout :=
  result.toOption.bind fun settings => settings.layout.toOption

theorem layoutOf_eq_some_iff {ε : Type} {result : Except ε Settings} {layout : Layout} :
    layoutOf result = some layout ↔ ∃ settings, result = .ok settings ∧ settings.layout = .ok layout := by
  unfold layoutOf
  cases result with
  | error error => exact iff_of_false nofun nofun
  | ok settings =>
    cases judged : settings.layout with
    | error error => simp [Except.toOption, judged]
    | ok made => simp [Except.toOption, judged]

theorem layoutOf_map {ε : Type} (result : Except ε Settings) :
    (result.map layout).toOption.bind Except.toOption = layoutOf result := by
  cases result <;> rfl

theorem layoutOf_mapError {ε δ : Type} (result : Except ε Settings) (failure : ε → δ) :
    layoutOf (result.mapError failure) = layoutOf result := by
  cases result <;> rfl

/-- A color is no part of the layout. -/
theorem override_layout (settings : Settings) (width order color other : Option Value) :
    (settings.override ⟨width, order, color⟩).map layout = (settings.override ⟨width, order, other⟩).map layout := by
  unfold override
  cases width <;> cases order <;> simp only [map_bind] <;> rfl

theorem layoutOf_override (settings : Settings) (width order color other : Option Value) :
    layoutOf (settings.override ⟨width, order, color⟩) = layoutOf (settings.override ⟨width, order, other⟩) := by
  simp only [← layoutOf_map, override_layout settings width order color other]

end Settings

namespace Command
open Options
variable {tree before after : FileTree} {directory place : Location} {first second invocation : Invocation} {layout : Layout}

/-- Commands on the same cache file, with the same settings file and the same options in its place. -/
structure Alongside (first second : Invocation) : Prop where
  path : second.path = first.path
  width : second.width = first.width
  order : second.order = first.order
  settings : second.settings = first.settings

/-- The layout that a command works under, if its settings come to one. -/
def layoutInEffect (tree : FileTree) (directory : Location) (invocation : Invocation) : Option Layout :=
  Settings.layoutOf ((settings invocation).run ⟨tree, directory, []⟩).1

/-- What a command has made, it has made under the layout in effect. -/
theorem Rewritten.under (rewritten : Rewritten tree directory invocation after) :
    ∃ layout destination made location target, layoutInEffect tree directory invocation = some layout ∧
      Makes layout (tree.readFile directory) invocation.path invocation.task made ∧
      Goes invocation.path (outputOf invocation.task) destination ∧
      tree.Written directory destination made after location target := by
  obtain ⟨inEffect, told, layout, destination, made, location, target, settled, valid, makes, goes, written⟩ := rewritten
  have under : layoutInEffect tree directory invocation = some layout :=
    Settings.layoutOf_eq_some_iff.mpr ⟨inEffect, congrArg Prod.fst settled, valid⟩
  exact ⟨layout, destination, made, location, target, under, makes, goes, written⟩

/-- The layout comes from what is loaded, and from the two options that take its place. -/
theorem layoutInEffect_eq (tree : FileTree) (directory : Location) (invocation : Invocation) :
    layoutInEffect tree directory invocation =
      ((Settings.load invocation.settings).run ⟨tree, directory, []⟩).1.toOption.bind fun loaded =>
        Settings.layoutOf (loaded.override ⟨overriding (invocation.width.map fun width => .int width.bits),
          overriding (invocation.order.map fun order => .str (.ofString order.name)), none⟩) := by
  unfold layoutInEffect settings
  -- what is told while the settings are loaded is no part of the result
  rw [run_bind]
  rcases (Settings.load invocation.settings).run ⟨tree, directory, []⟩ with ⟨result, told⟩
  cases result with
  | error failure => rfl
  | ok loaded =>
    dsimp only
    rw [run_lift, Settings.layoutOf_mapError, Settings.layoutOf_override]
    rfl

/-- A command alongside another works under the same layout, also after a file apart from the settings was refilled. -/
theorem layoutInEffect_refilled (refilled : before.Refilled after place) (alongside : Alongside first second)
    (apart : Settings.source before directory first.settings ≠ .ok place) :
    layoutInEffect after directory second = layoutInEffect before directory first := by
  rw [layoutInEffect_eq, layoutInEffect_eq, alongside.settings, alongside.width, alongside.order,
    Settings.load_result_eq refilled apart]

end Command

end CacheSeal
