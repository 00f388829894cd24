import CacheSeal.Proofs.ArgumentPaths
import CacheSeal.Proofs.CommandPlans

/-! What a validation does to the tree, which is to write its report. How it presents its outcome is no part of that,
nor of how it ends. -/

namespace CacheSeal

namespace Command
open Options Session Proofs.FailingRuns
variable {tree : FileTree} {directory : Location} {first second invocation : Invocation} {report : Argument Path}
  {failOnMismatch : Bool}

/-- What a validation is to write, and with which status it is to end; the text that it prints is left out. -/
def checked (tree : FileTree) (directory : Location) (invocation : Invocation) (report : Argument Path)
    (failOnMismatch : Bool) : Except Failure (Outlet × Nat) := do
  let judged ← (settled tree directory invocation).map Settings.layout
  let buffer ← readAs tree directory invocation.path
  let layout ← judged.mapError .layout
  let validation ← (Cache.validate layout buffer).mapError .truncated
  let outlet ← reportOutlet (Report.record (some invocation.path.toText) validation) report
  return (outlet, if failOnMismatch && !validation.isMatch then 1 else 0)

def Plan.effect (plan : Plan) : Outlet × Nat :=
  (plan.outlet, plan.reply.status)

theorem plannedValidate_effect (onTerminal json : Bool) :
    (plannedValidate tree directory invocation onTerminal json report failOnMismatch).map Plan.effect =
      checked tree directory invocation report failOnMismatch := by
  simp only [plannedValidate, checked, map_bind, bind_map]
  apply bind_congr
  intro settings
  apply bind_congr_ok
  intro buffer taken
  apply bind_congr
  intro layout
  apply bind_congr_ok
  intro validation validated
  apply bind_congr
  intro outlet
  obtain ⟨text, shown⟩ := rendered_ok ⟨settings.wantsColor && onTerminal, invocation.verbose⟩ json
    (some invocation.path.toText) (mapError_ok_iff.mp validated) (readAs_ok_iff.mp taken).2
  rw [shown]
  rfl

theorem settled_layout (alongside : Alongside first second) :
    (settled tree directory second).map Settings.layout = (settled tree directory first).map Settings.layout := by
  simp only [settled, settings_result, alongside.settings, alongside.width, alongside.order, map_bind]
  apply bind_congr
  intro loaded
  rw [map_mapError, map_mapError, Settings.override_layout]

theorem checked_alongside (alongside : Alongside first second) :
    checked tree directory second report failOnMismatch = checked tree directory first report failOnMismatch := by
  simp only [checked, settled_layout alongside, alongside.path]

theorem carriedOut_effect {plan other : Except Failure Plan} (same : other.map Plan.effect = plan.map Plan.effect) :
    endingOf (carriedOut tree directory other).1 = endingOf (carriedOut tree directory plan).1 ∧
      (carriedOut tree directory other).2 = (carriedOut tree directory plan).2 := by
  cases plan with
  | error failure =>
    cases other with
    | error other =>
      cases same
      exact ⟨rfl, rfl⟩
    | ok other => cases same
  | ok plan =>
    cases other with
    | error other => cases same
    | ok other =>
      obtain ⟨outlet, text, status⟩ := plan
      obtain ⟨_, shown, _⟩ := other
      cases same
      simp only [carriedOut]
      rcases outlet.write.run ⟨tree, directory, []⟩ with ⟨result, after⟩
      cases result with
      | error failure => exact ⟨rfl, rfl⟩
      | ok _ => exact ⟨rfl, rfl⟩

/-- How a validation presents its outcome is told by neither the ending nor the tree. -/
theorem validation_presented {json alsoJson noColor alsoPlain : Bool} (alongside : Alongside first second)
    (task : first.task = .validate json report failOnMismatch noColor)
    (alsoTask : second.task = .validate alsoJson report failOnMismatch alsoPlain) (onTerminal alsoOnTerminal : Bool) :
    let result := runInvocation first onTerminal tree directory
    let other := runInvocation second alsoOnTerminal tree directory
    other.ending = result.ending ∧ other.tree = result.tree := by
  intro result other
  obtain ⟨ending, -, left⟩ := runInvocation_planned first onTerminal tree directory
  obtain ⟨alsoEnding, -, alsoLeft⟩ := runInvocation_planned second alsoOnTerminal tree directory
  have same : (planned tree directory second alsoOnTerminal).map Plan.effect =
      (planned tree directory first onTerminal).map Plan.effect := by
    simp only [planned, task, alsoTask, plannedValidate_effect, checked_alongside alongside]
  obtain ⟨endings, trees⟩ := carriedOut_effect same
  exact ⟨alsoEnding.trans (endings.trans ending.symm), alsoLeft.trans (trees.trans left.symm)⟩

/-- The outcome of the validation is reported at the path. -/
inductive Reported (tree : FileTree) (directory : Location) (invocation : Invocation) (path : Path)
    (validation : Cache.Validation) (after : FileTree) : Prop where
  | intro {layout : Layout} {buffer data : Bytes} (inEffect : layoutInEffect tree directory invocation = some layout)
      (found : tree.readFile directory invocation.path = .ok buffer)
      (validated : Cache.validate layout buffer = .ok validation)
      (printed : ReportFile.content (Report.record (some invocation.path.toText) validation) = .ok data)
      (placed : ReportFile.Placed tree directory path data after) :
      Reported tree directory invocation path validation after

/-- What a validation without a report leaves. -/
theorem validation_unreported {json noColor onTerminal : Bool}
    (task : invocation.task = .validate json report failOnMismatch noColor) (unasked : ∀ path, report ≠ .given path) :
    (runInvocation invocation onTerminal tree directory).tree = tree := by
  obtain ⟨-, -, left⟩ := runInvocation_planned invocation onTerminal tree directory
  rw [left, planned, task]
  dsimp only
  cases came : plannedValidate tree directory invocation onTerminal json report failOnMismatch with
  | error failure => rfl
  | ok plan =>
    obtain ⟨_, _, _, validation, outlet, text, -, -, -, -, asked, -, rfl⟩ := plannedValidate_ok_iff.mp came
    cases report with
    | absent =>
      cases asked
      rfl
    | empty => cases asked
    | given path => exact absurd rfl (unasked path)

theorem validation_reported {path : Path} {json noColor : Bool}
    (task : invocation.task = .validate json (.given path) failOnMismatch noColor) (plain : path.Plain)
    (onTerminal : Bool) :
    let result := runInvocation invocation onTerminal tree directory
    (∃ validation, Reported tree directory invocation path validation result.tree ∧
        result.ending = .exit (if failOnMismatch && !validation.isMatch then 1 else 0)) ∨
      (result.ending ≠ .exit 0 ∧ result.output = [] ∧ tree.Made directory path.parent result.tree) := by
  intro result
  obtain ⟨ending, output, left⟩ := runInvocation_planned invocation onTerminal tree directory
  rw [planned, task] at ending output left
  dsimp only at ending output left
  cases came : plannedValidate tree directory invocation onTerminal json (.given path) failOnMismatch with
  | error failure =>
    rw [came] at ending output left
    refine .inr ⟨?_, output, ?_⟩
    · rw [ending]
      exact ending_of_error_ne
    · rw [left]
      exact .refl tree directory path.parent
  | ok plan =>
    rw [came, carriedOut] at ending output left
    obtain ⟨settings, layout, buffer, validation, _, text, ended, valid, taken, validated, ⟨⟩, -, rfl⟩ :=
      plannedValidate_ok_iff.mp came
    dsimp only [Outlet.write] at ending output left
    have inEffect := settles_iff.mp ⟨settings, ended, valid⟩
    have outcome := ReportFile.write_leaves plain (Report.record (some invocation.path.toText) validation)
      ⟨tree, directory, []⟩
    rcases ran : (ReportFile.write path (Report.record (some invocation.path.toText) validation)).run
      ⟨tree, directory, []⟩ with ⟨written, after⟩
    rw [ran] at ending output left outcome
    obtain ⟨failure, failed, made⟩ | ⟨done, data, printed, placed⟩ := outcome
    · right
      obtain rfl : written = .error failure := failed
      refine ⟨?_, output, ?_⟩
      · rw [ending]
        exact ending_of_error_ne
      · rw [left]
        exact made
    · left
      obtain rfl : written = .ok () := done
      refine ⟨validation, ?_, ending⟩
      rw [left]
      exact ⟨inEffect, (readAs_ok_iff.mp taken).1, validated, printed, placed⟩

/-- A validation touches nothing but its report. Without one the tree stays as it is. With one, either the report has
been written, in the place of what stood at its path, and beside it there are only new directories on the way to it; or
the command has failed, and there are at most such directories, with nothing else in them. Another validation with the
same options, those of its presentation apart, ends in the same way and leaves the same tree. In the tree all stands in
directories. -/
theorem validation_touches_report {arguments otherwise : List Text} {json alsoJson noColor alsoPlain : Bool}
    (asked : Request.ofArguments arguments = .run first)
    (task : first.task = .validate json report failOnMismatch noColor)
    (alsoAsked : Request.ofArguments otherwise = .run second)
    (alsoTask : second.task = .validate alsoJson report failOnMismatch alsoPlain) (alongside : Alongside first second)
    (rooted : tree.Rooted) (onTerminal alsoOnTerminal : Bool) :
    let result := run arguments onTerminal tree directory
    let other := run otherwise alsoOnTerminal tree directory
    (other.ending = result.ending ∧ other.tree = result.tree) ∧
      ((∀ path, report ≠ .given path) → result.tree = tree) ∧
      ∀ path, report = .given path →
        (∃ validation, Reported tree directory first path validation result.tree ∧
            result.ending = .exit (if failOnMismatch && !validation.isMatch then 1 else 0)) ∨
          (result.ending ≠ .exit 0 ∧ result.output = [] ∧ tree.Made directory path.parent result.tree ∧
            ∀ location name entry, tree.get? location = none →
              result.tree.get? (location ++ [name]) = some entry → entry = .directory) := by
  rw [run_eq asked, run_eq alsoAsked]
  refine ⟨validation_presented alongside task alsoTask onTerminal alsoOnTerminal, validation_unreported task, ?_⟩
  rintro path rfl
  obtain written | ⟨fails, silent, made⟩ := validation_reported task (plain_of_report asked task) onTerminal
  · exact .inl written
  · exact .inr ⟨fails, silent, made, fun location name entry absent stands => made.toGrown.hollow rooted absent stands⟩

theorem rooted_shelf : shelf.Rooted := by
  have single : (FileTree.empty.insert ["a.jsc"] (.file 0o644 (List.replicate 32 1))).Rooted :=
    @FileTree.Rooted.insert .empty [] "a.jsc" FileTree.rooted_empty rfl (by decide) _
  exact @FileTree.Rooted.insert _ [] "b.jsc" single rfl (by decide) _

theorem validation_touches_report_over_link :
    let arguments : List Text := ["validate", "a.jsc", "-o", "new/../b.jsc"]
    let result := run arguments false shelf []
    let other := run ["validate", "a.jsc", "-o", "new/../b.jsc", "--json", "--no-color", "-v"] true shelf []
    result.ending = .exit 0 ∧ other.tree = result.tree ∧ ∃ invocation validation,
      Request.ofArguments arguments = .run invocation ∧
        Reported shelf [] invocation (Path.ofText "new/../b.jsc") validation result.tree := by
  intro arguments result other
  have asked : Request.ofArguments arguments = .run ⟨Path.ofText "a.jsc", .absent, .absent, .absent, false,
      .validate false (.given (Path.ofText "new/../b.jsc")) false false⟩ := by rfl
  have alsoAsked : Request.ofArguments ["validate", "a.jsc", "-o", "new/../b.jsc", "--json", "--no-color", "-v"] =
      .run ⟨Path.ofText "a.jsc", .absent, .absent, .absent, true,
        .validate true (.given (Path.ofText "new/../b.jsc")) false true⟩ := by rfl
  have ends : result.ending = .exit 0 := by rfl
  obtain ⟨⟨-, same⟩, -, outcome⟩ :=
    validation_touches_report asked rfl alsoAsked rfl ⟨rfl, rfl, rfl, rfl⟩ rooted_shelf false true
  obtain ⟨validation, reported, -⟩ | ⟨fails, -⟩ := outcome _ rfl
  · exact ⟨ends, same, _, validation, asked, reported⟩
  · exact absurd ends fails

end Command

end CacheSeal
