import CacheSeal.Proofs.ArgumentPaths
import CacheSeal.Proofs.AtomicReports
import CacheSeal.Proofs.CombinedTransplant
import CacheSeal.Proofs.Payloads

/-! Reports that are stored and reports that are printed. What is stored is read as the payload, and does not tell in
which order its members were given; what a validation prints for programs is, byte for byte, what it stores. -/

namespace CacheSeal

namespace Json
variable {payload other : Json}

/-- The text of a payload, and what is read of it with a line feed behind it. -/
theorem Portable.reads (portable : payload.Portable) : (String.ofList (payload.text 0)).toList.getLast? ≠ some '\n' ∧
    ∃ decoded, read? (String.ofList (payload.text 0) ++ "\n") = some decoded ∧ payload.Alike decoded := by
  obtain ⟨decoded, spells, alike⟩ := portable.spells 0
  have apart : Apart ['\n'] := by
    rintro _ _ ⟨⟩
    rfl
  have shown : (String.ofList (payload.text 0) ++ "\n").toList = payload.text 0 ++ ['\n'] := by simp
  have read := spells.reads (2 * (payload.text 0 ++ ['\n']).length + 2) ['\n'] (by simp; omega) apart
  refine ⟨?_, decoded, ?_, alike⟩
  · rw [String.toList_ofList]
    exact spells.ends
  · simp only [read?, shown, read, Option.bind_eq_bind, Option.bind_some]
    rfl

/-- A text is ASCII with its line feed. -/
theorem ascii_line (payload : Json) : Ascii (String.ofList (payload.text 0) ++ "\n").toList := by
  rw [String.toList_append, String.toList_ofList]
  exact (ascii_text payload 0).append (by decide : Ascii ['\n'])

theorem Alike.draft_eq (alike : payload.Alike other) (portable : payload.Portable) : other.draft = payload.draft := by
  rw [draft, draft, alike.write_eq portable]

theorem Alike.print_eq (alike : payload.Alike other) (portable : payload.Portable) : other.print = payload.print := by
  rw [print, print, alike.draft_eq portable]

end Json

theorem ReportFile.write_alike {payload other : Json} (alike : payload.Alike other) (portable : payload.Portable)
    (path : Path) : write path other = write path payload := by
  unfold write begun content
  rw [alike.draft_eq portable, alike.print_eq portable]

namespace ReportFile
variable {payload : Json} {path : Path}

/-- What is stored, if anything is, is the text of the payload with a line feed. -/
theorem placed_of_returns (plain : path.Plain) (session : Session) (done : ((write path payload).run session).1 = .ok ()) :
    Placed session.tree session.directory path (String.ofList (payload.text 0) ++ "\n").toUTF8.toList
      ((write path payload).run session).2.tree := by
  obtain ⟨failure, failed, -⟩ | ⟨-, data, written, placed⟩ := write_leaves plain payload session
  · cases failed.symm.trans done
  · obtain ⟨printed, shown, rfl⟩ := content_ok_iff.mp written
    obtain ⟨-, rfl⟩ := Json.print_ok_iff.mp shown
    exact placed

end ReportFile

namespace Command
open Options Session Proofs.FailingRuns
variable {tree : FileTree} {directory : Location} {first second invocation : Invocation} {report : Argument Path}
  {validation : Cache.Validation} {json noColor failOnMismatch : Bool} {text : String}

/-- The cache file is taken in, and its validation under the layout in effect comes to this outcome. -/
def Validated (tree : FileTree) (directory : Location) (invocation : Invocation) (validation : Cache.Validation) : Prop :=
  ∃ layout buffer, layoutInEffect tree directory invocation = some layout ∧
    readAs tree directory invocation.path = .ok buffer ∧ Cache.validate layout buffer = .ok validation

theorem validated_alongside (alongside : Alongside first second) :
    Validated tree directory second validation ↔ Validated tree directory first validation := by
  unfold Validated
  rw [layoutInEffect_alongside alongside, alongside.path]

def recordOf (invocation : Invocation) (validation : Cache.Validation) : Json :=
  Report.record (some invocation.path.toText) validation

/-- The text that the report on an outcome is stored and printed as. -/
def shownText (invocation : Invocation) (validation : Cache.Validation) : String :=
  String.ofList ((recordOf invocation validation).text 0)

theorem Validated.prints (validated : Validated tree directory invocation validation) :
    (recordOf invocation validation).print = .ok (shownText invocation validation) := by
  obtain ⟨layout, buffer, -, taken, validated⟩ := validated
  obtain ⟨text, printed⟩ := Report.record_prints (some invocation.path.toText) validated (readAs_ok_iff.mp taken).2
  exact Json.print_ok_iff.mpr ⟨(Json.print_ok_iff.mp printed).1, rfl⟩

/-- Once there is an outcome, nothing but the writing of the report can fail. -/
theorem plannedValidate_validated (validated : Validated tree directory invocation validation) {outlet : Outlet}
    (asked : reportOutlet (recordOf invocation validation) report = .ok outlet) (onTerminal json failOnMismatch : Bool) :
    ∃ reply, plannedValidate tree directory invocation onTerminal json report failOnMismatch = .ok ⟨outlet, reply⟩ ∧
      (json = true → reply.output = Text.ofString (shownText invocation validation)) := by
  have printed := validated.prints
  obtain ⟨layout, buffer, inEffect, taken, validated⟩ := validated
  obtain ⟨settings, ended, valid⟩ := settles_iff.mpr inEffect
  obtain ⟨shown, rendering⟩ := rendered_ok ⟨settings.wantsColor && onTerminal, invocation.verbose⟩ json
    (some invocation.path.toText) validated (readAs_ok_iff.mp taken).2
  refine ⟨⟨shown, if failOnMismatch && !validation.isMatch then 1 else 0⟩, ?_, ?_⟩
  · exact plannedValidate_ok_iff.mpr ⟨settings, layout, buffer, validation, outlet, shown, ended, valid, taken, validated,
      asked, rendering, rfl⟩
  · rintro rfl
    have same : Report.record (some invocation.path.toText) validation = recordOf invocation validation := rfl
    rw [rendered, if_pos rfl, same, printed] at rendering
    have told : Except.ok (Text.ofString (shownText invocation validation)) = Except.ok shown :=
      mapError_ok_iff.mp rendering
    exact (Except.ok.inj told).symm

/-- Where the writing does not fail, the command prints the outcome and leaves what is written. -/
theorem runInvocation_validated (task : invocation.task = .validate json report failOnMismatch noColor)
    (validated : Validated tree directory invocation validation) {outlet : Outlet}
    (asked : reportOutlet (recordOf invocation validation) report = .ok outlet)
    (done : (outlet.write.run ⟨tree, directory, []⟩).1 = .ok ()) (onTerminal : Bool) :
    let result := runInvocation invocation onTerminal tree directory
    result.tree = (outlet.write.run ⟨tree, directory, []⟩).2.tree ∧
      (json = true → result.output = Text.ofString (shownText invocation validation ++ "\n")) := by
  intro result
  obtain ⟨-, output, left⟩ := runInvocation_planned invocation onTerminal tree directory
  obtain ⟨reply, came, prints⟩ := plannedValidate_validated validated asked onTerminal json failOnMismatch
  rw [planned, task] at output left
  dsimp only at output left
  rw [came, carriedOut] at output left
  rcases ran : outlet.write.run ⟨tree, directory, []⟩ with ⟨written, after⟩
  rw [ran] at done output left
  obtain rfl : written = .ok () := done
  refine ⟨left, fun programs => ?_⟩
  have whole : result.output = reply.output ++ "\n" := output
  rw [whole, prints programs]
  simp [Text.ofString, Text.ofChars]

/-- The writing of a report that is asked for, if one is, does not fail. -/
def Writes (tree : FileTree) (directory : Location) (report : Argument Path) : Prop :=
  report = .absent ∨ ∃ path, report = .given path ∧ ¬ ReportFile.Unwritable tree directory path

/-- What a validation for programs prints. -/
theorem validation_printed (task : invocation.task = .validate true report failOnMismatch noColor)
    (validated : Validated tree directory invocation validation) (writes : Writes tree directory report)
    (onTerminal : Bool) :
    (runInvocation invocation onTerminal tree directory).output =
      Text.ofString (shownText invocation validation ++ "\n") := by
  obtain rfl | ⟨path, rfl, writable⟩ := writes
  · have asked : reportOutlet (recordOf invocation validation) .absent = .ok .none := rfl
    exact (runInvocation_validated task validated asked rfl onTerminal).2 rfl
  · have done := (ReportFile.returns_iff_writable validated.prints ⟨tree, directory, []⟩).mpr writable
    exact (runInvocation_validated task validated rfl done onTerminal).2 rfl

/-- What a validation stores, if it can. -/
theorem validation_stored {path : Path} (task : invocation.task = .validate json (.given path) failOnMismatch noColor)
    (validated : Validated tree directory invocation validation) (plain : path.Plain)
    (writable : ¬ ReportFile.Unwritable tree directory path) (onTerminal : Bool) :
    ReportFile.Placed tree directory path (shownText invocation validation ++ "\n").toUTF8.toList
      (runInvocation invocation onTerminal tree directory).tree := by
  have done := (ReportFile.returns_iff_writable validated.prints ⟨tree, directory, []⟩).mpr writable
  rw [(runInvocation_validated task validated rfl done onTerminal).1]
  exact ReportFile.placed_of_returns plain ⟨tree, directory, []⟩ done

/-- A validation without an outcome prints and changes nothing. -/
theorem validation_silent (task : invocation.task = .validate json report failOnMismatch noColor)
    (fails : ∀ validation, ¬ Validated tree directory invocation validation) (onTerminal : Bool) :
    let result := runInvocation invocation onTerminal tree directory
    result.output = [] ∧ result.tree = tree := by
  intro result
  obtain ⟨-, output, left⟩ := runInvocation_planned invocation onTerminal tree directory
  rw [planned, task] at output left
  dsimp only at output left
  cases came : plannedValidate tree directory invocation onTerminal json report failOnMismatch with
  | error failure =>
    rw [came] at output left
    exact ⟨output, left⟩
  | ok plan =>
    obtain ⟨settings, layout, buffer, validation, -, -, ended, valid, found, validated, -⟩ :=
      plannedValidate_ok_iff.mp came
    exact absurd ⟨layout, buffer, settles_iff.mp ⟨settings, ended, valid⟩, found, validated⟩ (fails validation)

/-- What is printed and what is stored are the same bytes. -/
theorem printed_as_stored {path : Path} {alsoFails alsoPlain : Bool}
    (task : first.task = .validate true report failOnMismatch noColor)
    (alsoTask : second.task = .validate json (.given path) alsoFails alsoPlain) (alongside : Alongside first second)
    (plain : path.Plain) (validated : Validated tree directory first validation) (onTerminal alsoOnTerminal : Bool) :
    ∃ bytes, ReportFile.content (recordOf first validation) = .ok bytes ∧
      (Writes tree directory report →
        (runInvocation first onTerminal tree directory).output.map Fin.val = bytes.map UInt8.toNat) ∧
      (¬ ReportFile.Unwritable tree directory path →
        ReportFile.Placed tree directory path bytes (runInvocation second alsoOnTerminal tree directory).tree) := by
  have also : shownText second validation = shownText first validation := by
    rw [shownText, shownText, recordOf, recordOf, alongside.path]
  refine ⟨(shownText first validation ++ "\n").toUTF8.toList, ReportFile.content_ok validated.prints, fun writes => ?_,
    fun writable => ?_⟩
  · have bytes : (shownText first validation ++ "\n").toUTF8.toList.map UInt8.toNat =
        (shownText first validation ++ "\n").toList.map Char.toNat := (Json.ascii_line (recordOf first validation)).bytes
    rw [validation_printed task validated writes, bytes, Text.ofString, Text.ofChars, List.map_map]
    rfl
  · rw [← also]
    exact validation_stored alsoTask ((validated_alongside alongside).mpr validated) plain writable alsoOnTerminal

/-- A report that is stored is in ASCII, ends with one line feed, and is read as what was reported; the order in which
members were given makes no difference to it. It is stored just if its place can be written and all in it can, which is
to say that no number has too many digits and nothing lies too deep; what is not stored has no text to speak of. And
what a validation for programs prints is, byte for byte, what another stores that is alongside it. -/
theorem reports_round_trip :
    (∀ payload : Json, payload.Portable → ∃ decoded,
      let body := String.ofList (payload.text 0)
      let stored := (body ++ "\n").toUTF8.toList
      (∀ (text : Text) (session : Session),
        let path := Path.ofText text
        let outcome := (ReportFile.write path payload).run session
        (outcome.1 = .ok () ↔
          payload.hasText 0 = true ∧ ¬ ReportFile.Unwritable session.tree session.directory path) ∧
          (outcome.1 = .ok () → ReportFile.Placed session.tree session.directory path stored outcome.2.tree)) ∧
        (∀ byte ∈ stored, byte.toNat < 128) ∧ body.toList.getLast? ≠ some '\n' ∧
        Json.read? (body ++ "\n") = some decoded ∧ payload.Alike decoded ∧
        ∀ other, payload.Alike other → ∀ path, ReportFile.write path other = ReportFile.write path payload) ∧
    ∀ (tree : FileTree) (directory : Location) (arguments otherwise : List Text) (first second : Invocation)
      (report : Argument Path) (path : Path)
      (json failOnMismatch alsoFails noColor alsoPlain onTerminal alsoOnTerminal : Bool),
      Request.ofArguments arguments = .run first → first.task = .validate true report failOnMismatch noColor →
      Request.ofArguments otherwise = .run second → second.task = .validate json (.given path) alsoFails alsoPlain →
      Alongside first second →
      let result := run arguments onTerminal tree directory
      let other := run otherwise alsoOnTerminal tree directory
      (∀ validation, Validated tree directory first validation → ∃ bytes,
        ReportFile.content (recordOf first validation) = .ok bytes ∧
          (Writes tree directory report → result.output.map Fin.val = bytes.map UInt8.toNat) ∧
          (¬ ReportFile.Unwritable tree directory path → ReportFile.Placed tree directory path bytes other.tree)) ∧
        ((∀ validation, ¬ Validated tree directory first validation) →
          result.output = [] ∧ result.tree = tree ∧ other.output = [] ∧ other.tree = tree) := by
  constructor
  · intro payload portable
    obtain ⟨ends, decoded, read, alike⟩ := portable.reads
    exact ⟨decoded, fun text session => ⟨ReportFile.returns_iff (Path.plain_ofText text),
        ReportFile.placed_of_returns (Path.plain_ofText text) session⟩,
      (Json.ascii_line payload).byte_lt, ends, read, alike, fun other alike => ReportFile.write_alike alike portable⟩
  · intro tree directory arguments otherwise first second report path json failOnMismatch alsoFails noColor alsoPlain
      onTerminal alsoOnTerminal asked task alsoAsked alsoTask alongside
    rw [run_eq asked, run_eq alsoAsked]
    refine ⟨fun validation validated => printed_as_stored task alsoTask alongside (plain_of_report alsoAsked alsoTask)
      validated onTerminal alsoOnTerminal, fun fails => ?_⟩
    obtain ⟨silent, kept⟩ := validation_silent task fails onTerminal
    obtain ⟨alsoSilent, alsoKept⟩ := validation_silent alsoTask
      (fun validation validated => fails validation ((validated_alongside alongside).mp validated)) alsoOnTerminal
    exact ⟨silent, kept, alsoSilent, alsoKept⟩

def namedLater : Text × Json :=
  Json.member "b" (.list [.null, .int (-30), .object []])

def namedFirst : Text × Json :=
  Json.member "a" (.str (.ofString "\"😀"))

theorem portable_named : (Json.object [namedLater, namedFirst]).Portable := by
  have items : ∀ item ∈ [Json.null, .int (-30), .object []], item.Portable := by
    have empty : (Json.object []).Portable := .object .nil nofun nofun
    exact List.forall_mem_cons.mpr ⟨.null, List.forall_mem_cons.mpr ⟨.int _, List.forall_mem_singleton.mpr empty⟩⟩
  refine .object (by simp [namedLater, namedFirst, Json.member, Text.ofString_inj]) ?_ ?_
  · exact List.forall_mem_cons.mpr ⟨Text.scalar_ofString "b", List.forall_mem_singleton.mpr (Text.scalar_ofString "a")⟩
  · exact List.forall_mem_cons.mpr ⟨.list items, List.forall_mem_singleton.mpr (.str (Text.scalar_ofString _))⟩

def inspecting (task : Task) : Invocation :=
  ⟨Path.ofText "a.jsc", .absent, .absent, .absent, false, task⟩

theorem writable_shelf : ¬ ReportFile.Unwritable shelf [] (Path.ofText "report") := by
  rintro ⟨failure, failed⟩
  have done : ((ReportFile.write (Path.ofText "report") .null).run ⟨shelf, [], []⟩).1 = .ok () := by rfl
  cases failed.symm.trans done

theorem reports_round_trip_reordered :
    (∃ decoded,
      let body := String.ofList ((Json.object [namedLater, namedFirst]).text 0)
      ReportFile.Placed shelf [] (Path.ofText "report") (body ++ "\n").toUTF8.toList
        ((ReportFile.write (Path.ofText "report") (.object [namedFirst, namedLater])).run ⟨shelf, [], []⟩).2.tree ∧
      Json.read? (body ++ "\n") = some decoded ∧ (Json.object [namedLater, namedFirst]).Alike decoded) ∧
    ∃ bytes, (run ["validate", "a.jsc", "--json"] false shelf []).output.map Fin.val = bytes.map UInt8.toNat ∧
      ReportFile.Placed shelf [] (Path.ofText "report") bytes
        (run ["validate", "a.jsc", "-o", "report"] false shelf []).tree := by
  obtain ⟨stored, printed⟩ := reports_round_trip
  have reordered : (Json.object [namedLater, namedFirst]).Alike (.object [namedFirst, namedLater]) :=
    .of_perm (.swap namedFirst namedLater [])
  constructor
  · obtain ⟨decoded, writes, -, -, read, alike, same⟩ := stored _ portable_named
    refine ⟨decoded, ?_, read, alike⟩
    rw [same _ reordered]
    obtain ⟨returns, placed⟩ := writes "report" ⟨shelf, [], []⟩
    exact placed (returns.mpr ⟨by decide, writable_shelf⟩)
  · have asked : Request.ofArguments ["validate", "a.jsc", "--json"] =
        .run (inspecting (.validate true .absent false false)) := by rfl
    have alsoAsked : Request.ofArguments ["validate", "a.jsc", "-o", "report"] =
        .run (inspecting (.validate false (.given (Path.ofText "report")) false false)) := by rfl
    have alongside (task other : Task) : Alongside (inspecting task) (inspecting other) := ⟨rfl, rfl, rfl, rfl⟩
    obtain ⟨prints, -⟩ := printed shelf [] _ _ _ _ .absent _ false false false false false false false
      asked rfl alsoAsked rfl (alongside _ _)
    have ends : (run ["validate", "a.jsc", "-o", "report"] false shelf []).ending = .exit 0 := by rfl
    rw [run_eq alsoAsked] at ends
    obtain ⟨validation, validated⟩ : ∃ validation,
        Validated shelf [] (inspecting (.validate false (.given (Path.ofText "report")) false false)) validation := by
      obtain ⟨plan, came, -⟩ := planned_of_exits ends
      obtain ⟨settings, layout, buffer, validation, -, -, ended, valid, taken, validated, -⟩ :=
        plannedValidate_ok_iff.mp came
      exact ⟨validation, layout, buffer, settles_iff.mp ⟨settings, ended, valid⟩, taken, validated⟩
    obtain ⟨bytes, -, shown, placed⟩ := prints validation ((validated_alongside (alongside _ _)).mp validated)
    exact ⟨bytes, shown (.inl rfl), placed writable_shelf⟩

end Command

end CacheSeal
