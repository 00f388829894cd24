import CacheSeal.Proofs.CacheOperations
import CacheSeal.Proofs.JsonDrafts
import CacheSeal.Proofs.ReportSchema
import CacheSeal.Proofs.ReportTexts
import CacheSeal.Proofs.RunsInStep
import CacheSeal.Proofs.SettingsResolution

/-! Commands as plans. All that a command reads and works out comes before the one thing that it writes, and nothing
behind that can fail. So a command comes to a plan, which tells what is to be written and what is to be replied, and to
what carrying it out comes to. -/

namespace CacheSeal

namespace Settings
open Session Proofs.FailingRuns

theorem load_told (tree : FileTree) (directory : Location) (explicit : Argument Path) (notices : List Notice) :
    ((load explicit).run ⟨tree, directory, notices⟩).1 = ((load explicit).run ⟨tree, directory, []⟩).1 := by
  simp only [load, run_bind, place_run]
  cases located tree directory explicit with
  | error error => rfl
  | ok location =>
    dsimp only [Except.mapError]
    rw [loadAt_result, loadAt_result]

end Settings

namespace Cache
variable {layout : Layout} {buffer : Bytes} {validation : Validation}

theorem given_of_validate (validated : validate layout buffer = .ok validation) : Report.Given validation.verdict := by
  obtain ⟨-, same⟩ := reports_iff.mp ⟨validation, validated, rfl⟩
  rw [← same]
  split
  · exact .inl rfl
  · exact .inr rfl

end Cache

namespace Report
variable {layout : Layout} {buffer : Bytes} {validation : Cache.Validation}

theorem isWritten_of_isWord {value : Int} (word : IsWord value) : Numeral.isWritten value = true := by
  obtain ⟨least, most⟩ := word
  exact Numeral.isWritten_of_lt (by decide : 10 ≤ Numeral.maxDecimalDigits) (by omega)

/-- The numbers in a report on a cache can be written, if the size of the cache can. -/
theorem isWritten_of_validate (validated : Cache.validate layout buffer = .ok validation)
    (fits : Numeral.isWritten buffer.length = true) :
    SizesWritten validation ∧ Numeral.isWritten validation.computed = true ∧
      ∀ field, Numeral.isWritten (validation.header.get field) = true := by
  have long : layout.headerSize ≤ buffer.length := (Cache.reports_iff.mp ⟨validation, validated, rfl⟩).1
  cases (Cache.validate_ok long).symm.trans validated
  have header : IsWord layout.headerSize := by
    rw [layout.headerSize_eq]
    cases layout.width <;> exact ⟨by decide, by decide⟩
  refine ⟨⟨isWritten_of_isWord header, fits⟩, isWritten_of_isWord (isWord_compute _), fun field => ?_⟩
  rw [Header.get_ofFields]
  exact isWritten_of_isWord (isWord_word long field)

theorem record_prints (path : Option Text) (validated : Cache.validate layout buffer = .ok validation)
    (fits : Numeral.isWritten buffer.length = true) : ∃ text, (record path validation).print = .ok text := by
  obtain ⟨⟨header, file⟩, computed, fields⟩ := isWritten_of_validate validated fits
  have bits (width : PointerWidth) : Numeral.isWritten width.bits = true := by cases width <;> decide
  have width : (widthRecord validation.layout).hasText 1 = true := by
    unfold widthRecord
    split
    · exact bits _
    · rfl
    · rfl
  have words : (headerRecord validation.header).hasText 1 = true := by
    rw [headerRecord, Json.hasText_object, Bool.and_eq_true, List.all_map, List.all_eq_true]
    exact ⟨by decide, fun field _ => fields field⟩
  refine ⟨_, Json.print_ok_iff.mpr ⟨?_, rfl⟩⟩
  unfold record
  rw [Json.hasText_object, Bool.and_eq_true, List.all_eq_true]
  refine ⟨by decide, ?_⟩
  simp only [List.forall_mem_cons, Json.member]
  refine ⟨rfl, ?_, width, rfl, header, file, words, computed, rfl, rfl, List.forall_mem_nil _⟩
  cases path <;> rfl

end Report

namespace Command
open Options Session Proofs.FailingRuns
variable {tree : FileTree} {directory : Location} {invocation : Invocation}

/-- What a command writes, and where to. -/
inductive Outlet where
  | none
  | cache (path : Path) (data : Bytes)
  | report (path : Path) (payload : Json)

def Outlet.write : Outlet → Run Unit
  | .none => pure ()
  | .cache path data => CacheFile.write path data
  | .report path payload => ReportFile.write path payload

/-- What is left of a command when all is read. -/
structure Plan where
  outlet : Outlet
  reply : Reply

/-- What a command takes in of a file. -/
def readAs (tree : FileTree) (directory : Location) (path : Path) : Except Failure Bytes := do
  let data ← (tree.readFile directory path).mapError (accessFailure "read" path)
  if Numeral.isWritten data.length then return data else throw .hugeNumber

theorem readAs_ok_iff {tree : FileTree} {directory : Location} {path : Path} {data : Bytes} :
    readAs tree directory path = .ok data ↔
      tree.readFile directory path = .ok data ∧ Numeral.isWritten data.length = true := by
  simp only [readAs, bind_ok_iff, mapError_ok_iff]
  constructor
  · rintro ⟨buffer, found, taken⟩
    split at taken
    next fits =>
      cases taken
      exact ⟨found, fits⟩
    next => cases taken
  · rintro ⟨found, fits⟩
    exact ⟨data, found, if_pos fits⟩

def givenPath : Argument Path → Except Failure Path
  | .given path => .ok path
  | _ => .error .noPath

def destinationOf (invocation : Invocation) (output : Argument Path) : Except Failure Path :=
  if output.isAbsent then .ok invocation.path else givenPath output

def reportOutlet (payload : Json) : Argument Path → Except Failure Outlet
  | .absent => .ok .none
  | .given path => .ok (.report path payload)
  | .empty => .error .noPath

def rendered (style : Report.Style) (json : Bool) (payload : Json) (validation : Cache.Validation) : Except Failure Text :=
  if json then (payload.print.map Text.ofString).mapError .ofObstacle
  else (Report.validation style validation).mapError .ofUntold

def plannedValidate (tree : FileTree) (directory : Location) (invocation : Invocation) (onTerminal json : Bool)
    (report : Argument Path) (failOnMismatch : Bool) : Except Failure Plan := do
  let settings ← settled tree directory invocation
  let buffer ← readAs tree directory invocation.path
  let layout ← settings.layout.mapError .layout
  let validation ← (Cache.validate layout buffer).mapError .truncated
  let record := Report.record (some invocation.path.toText) validation
  let outlet ← reportOutlet record report
  let output ← rendered ⟨settings.wantsColor && onTerminal, invocation.verbose⟩ json record validation
  return ⟨outlet, output, if failOnMismatch && !validation.isMatch then 1 else 0⟩

def plannedRehash (tree : FileTree) (directory : Location) (invocation : Invocation) (output : Argument Path) :
    Except Failure Plan := do
  let settings ← settled tree directory invocation
  let buffer ← readAs tree directory invocation.path
  let layout ← settings.layout.mapError .layout
  let result ← (Cache.rehash layout buffer).mapError .truncated
  let destination ← destinationOf invocation output
  return ⟨.cache destination result.data, rehashText invocation result, 0⟩

def moved (invocation : Invocation) (layout : Layout) (buffer donor : Bytes) (alsoRehash : Bool) :
    Except Failure (Bytes × Text) := do
  let result ← (Cache.transplant layout buffer donor).mapError .truncated
  let text ← (Report.transplant (Report.names result.previous) (Report.names result.transplanted)).mapError .unknownName
  if alsoRehash then
    let rehashed ← (Cache.rehash layout result.data).mapError .truncated
    return (rehashed.data, Report.joinLines [text, rehashText invocation rehashed])
  else return (result.data, text)

def plannedTransplant (tree : FileTree) (directory : Location) (invocation : Invocation) (donor : Argument Path)
    (alsoRehash : Bool) (output : Argument Path) : Except Failure Plan := do
  let settings ← settled tree directory invocation
  let layout ← settings.layout.mapError .layout
  let buffer ← readAs tree directory invocation.path
  let lender ← givenPath donor
  let donated ← readAs tree directory lender
  let (data, text) ← moved invocation layout buffer donated alsoRehash
  let destination ← destinationOf invocation output
  return ⟨.cache destination data, text, 0⟩

def planned (tree : FileTree) (directory : Location) (invocation : Invocation) (onTerminal : Bool) : Except Failure Plan :=
  match invocation.task with
  | .validate json report failOnMismatch _ =>
    plannedValidate tree directory invocation onTerminal json report failOnMismatch
  | .rehash output => plannedRehash tree directory invocation output
  | .transplant donor alsoRehash output => plannedTransplant tree directory invocation donor alsoRehash output

variable {onTerminal json failOnMismatch alsoRehash : Bool} {report donor output : Argument Path} {layout : Layout}
  {plan : Plan}

theorem settles_iff : (∃ settings, settled tree directory invocation = .ok settings ∧ settings.layout = .ok layout) ↔
    layoutInEffect tree directory invocation = some layout :=
  Settings.layoutOf_eq_some_iff.symm

theorem plannedValidate_ok_iff :
    plannedValidate tree directory invocation onTerminal json report failOnMismatch = .ok plan ↔
      ∃ settings layout buffer validation outlet text,
        settled tree directory invocation = .ok settings ∧ settings.layout = .ok layout ∧
          readAs tree directory invocation.path = .ok buffer ∧ Cache.validate layout buffer = .ok validation ∧
          reportOutlet (Report.record (some invocation.path.toText) validation) report = .ok outlet ∧
          rendered ⟨settings.wantsColor && onTerminal, invocation.verbose⟩ json
            (Report.record (some invocation.path.toText) validation) validation = .ok text ∧
          plan = ⟨outlet, text, if failOnMismatch && !validation.isMatch then 1 else 0⟩ := by
  simp only [plannedValidate, bind_ok_iff, mapError_ok_iff]
  constructor
  · rintro ⟨settings, ended, buffer, found, layout, valid, validation, validated, outlet, asked, text, shown, ⟨⟩⟩
    exact ⟨settings, layout, buffer, validation, outlet, text, ended, valid, found, validated, asked, shown, rfl⟩
  · rintro ⟨settings, layout, buffer, validation, outlet, text, ended, valid, found, validated, asked, shown, rfl⟩
    exact ⟨settings, ended, buffer, found, layout, valid, validation, validated, outlet, asked, text, shown, rfl⟩

theorem plannedRehash_ok_iff :
    plannedRehash tree directory invocation output = .ok plan ↔ ∃ layout buffer result destination,
      layoutInEffect tree directory invocation = some layout ∧ readAs tree directory invocation.path = .ok buffer ∧
        Cache.rehash layout buffer = .ok result ∧ destinationOf invocation output = .ok destination ∧
        plan = ⟨.cache destination result.data, rehashText invocation result, 0⟩ := by
  simp only [plannedRehash, bind_ok_iff, mapError_ok_iff, ← settles_iff]
  constructor
  · rintro ⟨settings, ended, buffer, found, layout, valid, result, rehashed, destination, named, ⟨⟩⟩
    exact ⟨layout, buffer, result, destination, ⟨settings, ended, valid⟩, found, rehashed, named, rfl⟩
  · rintro ⟨layout, buffer, result, destination, ⟨settings, ended, valid⟩, found, rehashed, named, rfl⟩
    exact ⟨settings, ended, buffer, found, layout, valid, result, rehashed, destination, named, rfl⟩

theorem plannedTransplant_ok_iff :
    plannedTransplant tree directory invocation donor alsoRehash output = .ok plan ↔
      ∃ layout buffer lender donated data text destination,
        layoutInEffect tree directory invocation = some layout ∧ readAs tree directory invocation.path = .ok buffer ∧
          givenPath donor = .ok lender ∧ readAs tree directory lender = .ok donated ∧
          moved invocation layout buffer donated alsoRehash = .ok (data, text) ∧
          destinationOf invocation output = .ok destination ∧ plan = ⟨.cache destination data, text, 0⟩ := by
  simp only [plannedTransplant, bind_ok_iff, mapError_ok_iff, ← settles_iff]
  constructor
  · rintro ⟨settings, ended, layout, valid, buffer, found, lender, given, donated, lent, ⟨data, text⟩, made,
      destination, named, ⟨⟩⟩
    exact ⟨layout, buffer, lender, donated, data, text, destination, ⟨settings, ended, valid⟩, found, given, lent, made,
      named, rfl⟩
  · rintro ⟨layout, buffer, lender, donated, data, text, destination, ⟨settings, ended, valid⟩, found, given, lent, made,
      named, rfl⟩
    exact ⟨settings, ended, layout, valid, buffer, found, lender, given, donated, lent, (data, text), made, destination,
      named, rfl⟩

/-- What a plan, if it is come to, comes to itself, and the tree that it leaves. -/
def carriedOut (tree : FileTree) (directory : Location) : Except Failure Plan → Except Failure Reply × FileTree
  | .error failure => (.error failure, tree)
  | .ok plan =>
    let (result, after) := plan.outlet.write.run ⟨tree, directory, []⟩
    (result.map fun _ => plan.reply, after.tree)

end Command

namespace Session
open Proofs.FailingRuns Command
variable {α β ε : Type} {tree : FileTree} {directory : Location}

/-- The run changes no file and comes to this result, whatever was told before. -/
def Yields (tree : FileTree) (directory : Location) (run : Run α) (result : Except Failure α) : Prop :=
  ∀ notices, Reads tree directory notices run (fun _ => True) ∧ (run.run ⟨tree, directory, notices⟩).1 = result

theorem yields_lift (result : Except ε α) (failure : ε → Failure) :
    Yields tree directory (lift result failure) (result.mapError failure) := by
  intro notices
  rw [run_lift]
  exact ⟨(Reads.lift result failure).weaken fun _ _ => trivial, rfl⟩

theorem yields_tellAll (notices : List String) : Yields tree directory (tellAll notices) (.ok ()) := by
  intro before
  obtain ⟨later, ran⟩ := run_tellAll notices ⟨tree, directory, before⟩
  exact ⟨reads_tellAll notices, congrArg Prod.fst ran⟩

theorem yields_named (path : Argument Path) : Yields tree directory (named path) (givenPath path) := by
  intro notices
  refine ⟨(reads_named path).weaken fun _ _ => trivial, ?_⟩
  cases path <;> rfl

theorem yields_destination (invocation : Options.Invocation) (output : Argument Path) :
    Yields tree directory (destination invocation output) (destinationOf invocation output) := by
  intro notices
  refine ⟨(reads_destination invocation output).weaken fun _ _ => trivial, ?_⟩
  cases output <;> rfl

theorem yields_settings (invocation : Options.Invocation) :
    Yields tree directory (settings invocation) (settled tree directory invocation) := by
  intro notices
  refine ⟨reads_settings invocation, ?_⟩
  rw [settled, settings_result, settings_result, Settings.load_told]

theorem Yields.bind {run : Run α} {result : Except Failure α} {next : α → Run β} {further : α → Except Failure β}
    (first : Yields tree directory run result) (rest : ∀ value, Yields tree directory (next value) (further value)) :
    Yields tree directory (run >>= next) (result >>= further) := by
  intro notices
  obtain ⟨reads, ended⟩ := first notices
  refine ⟨Reads.bind reads fun value told _ => (rest value told).1, ?_⟩
  cases result with
  | error failure =>
    rw [run_bind]
    rcases ran : run.run ⟨tree, directory, notices⟩ with ⟨_, after⟩
    rw [ran] at ended
    cases ended
    rfl
  | ok value =>
    obtain ⟨told, ran⟩ := reads.run_ok ended
    rw [run_bind, ran]
    exact (rest value told).2

theorem yields_read (path : Path) : Yields tree directory (CacheFile.read path)
    ((tree.readFile directory path).mapError (accessFailure "read" path)) := by
  intro notices
  refine ⟨(CacheFile.reads_read path).weaken fun _ _ => trivial, ?_⟩
  rw [CacheFile.read_run]
  cases tree.readFile directory path <;> rfl

theorem yields_takeIn (path : Path) : Yields tree directory (takeIn path) (readAs tree directory path) := by
  apply Yields.bind (yields_read path)
  intro data notices
  split
  · exact ⟨Reads.pure trivial, rfl⟩
  · exact ⟨Reads.throw _ _, rfl⟩

theorem Yields.tells {run : Run Unit} {next : Unit → Run α} {result : Except Failure α}
    (first : Yields tree directory run (.ok ())) (rest : Yields tree directory (next ()) result) :
    Yields tree directory (run >>= next) result :=
  first.bind fun _ => rest

theorem yields_transplanted (invocation : Options.Invocation) (layout : Layout) (buffer donor : Bytes) (alsoRehash : Bool) :
    Yields tree directory (transplanted invocation layout buffer donor alsoRehash)
      (moved invocation layout buffer donor alsoRehash) := by
  apply Yields.bind (yields_lift _ _)
  intro result
  apply Yields.tells (yields_tellAll _)
  apply Yields.bind (yields_lift _ _)
  intro text
  cases alsoRehash with
  | false => exact fun _ => ⟨Reads.pure trivial, rfl⟩
  | true =>
    apply Yields.bind (yields_lift _ _)
    intro rehashed
    apply Yields.tells (yields_tellAll _)
    exact fun _ => ⟨Reads.pure trivial, rfl⟩

/-- The run comes to what the plan comes to, and leaves the same tree. -/
def Completes (tree : FileTree) (directory : Location) (run : Run Reply) (plan : Except Failure Plan) : Prop :=
  ∀ notices, ((run.run ⟨tree, directory, notices⟩).1, (run.run ⟨tree, directory, notices⟩).2.tree) =
    carriedOut tree directory plan

theorem Yields.completes {run : Run α} {result : Except Failure α} {next : α → Run Reply}
    {further : α → Except Failure Plan} (first : Yields tree directory run result)
    (rest : ∀ value, result = .ok value → Completes tree directory (next value) (further value)) :
    Completes tree directory (run >>= next) (result >>= further) := by
  intro notices
  obtain ⟨reads, ended⟩ := first notices
  rw [run_bind]
  cases result with
  | error failure =>
    unfold Reads Effect at reads
    rcases ran : run.run ⟨tree, directory, notices⟩ with ⟨_, after⟩
    rw [ran] at reads ended
    cases ended
    exact congrArg _ reads
  | ok value =>
    obtain ⟨told, ran⟩ := reads.run_ok ended
    rw [ran]
    exact rest value rfl told

theorem completes_of_tells {run : Run Unit} {next : Unit → Run Reply} {plan : Except Failure Plan}
    (first : Yields tree directory run (.ok ())) (rest : Completes tree directory (next ()) plan) :
    Completes tree directory (run >>= next) plan := by
  change Completes tree directory (run >>= next) (Except.ok () >>= fun _ => plan)
  exact first.completes fun _ _ => rest

theorem Outlet.write_told (outlet : Outlet) : InStep (Beside Eq) outlet.write outlet.write := by
  cases outlet with
  | none => exact .pure ()
  | cache path data => exact CacheFile.write_told path data
  | report path payload => exact ReportFile.write_told path payload

/-- What is left to do behind a write only tells. -/
theorem completes_write (outlet : Outlet) {next : Unit → Run Reply} {reply : Reply}
    (ends : ∀ session, ∃ told, (next ()).run session = (.ok reply, { session with notices := told })) :
    Completes tree directory (outlet.write >>= next) (.ok ⟨outlet, reply⟩) := by
  intro notices
  obtain ⟨same, -, trees⟩ := Outlet.write_told outlet ⟨tree, directory, notices⟩ ⟨tree, directory, []⟩ ⟨rfl, rfl⟩
  rw [run_bind, carriedOut]
  rcases ran : outlet.write.run ⟨tree, directory, notices⟩ with ⟨result, after⟩
  rcases also : outlet.write.run ⟨tree, directory, []⟩ with ⟨other, last⟩
  rw [ran, also] at same trees
  obtain rfl : result = other := same
  cases result with
  | error failure => exact congrArg _ trees
  | ok _ =>
    obtain ⟨told, ended⟩ := ends after
    dsimp only
    rw [ended]
    exact congrArg _ trees

end Session

namespace Command
open Options Session Proofs.FailingRuns
variable {tree : FileTree} {directory : Location} {invocation : Invocation} {onTerminal : Bool}

theorem rendered_ok (style : Report.Style) (json : Bool) (path : Option Text) {layout : Layout} {buffer : Bytes}
    {validation : Cache.Validation} (validated : Cache.validate layout buffer = .ok validation)
    (fits : Numeral.isWritten buffer.length = true) :
    ∃ text, rendered style json (Report.record path validation) validation = .ok text := by
  unfold rendered
  cases json with
  | true =>
    obtain ⟨text, printed⟩ := Report.record_prints path validated fits
    rw [printed]
    exact ⟨_, rfl⟩
  | false =>
    obtain ⟨text, told⟩ := (Report.validation_told_iff style (Cache.given_of_validate validated)).mpr
      fun _ => (Report.isWritten_of_validate validated fits).1
    rw [told]
    exact ⟨_, rfl⟩

theorem completes_validate (invocation : Invocation) (onTerminal json : Bool) (report : Argument Path)
    (failOnMismatch : Bool) :
    Completes tree directory (validate invocation onTerminal json report failOnMismatch)
      (plannedValidate tree directory invocation onTerminal json report failOnMismatch) := by
  apply Yields.completes (yields_settings invocation)
  intro settings _
  apply Yields.completes (yields_takeIn _)
  intro buffer taken
  apply Yields.completes (yields_lift _ _)
  intro layout _
  apply Yields.completes (yields_lift _ _)
  intro validation validated
  apply completes_of_tells (yields_tellAll _)
  obtain ⟨text, shown⟩ := rendered_ok ⟨settings.wantsColor && onTerminal, invocation.verbose⟩ json
    (some invocation.path.toText) (mapError_ok_iff.mp validated) (readAs_ok_iff.mp taken).2
  dsimp only
  rw [shown]
  generalize Report.record (some invocation.path.toText) validation = record at shown ⊢
  generalize (if failOnMismatch && !validation.isMatch then 1 else 0) = status
  -- what is left behind the report, in either form, only replies
  generalize staged : (if json = true then
      lift (record.print.map Text.ofString) .ofObstacle >>= fun output => pure ⟨output, status⟩
    else lift (Report.validation ⟨settings.wantsColor && onTerminal, invocation.verbose⟩ validation) .ofUntold >>=
      fun output => pure ⟨output, status⟩ : Run Reply) = stage
  have replies (session : Session) : stage.run session = (.ok ⟨text, status⟩, session) := by
    rw [rendered] at shown
    rw [← staged]
    cases json with
    | true =>
      rw [if_pos rfl] at shown ⊢
      rw [run_bind, run_lift, shown]
      rfl
    | false =>
      rw [if_neg Bool.false_ne_true] at shown ⊢
      rw [run_bind, run_lift, shown]
      rfl
  cases report with
  | absent => exact @completes_write _ _ .none (fun _ => stage) ⟨text, status⟩ fun session => ⟨_, replies session⟩
  | empty => exact fun _ => rfl
  | given path =>
    exact @completes_write _ _ (.report path record)
      (fun _ => tell .info ("Report written to " ++ path.toText) >>= fun _ => stage) ⟨text, status⟩
      fun session => ⟨_, replies _⟩

theorem completes_rehash (invocation : Invocation) (output : Argument Path) :
    Completes tree directory (rehash invocation output) (plannedRehash tree directory invocation output) := by
  apply Yields.completes (yields_settings invocation)
  intro settings _
  apply Yields.completes (yields_takeIn _)
  intro buffer _
  apply Yields.completes (yields_lift _ _)
  intro layout _
  apply Yields.completes (yields_lift _ _)
  intro result _
  apply completes_of_tells (yields_tellAll _)
  apply Yields.completes (yields_destination _ _)
  intro destination _
  apply completes_write (.cache destination result.data)
  intro session
  dsimp only
  split
  · exact ⟨_, rfl⟩
  · exact ⟨_, rfl⟩

theorem completes_transplant (invocation : Invocation) (donor : Argument Path) (alsoRehash : Bool)
    (output : Argument Path) :
    Completes tree directory (transplant invocation donor alsoRehash output)
      (plannedTransplant tree directory invocation donor alsoRehash output) := by
  apply Yields.completes (yields_settings invocation)
  intro settings _
  apply Yields.completes (yields_lift _ _)
  intro layout _
  apply Yields.completes (yields_takeIn _)
  intro buffer _
  apply Yields.completes (yields_named _)
  intro lender _
  apply Yields.completes (yields_takeIn _)
  intro donated _
  apply Yields.completes (yields_transplanted _ _ _ _ _)
  rintro ⟨data, text⟩ _
  apply Yields.completes (yields_destination _ _)
  intro destination _
  apply completes_write (.cache destination data)
  intro session
  exact ⟨_, rfl⟩

theorem completes_perform (invocation : Invocation) (onTerminal : Bool) :
    Completes tree directory (perform invocation onTerminal) (planned tree directory invocation onTerminal) := by
  unfold perform planned
  cases invocation.task with
  | validate json report failOnMismatch noColor => exact completes_validate invocation onTerminal json report failOnMismatch
  | rehash output => exact completes_rehash invocation output
  | transplant donor alsoRehash output => exact completes_transplant invocation donor alsoRehash output

def endingOf : Except Failure Reply → Ending
  | .ok reply => .exit reply.status
  | .error failure =>
    match answer? failure with
    | some (_, status) => .exit status
    | none => .escaped failure

def printed : Except Failure Reply → Text
  | .ok reply => reply.output ++ "\n"
  | .error _ => []

/-- A command ends, prints and leaves the tree as its plan says. -/
theorem runInvocation_planned (invocation : Invocation) (onTerminal : Bool) (tree : FileTree) (directory : Location) :
    let result := runInvocation invocation onTerminal tree directory
    let outcome := carriedOut tree directory (planned tree directory invocation onTerminal)
    result.ending = endingOf outcome.1 ∧ result.output = printed outcome.1 ∧ result.tree = outcome.2 := by
  intro result outcome
  have completes : _ = outcome := completes_perform invocation onTerminal []
  rw [← completes]
  simp only [result, runInvocation]
  rcases (perform invocation onTerminal).run ⟨tree, directory, []⟩ with ⟨reached, after⟩
  cases reached with
  | ok reply => exact ⟨rfl, rfl, rfl⟩
  | error failure =>
    dsimp only [endingOf, printed]
    cases answer? failure with
    | none => exact ⟨rfl, rfl, rfl⟩
    | some answer => exact ⟨rfl, rfl, rfl⟩

theorem ending_of_error {failure : Failure} {status : Nat} (ending : .exit status = endingOf (.error failure)) :
    ∃ text, answer? failure = some (text, status) := by
  dsimp only [endingOf] at ending
  cases answered : answer? failure with
  | none =>
    rw [answered] at ending
    cases ending
  | some answer =>
    obtain ⟨text, told⟩ := answer
    rw [answered] at ending
    cases ending
    exact ⟨text, rfl⟩

theorem ending_of_error_ne {failure : Failure} : endingOf (.error failure) ≠ .exit 0 := by
  intro same
  obtain ⟨text, answered⟩ := ending_of_error same.symm
  obtain other | other := answer?_status answered <;> cases other

/-- A command that has ended well has come to a plan and carried it out. -/
theorem planned_of_exits (exits : (runInvocation invocation onTerminal tree directory).ending = .exit 0) :
    ∃ plan, planned tree directory invocation onTerminal = .ok plan ∧
      (plan.outlet.write.run ⟨tree, directory, []⟩).1 = .ok () := by
  obtain ⟨ending, -, -⟩ := runInvocation_planned invocation onTerminal tree directory
  rw [exits] at ending
  cases came : planned tree directory invocation onTerminal with
  | error failure =>
    rw [came] at ending
    exact absurd ending.symm ending_of_error_ne
  | ok plan =>
    rw [came, carriedOut] at ending
    rcases ran : plan.outlet.write.run ⟨tree, directory, []⟩ with ⟨result, session⟩
    rw [ran] at ending
    cases result with
    | error failure => exact absurd ending.symm ending_of_error_ne
    | ok _ => exact ⟨plan, rfl, congrArg Prod.fst ran⟩

end Command

end CacheSeal
