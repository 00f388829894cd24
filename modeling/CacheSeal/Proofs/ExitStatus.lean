import CacheSeal.Proofs.CommandPlans

/-! The exit status of a command that returns. Faults of the settings come before all others and are told apart from
them; what a command is given or is to write is at fault next; and only a command that has done all that it was asked
for can find that a checksum differs. -/

namespace CacheSeal.Command
open Options Session Proofs.FailingRuns Cache
variable {tree : FileTree} {directory : Location} {invocation : Invocation} {failure : Failure} {onTerminal : Bool}

/-- The settings are at fault. -/
def Refused (tree : FileTree) (directory : Location) (invocation : Invocation) : Prop :=
  ∃ error, settled tree directory invocation = .error (.settings error)

/-- The cache file or the donor cannot be read, or holds no header. -/
inductive BadInput (tree : FileTree) (directory : Location) (invocation : Invocation) : Prop where
  | unread {error : OsError} (refused : tree.readFile directory invocation.path = .error error)
  | short {layout : Layout} {buffer : Bytes} (inEffect : layoutInEffect tree directory invocation = some layout)
      (found : tree.readFile directory invocation.path = .ok buffer) (short : buffer.length < layout.headerSize)
  | donorUnread {donor : Path} {alsoRehash : Bool} {output : Argument Path} {error : OsError}
      (task : invocation.task = .transplant (.given donor) alsoRehash output)
      (refused : tree.readFile directory donor = .error error)
  | donorShort {donor : Path} {alsoRehash : Bool} {output : Argument Path} {layout : Layout} {donated : Bytes}
      (task : invocation.task = .transplant (.given donor) alsoRehash output)
      (inEffect : layoutInEffect tree directory invocation = some layout)
      (lent : tree.readFile directory donor = .ok donated) (short : donated.length < layout.headerSize)

/-- The report or the result cannot be written to where it is to go. When that is so can be told from the tree. -/
inductive BadOutput (tree : FileTree) (directory : Location) (invocation : Invocation) : Prop where
  | report {json failOnMismatch noColor : Bool} {path : Path}
      (task : invocation.task = .validate json (.given path) failOnMismatch noColor)
      (refused : ReportFile.Unwritable tree directory path)
  | cache {destination : Path} (rewriting : isRewriting invocation.task = true)
      (goes : Goes invocation.path (outputOf invocation.task) destination)
      (refused : CacheFile.Unwritable tree directory destination)

/-- A validation is to fail on a mismatch, and the stored checksum is not the computed one. -/
inductive Differs (tree : FileTree) (directory : Location) (invocation : Invocation) : Prop where
  | intro {json noColor : Bool} {report : Argument Path} {layout : Layout} {buffer : Bytes}
      (task : invocation.task = .validate json report true noColor)
      (inEffect : layoutInEffect tree directory invocation = some layout)
      (found : tree.readFile directory invocation.path = .ok buffer) (fits : layout.headerSize ≤ buffer.length)
      (differs : Header.word layout buffer .checksum ≠ Checksum.compute (region layout buffer))

theorem settled_fails (failed : settled tree directory invocation = .error failure) : IsLoading failure := by
  rw [settled, settings_result, bind_error_iff] at failed
  obtain unloaded | ⟨loaded, -, refused⟩ := failed
  · exact (load_fails invocation.settings ⟨tree, directory, []⟩ trivial).fails failure unloaded
  · obtain ⟨error, -, rfl⟩ := mapError_error_iff.mp refused
    exact isLoading_ofSettings error

/-- If the failure is told at all, it is told as an error and not as a fault of the settings. -/
def IsError (failure : Failure) : Prop :=
  ∀ text status, answer? failure = some (text, status) → status = 1

theorem isError_accessFailure (action : String) (path : Path) (error : OsError) :
    IsError (accessFailure action path error) := by
  intro text status answered
  cases error <;> cases answered <;> rfl

theorem isError_truncated (error : Header.Truncated) : IsError (.truncated error) := by
  rintro _ _ ⟨⟩
  rfl

/-- Why a command does not come to a plan: for its settings, for its input, or for what it has no answer to. -/
inductive Hinders (tree : FileTree) (directory : Location) (invocation : Invocation) (failure : Failure) : Prop where
  | settings {error : Settings.Error} (refused : settled tree directory invocation = .error failure)
      (same : failure = .settings error)
  | input {settings : Settings} (ended : settled tree directory invocation = .ok settings)
      (bad : BadInput tree directory invocation)
      (told : IsError failure)
  | unexpected (unanswered : answer? failure = none)

theorem hinders_of_settled (failed : settled tree directory invocation = .error failure) :
    Hinders tree directory invocation failure := by
  obtain ⟨error, same⟩ | unanswered := settled_fails failed
  · exact .settings failed same
  · exact .unexpected unanswered

/-- What is not taken in could not be read, or is answered by nothing. -/
theorem hinders_of_readAs {settings : Settings} {path : Path} (ended : settled tree directory invocation = .ok settings)
    (failed : readAs tree directory path = .error failure)
    (bad : ∀ {error}, tree.readFile directory path = .error error → BadInput tree directory invocation) :
    Hinders tree directory invocation failure := by
  obtain unread | ⟨data, -, huge⟩ := bind_error_iff.mp failed
  · obtain ⟨error, refused, rfl⟩ := mapError_error_iff.mp unread
    exact .input ended (bad refused) (isError_accessFailure _ _ _)
  · split at huge <;> cases huge
    exact .unexpected rfl

theorem layout_not_error {settings : Settings} (ended : settled tree directory invocation = .ok settings) :
    settings.layout.mapError .layout ≠ .error failure := by
  obtain ⟨width, order, color, sound⟩ := sound_of_settled ended
  rw [sound.layout]
  exact nofun

theorem hinders_of_validate {json failOnMismatch : Bool} {report : Argument Path}
    (failed : plannedValidate tree directory invocation onTerminal json report failOnMismatch = .error failure) :
    Hinders tree directory invocation failure := by
  simp only [plannedValidate, bind_error_iff] at failed
  obtain unsettled | ⟨settings, ended, unread | ⟨buffer, found, invalid | ⟨layout, valid, refused | ⟨validation, validated,
    unnamed | ⟨outlet, -, unshown | ⟨text, -, ⟨⟩⟩⟩⟩⟩⟩⟩ := failed
  · exact hinders_of_settled unsettled
  · exact hinders_of_readAs ended unread .unread
  · exact absurd invalid (layout_not_error ended)
  · obtain ⟨error, truncated, rfl⟩ := mapError_error_iff.mp refused
    have inEffect := settles_iff.mp ⟨settings, ended, mapError_ok_iff.mp valid⟩
    exact .input ended (.short inEffect (readAs_ok_iff.mp found).1 (short_of_validate truncated)) (isError_truncated error)
  · cases report <;> cases unnamed
    exact .unexpected rfl
  · obtain ⟨text, shown⟩ := rendered_ok ⟨settings.wantsColor && onTerminal, invocation.verbose⟩ json
      (some invocation.path.toText) (mapError_ok_iff.mp validated) (readAs_ok_iff.mp found).2
    cases shown.symm.trans unshown

theorem destinationOf_error {output : Argument Path} (failed : destinationOf invocation output = .error failure) :
    answer? failure = none := by
  cases output <;> cases failed
  rfl

theorem hinders_of_rehash {output : Argument Path}
    (failed : plannedRehash tree directory invocation output = .error failure) :
    Hinders tree directory invocation failure := by
  simp only [plannedRehash, bind_error_iff] at failed
  obtain unsettled | ⟨settings, ended, unread | ⟨buffer, found, invalid | ⟨layout, valid, refused | ⟨result, -,
    unnamed | ⟨destination, -, ⟨⟩⟩⟩⟩⟩⟩ := failed
  · exact hinders_of_settled unsettled
  · exact hinders_of_readAs ended unread .unread
  · exact absurd invalid (layout_not_error ended)
  · obtain ⟨error, truncated, rfl⟩ := mapError_error_iff.mp refused
    have inEffect := settles_iff.mp ⟨settings, ended, mapError_ok_iff.mp valid⟩
    exact .input ended (.short inEffect (readAs_ok_iff.mp found).1 (short_of_rehash truncated)) (isError_truncated error)
  · exact .unexpected (destinationOf_error unnamed)

theorem moved_error {layout : Layout} {buffer donated : Bytes} {alsoRehash : Bool}
    (failed : moved invocation layout buffer donated alsoRehash = .error failure) :
    (buffer.length < layout.headerSize ∨ donated.length < layout.headerSize) ∧ IsError failure := by
  simp only [moved, bind_error_iff] at failed
  obtain refused | ⟨result, transplanted, unshown | ⟨text, -, rest⟩⟩ := failed
  · obtain ⟨error, truncated, rfl⟩ := mapError_error_iff.mp refused
    exact ⟨short_of_transplant truncated, isError_truncated error⟩
  · -- the names that are told of are those of the hashes
    obtain ⟨error, unknown, -⟩ := mapError_error_iff.mp unshown
    obtain ⟨text, told⟩ := Report.transplant_told (mapError_ok_iff.mp transplanted)
    cases unknown.symm.trans told
  · cases alsoRehash with
    | false => cases rest
    | true =>
      rw [if_pos rfl, bind_error_iff] at rest
      obtain refused | ⟨_, -, ⟨⟩⟩ := rest
      obtain ⟨error, truncated, rfl⟩ := mapError_error_iff.mp refused
      -- a transplant keeps the length, so what it has made holds a header
      have short := short_of_rehash truncated
      rw [transplant_length (mapError_ok_iff.mp transplanted)] at short
      exact ⟨.inl short, isError_truncated error⟩

theorem given_of_givenPath {argument : Argument Path} {path : Path} (named : givenPath argument = .ok path) :
    argument = .given path := by
  cases argument <;> cases named
  rfl

theorem hinders_of_transplant {donor output : Argument Path} {alsoRehash : Bool}
    (task : invocation.task = .transplant donor alsoRehash output)
    (failed : plannedTransplant tree directory invocation donor alsoRehash output = .error failure) :
    Hinders tree directory invocation failure := by
  simp only [plannedTransplant, bind_error_iff] at failed
  obtain unsettled | ⟨settings, ended, invalid | ⟨layout, valid, unread | ⟨buffer, found, unnamed | ⟨lender, named,
    unlent | ⟨donated, lent, refused | ⟨made, -, unnamed | ⟨destination, -, ⟨⟩⟩⟩⟩⟩⟩⟩⟩ := failed
  · exact hinders_of_settled unsettled
  · exact absurd invalid (layout_not_error ended)
  · exact hinders_of_readAs ended unread .unread
  · cases donor <;> cases unnamed <;> exact .unexpected rfl
  · rw [given_of_givenPath named] at task
    exact hinders_of_readAs ended unlent (.donorUnread task)
  · have inEffect := settles_iff.mp ⟨settings, ended, mapError_ok_iff.mp valid⟩
    rw [given_of_givenPath named] at task
    obtain ⟨short | short, told⟩ := moved_error refused
    · exact .input ended (.short inEffect (readAs_ok_iff.mp found).1 short) told
    · exact .input ended (.donorShort task inEffect (readAs_ok_iff.mp lent).1 short) told
  · exact .unexpected (destinationOf_error unnamed)

theorem planned_error (failed : planned tree directory invocation onTerminal = .error failure) :
    Hinders tree directory invocation failure := by
  unfold planned at failed
  cases task : invocation.task with
  | validate json report failOnMismatch noColor =>
    rw [task] at failed
    exact hinders_of_validate failed
  | rehash output =>
    rw [task] at failed
    exact hinders_of_rehash failed
  | transplant donor alsoRehash output =>
    rw [task] at failed
    exact hinders_of_transplant task failed

def Fails (tree : FileTree) (directory : Location) (outlet : Outlet) : Prop :=
  ∃ failure, (outlet.write.run ⟨tree, directory, []⟩).1 = .error failure

/-- A command that comes to a plan has settings and good input, can fail only to write, and else replies whether a
checksum differs. -/
structure Fulfils (tree : FileTree) (directory : Location) (invocation : Invocation) (plan : Plan) : Prop where
  ended : ∃ settings, settled tree directory invocation = .ok settings
  input : ¬ BadInput tree directory invocation
  output : Fails tree directory plan.outlet ↔ BadOutput tree directory invocation
  status : (plan.reply.status = 0 ∧ ¬ Differs tree directory invocation) ∨
    (plan.reply.status = 1 ∧ Differs tree directory invocation)

theorem not_badInput {layout : Layout} {buffer : Bytes} (inEffect : layoutInEffect tree directory invocation = some layout)
    (found : tree.readFile directory invocation.path = .ok buffer) (fits : layout.headerSize ≤ buffer.length)
    (lends : ∀ donor alsoRehash output, invocation.task = .transplant (.given donor) alsoRehash output →
      ∃ donated, tree.readFile directory donor = .ok donated ∧ layout.headerSize ≤ donated.length) :
    ¬ BadInput tree directory invocation := by
  intro bad
  cases bad with
  | unread refused => cases found.symm.trans refused
  | short also again short =>
    cases inEffect.symm.trans also
    cases found.symm.trans again
    omega
  | donorUnread task refused =>
    obtain ⟨donated, lent, -⟩ := lends _ _ _ task
    cases lent.symm.trans refused
  | donorShort task also again short =>
    obtain ⟨donated, lent, donorFits⟩ := lends _ _ _ task
    cases inEffect.symm.trans also
    cases lent.symm.trans again
    omega

theorem badOutput_iff_of_validate {json failOnMismatch noColor : Bool} {report : Argument Path}
    (task : invocation.task = .validate json report failOnMismatch noColor) :
    BadOutput tree directory invocation ↔ ∃ path, report = .given path ∧ ReportFile.Unwritable tree directory path := by
  constructor
  · intro bad
    cases bad with
    | report other refused =>
      cases task.symm.trans other
      exact ⟨_, rfl, refused⟩
    | cache rewriting _ _ =>
      rw [task] at rewriting
      cases rewriting
  · rintro ⟨path, rfl, refused⟩
    exact .report task refused

theorem badOutput_iff_of_rewriting (rewriting : isRewriting invocation.task = true) :
    BadOutput tree directory invocation ↔
      ∃ destination, Goes invocation.path (outputOf invocation.task) destination ∧
        CacheFile.Unwritable tree directory destination := by
  constructor
  · intro bad
    cases bad with
    | report task _ =>
      rw [task] at rewriting
      cases rewriting
    | cache _ goes refused => exact ⟨_, goes, refused⟩
  · rintro ⟨destination, goes, refused⟩
    exact .cache rewriting goes refused

theorem differs_iff {json failOnMismatch noColor : Bool} {report : Argument Path} {layout : Layout} {buffer : Bytes}
    (task : invocation.task = .validate json report failOnMismatch noColor)
    (inEffect : layoutInEffect tree directory invocation = some layout)
    (found : tree.readFile directory invocation.path = .ok buffer) (fits : layout.headerSize ≤ buffer.length) :
    Differs tree directory invocation ↔ failOnMismatch = true ∧
      Header.word layout buffer .checksum ≠ Checksum.compute (region layout buffer) := by
  constructor
  · rintro ⟨other, also, again, -, differs⟩
    cases task.symm.trans other
    cases inEffect.symm.trans also
    cases found.symm.trans again
    exact ⟨rfl, differs⟩
  · rintro ⟨rfl, differs⟩
    exact ⟨task, inEffect, found, fits, differs⟩

theorem isMatch_iff {layout : Layout} {buffer : Bytes} {validation : Validation}
    (validated : Cache.validate layout buffer = .ok validation) :
    validation.isMatch = true ↔ Header.word layout buffer .checksum = Checksum.compute (region layout buffer) := by
  have reports : Reports layout buffer validation.verdict := ⟨validation, validated, rfl⟩
  obtain ⟨-, same⟩ := reports_iff.mp reports
  rw [Validation.isMatch, ← same, decide_eq_true_iff]
  split
  · exact iff_of_true rfl ‹_›
  · exact iff_of_false nofun ‹_›

theorem fulfils_of_validate {json failOnMismatch noColor : Bool} {report : Argument Path} {plan : Plan}
    (task : invocation.task = .validate json report failOnMismatch noColor)
    (came : plannedValidate tree directory invocation onTerminal json report failOnMismatch = .ok plan) :
    Fulfils tree directory invocation plan := by
  obtain ⟨settings, layout, buffer, validation, outlet, text, ended, valid, taken, validated, written, -, rfl⟩ :=
    plannedValidate_ok_iff.mp came
  obtain ⟨found, small⟩ := readAs_ok_iff.mp taken
  have inEffect := settles_iff.mp ⟨settings, ended, valid⟩
  have fits : layout.headerSize ≤ buffer.length := (reports_iff.mp ⟨validation, validated, rfl⟩).1
  refine ⟨⟨settings, ended⟩, ?_, ?_, ?_⟩
  · apply not_badInput inEffect found fits
    intro _ _ _ other
    cases task.symm.trans other
  · rw [badOutput_iff_of_validate task]
    cases report with
    | absent =>
      cases written
      exact iff_of_false nofun nofun
    | empty => cases written
    | given path =>
      cases written
      obtain ⟨shown, printed⟩ := Report.record_prints (some invocation.path.toText) validated small
      simp only [Fails, Outlet.write, Argument.given.injEq, exists_eq_left']
      exact (ReportFile.unwritable_iff printed []).symm
  · rw [differs_iff task inEffect found fits, ne_eq, ← isMatch_iff validated]
    cases failOnMismatch <;> cases validation.isMatch <;> simp

theorem destinationOf_ok_iff {output : Argument Path} {destination : Path} :
    destinationOf invocation output = .ok destination ↔ Goes invocation.path output destination := by
  constructor
  · intro named
    cases output <;> cases named
    · exact .back
    · exact .out _
  · intro goes
    cases goes <;> rfl

theorem fulfils_of_rewriting {destination : Path} {data : Bytes} {text : Text}
    (rewriting : isRewriting invocation.task = true) (ended : ∃ settings, settled tree directory invocation = .ok settings)
    (input : ¬ BadInput tree directory invocation)
    (goes : Goes invocation.path (outputOf invocation.task) destination) :
    Fulfils tree directory invocation ⟨.cache destination data, text, 0⟩ := by
  refine ⟨ended, input, ?_, .inl ⟨rfl, ?_⟩⟩
  · rw [badOutput_iff_of_rewriting rewriting]
    constructor
    · intro fails
      exact ⟨destination, goes, (CacheFile.unwritable_iff data []).mpr fails⟩
    · rintro ⟨other, also, refused⟩
      cases (destinationOf_ok_iff.mpr goes).symm.trans (destinationOf_ok_iff.mpr also)
      exact (CacheFile.unwritable_iff data []).mp refused
  · rintro ⟨task, -⟩
    rw [task] at rewriting
    cases rewriting

theorem fulfils_of_rehash {output : Argument Path} {plan : Plan} (task : invocation.task = .rehash output)
    (came : plannedRehash tree directory invocation output = .ok plan) : Fulfils tree directory invocation plan := by
  obtain ⟨layout, buffer, result, destination, inEffect, taken, rehashed, named, rfl⟩ := plannedRehash_ok_iff.mp came
  obtain ⟨settings, ended, -⟩ := settles_iff.mpr inEffect
  have fits := (rehash_data rehashed).1
  apply fulfils_of_rewriting
  · rw [task]
    rfl
  · exact ⟨settings, ended⟩
  · apply not_badInput inEffect (readAs_ok_iff.mp taken).1 fits
    intro _ _ _ other
    cases task.symm.trans other
  · rw [task]
    exact destinationOf_ok_iff.mp named

theorem fulfils_of_transplant {donor output : Argument Path} {alsoRehash : Bool} {plan : Plan}
    (task : invocation.task = .transplant donor alsoRehash output)
    (came : plannedTransplant tree directory invocation donor alsoRehash output = .ok plan) :
    Fulfils tree directory invocation plan := by
  obtain ⟨layout, buffer, lender, donated, data, text, destination, inEffect, found, given, lent, made, named, rfl⟩ :=
    plannedTransplant_ok_iff.mp came
  obtain ⟨settings, ended, -⟩ := settles_iff.mpr inEffect
  obtain rfl := given_of_givenPath given
  simp only [moved, bind_ok_iff, mapError_ok_iff] at made
  obtain ⟨result, transplanted, -⟩ := made
  obtain ⟨fits, donorFits, -⟩ := transplant_data transplanted
  apply fulfils_of_rewriting
  · rw [task]
    rfl
  · exact ⟨settings, ended⟩
  · apply not_badInput inEffect (readAs_ok_iff.mp found).1 fits
    intro _ _ _ other
    cases task.symm.trans other
    exact ⟨donated, (readAs_ok_iff.mp lent).1, donorFits⟩
  · rw [task]
    exact destinationOf_ok_iff.mp named

theorem planned_ok {plan : Plan} (came : planned tree directory invocation onTerminal = .ok plan) :
    Fulfils tree directory invocation plan := by
  unfold planned at came
  cases task : invocation.task with
  | validate json report failOnMismatch noColor =>
    rw [task] at came
    exact fulfils_of_validate task came
  | rehash output =>
    rw [task] at came
    exact fulfils_of_rehash task came
  | transplant donor alsoRehash output =>
    rw [task] at came
    exact fulfils_of_transplant task came

theorem onDisk_isError {α : Type} (disk : Disk α) (action : String) (path : Path) :
    FailsOnly (fun _ => True) IsError (onDisk disk (accessFailure action path)) := by
  intro session _
  rw [run_onDisk]
  rcases disk.run session.tree with ⟨result, after⟩
  cases result with
  | error error => exact .error trivial (isError_accessFailure action path error)
  | ok value => exact .ok trivial value

theorem lift_isError {ε α : Type} (result : Except ε α) {fault : ε → Failure} (told : ∀ error, IsError (fault error)) :
    FailsOnly (fun _ : Session => True) IsError (lift result fault) :=
  lift_fails fun error _ => told error

theorem outlet_isError (outlet : Outlet) : FailsOnly (fun _ => True) IsError outlet.write := by
  cases outlet with
  | none => exact .pure ()
  | cache path data =>
    apply FailsOnly.bind
    · apply FailsOnly.bind_get
      intro session _
      apply lift_isError
      intro error text status answered
      cases error <;> cases answered
    · intro location
      apply FailsOnly.bind (onDisk_isError _ _ _)
      intro _
      exact .modify fun _ _ => trivial
  | report path payload =>
    apply FailsOnly.bind_get
    intro session _
    apply FailsOnly.bind (onDisk_isError _ _ _)
    intro _
    apply FailsOnly.bind (onDisk_isError _ _ _)
    intro staged
    refine FailsOnly.tryCatch (?_ : FailsOnly _ IsError _) ?_
    · apply FailsOnly.bind (onDisk_isError _ _ _)
      intro _
      apply FailsOnly.bind (lift_isError _ nofun)
      intro data
      apply FailsOnly.bind (onDisk_isError _ _ _)
      intro _
      exact onDisk_isError _ _ _
    · intro failure told
      apply FailsOnly.bind (onDisk_isError _ _ _)
      intro _
      exact .throw told

/-- The output is the report on the cache file, in the form that is asked for. -/
inductive Shows (tree : FileTree) (directory : Location) (invocation : Invocation) (onTerminal : Bool) : Text → Prop where
  | intro {json failOnMismatch noColor : Bool} {report : Argument Path} {settings : Settings} {layout : Layout}
      {buffer : Bytes} {validation : Validation} {text : Text}
      (task : invocation.task = .validate json report failOnMismatch noColor)
      (ended : settled tree directory invocation = .ok settings) (valid : settings.layout = .ok layout)
      (found : tree.readFile directory invocation.path = .ok buffer)
      (validated : Cache.validate layout buffer = .ok validation)
      (shown : rendered ⟨settings.wantsColor && onTerminal, invocation.verbose⟩ json
        (Report.record (some invocation.path.toText) validation) validation = .ok text) :
      Shows tree directory invocation onTerminal (text ++ "\n")

theorem shows_of_planned {plan : Plan} (came : planned tree directory invocation onTerminal = .ok plan)
    (differs : Differs tree directory invocation) :
    Shows tree directory invocation onTerminal (plan.reply.output ++ "\n") := by
  obtain ⟨task, -, -, -, -⟩ := differs
  rw [planned, task] at came
  obtain ⟨settings, layout, buffer, validation, outlet, text, ended, valid, found, validated, -, shown, rfl⟩ :=
    plannedValidate_ok_iff.mp came
  exact ⟨task, ended, valid, (readAs_ok_iff.mp found).1, validated, shown⟩

def Faulty (tree : FileTree) (directory : Location) (invocation : Invocation) : Prop :=
  BadInput tree directory invocation ∨ BadOutput tree directory invocation

/-- A command that returns was refused, is faulty, or has done all that it was asked for. -/
theorem returns_cases {status : Nat}
    (returns : (runInvocation invocation onTerminal tree directory).ending = .exit status) :
    let output := (runInvocation invocation onTerminal tree directory).output
    (status = 2 ∧ Refused tree directory invocation ∧ output = []) ∨
      (status = 1 ∧ ¬ Refused tree directory invocation ∧ Faulty tree directory invocation ∧ output = []) ∨
      (¬ Refused tree directory invocation ∧ ¬ Faulty tree directory invocation ∧
        (status = 0 ∧ ¬ Differs tree directory invocation ∨
          status = 1 ∧ Differs tree directory invocation ∧ Shows tree directory invocation onTerminal output)) := by
  intro output
  obtain ⟨ending, printed, -⟩ := runInvocation_planned invocation onTerminal tree directory
  rw [returns] at ending
  cases came : planned tree directory invocation onTerminal with
  | error failure =>
    rw [came] at ending printed
    obtain ⟨text, answered⟩ := ending_of_error ending
    cases planned_error came with
    | settings refused same =>
      subst same
      cases answered
      exact .inl ⟨rfl, ⟨_, refused⟩, printed⟩
    | input ended bad told =>
      refine .inr (.inl ⟨told _ _ answered, ?_, .inl bad, printed⟩)
      rintro ⟨error, refused⟩
      cases ended.symm.trans refused
    | unexpected unanswered => cases unanswered.symm.trans answered
  | ok plan =>
    obtain ⟨⟨settings, ended⟩, input, fails, reply⟩ := planned_ok came
    have accepted : ¬ Refused tree directory invocation := by
      rintro ⟨error, refused⟩
      cases ended.symm.trans refused
    have told := (outlet_isError plan.outlet ⟨tree, directory, []⟩ trivial).fails
    rw [came, carriedOut] at ending printed
    unfold Fails at fails
    rcases ran : plan.outlet.write.run ⟨tree, directory, []⟩ with ⟨result, after⟩
    rw [ran] at ending printed told fails
    cases result with
    | error failure =>
      obtain ⟨text, answered⟩ := ending_of_error ending
      exact .inr (.inl ⟨told failure rfl _ _ answered, accepted, .inr (fails.mp ⟨failure, rfl⟩), printed⟩)
    | ok _ =>
      have done : ¬ Faulty tree directory invocation := by
        rintro (bad | bad)
        · exact input bad
        · obtain ⟨failure, failed⟩ := fails.mpr bad
          cases failed
      cases ending
      obtain ⟨exits, same⟩ | ⟨exits, differs⟩ := reply
      · exact .inr (.inr ⟨accepted, done, .inl ⟨exits, same⟩⟩)
      · refine .inr (.inr ⟨accepted, done, .inr ⟨exits, differs, ?_⟩⟩)
        have whole : output = plan.reply.output ++ "\n" := printed
        rw [whole]
        exact shows_of_planned came differs

/-- A command that returns has exit status 2 just for faults of the settings, 1 for other faults or for a checksum that
differs where this is to fail, and 0 otherwise. With a fault nothing is printed, and where a checksum differs the report
is. -/
theorem exit_status {arguments : List Text} {status : Nat} (asked : Request.ofArguments arguments = .run invocation)
    (returns : (run arguments onTerminal tree directory).ending = .exit status) :
    let output := (run arguments onTerminal tree directory).output
    (status = 2 ↔ Refused tree directory invocation) ∧
      (status = 1 ↔ ¬ Refused tree directory invocation ∧
        (Faulty tree directory invocation ∨ Differs tree directory invocation)) ∧
      (status = 0 ↔ ¬ Refused tree directory invocation ∧ ¬ Faulty tree directory invocation ∧
        ¬ Differs tree directory invocation) ∧
      (Refused tree directory invocation ∨ Faulty tree directory invocation → output = []) ∧
      (¬ Refused tree directory invocation → ¬ Faulty tree directory invocation → Differs tree directory invocation →
        Shows tree directory invocation onTerminal output) := by
  rw [run_eq asked] at returns ⊢
  obtain ⟨rfl, refused, silent⟩ | ⟨rfl, accepted, faulty, silent⟩ |
    ⟨accepted, done, ⟨rfl, same⟩ | ⟨rfl, differs, shows⟩⟩ := returns_cases returns
  · simp [refused, silent]
  · simp [accepted, faulty, silent]
  · simp [accepted, done, same]
  · simp [accepted, done, differs, shows]

theorem exit_status_mismatch :
    ∃ invocation, Request.ofArguments ["validate", "b.jsc", "--fail-on-mismatch"] = .run invocation ∧
      (run ["validate", "b.jsc", "--fail-on-mismatch"] false shelf []).ending = .exit 1 ∧
      Differs shelf [] invocation ∧
      Shows shelf [] invocation false (run ["validate", "b.jsc", "--fail-on-mismatch"] false shelf []).output := by
  obtain ⟨invocation, asked⟩ : ∃ invocation,
      Request.ofArguments ["validate", "b.jsc", "--fail-on-mismatch"] = .run invocation := ⟨_, rfl⟩
  have exits : (run ["validate", "b.jsc", "--fail-on-mismatch"] false shelf []).ending = .exit 1 := by rfl
  have printed : (run ["validate", "b.jsc", "--fail-on-mismatch"] false shelf []).output ≠ [] := by decide +kernel
  obtain ⟨-, told, -, silent, shows⟩ := exit_status asked exits
  obtain ⟨accepted, reason⟩ := told.mp rfl
  have done : ¬ Faulty shelf [] invocation := fun faulty => printed (silent (.inr faulty))
  have differs := reason.resolve_left done
  exact ⟨invocation, asked, exits, differs, shows accepted done differs⟩

end CacheSeal.Command
