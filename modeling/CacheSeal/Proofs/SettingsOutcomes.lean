import CacheSeal.Command
import CacheSeal.Proofs.AccessFailures

/-! How the loading of settings ends: with settings, with a fault of theirs that the program answers, or with a failure
that it does not expect. The last is told from the path and the content of the file, by what decoding, parsing and
showing make of it. -/

namespace CacheSeal
open Session Proofs.FailingRuns

namespace Session
variable {α β ε : Type}

theorem forM_ok_iff {check : α → Except ε Unit} {values : List α} :
    values.forM check = .ok () ↔ ∀ value ∈ values, check value = .ok () := by
  induction values with
  | nil => exact iff_of_true rfl fun _ member => absurd member List.not_mem_nil
  | cons first rest ih =>
    change (check first >>= fun _ => rest.forM check) = .ok () ↔ _
    rw [List.forall_mem_cons, ← ih]
    cases check first <;> simp [bind, Except.bind]

theorem mapError_id (result : Except ε α) : result.mapError id = result := by
  cases result <;> rfl

/-- What is lifted leaves the session as it is, so the result goes on from the same one. -/
theorem result_lift_bind (result : Except ε α) (failure : ε → Failure) (next : α → Run β)
    (session : Session) :
    ((lift result failure >>= next).run session).1 =
      result.mapError failure >>= fun value => ((next value).run session).1 := by
  rw [run_bind, run_lift]
  cases result <;> rfl

theorem lift_fails {result : Except ε α} {failure : ε → Failure} {allowed : Failure → Prop}
    (fails : ∀ error, result = .error error → allowed (failure error)) :
    FailsOnly (fun _ : Session => True) allowed (lift result failure) := by
  cases result with
  | ok value => exact .pure value
  | error error => exact .throw (fails error rfl)

end Session

namespace Settings
variable {tree : FileTree} {directory : Location} {explicit : Argument Path} {data : Bytes} {entries : Entries}

/-- What is to be told of the entries cannot be shown: a key, or behind keys that are all settings the first value that
does not suit its own. -/
inductive Hides (entries : Entries) : Prop where
  | key {entry : Value × Value} {unshowable : Value.Unshowable} (member : entry ∈ entries)
      (hidden : entry.1.checkShowable = .error unshowable)
  | value {error : Error} {unshowable : Value.Unshowable} (shown : ∀ entry ∈ entries, entry.1.checkShowable = .ok ())
      (known : checkKeys entries = .ok ()) (refused : ofValues entries = .error error)
      (hidden : error.checkShowable = .error unshowable)

/-- The data do not come to be judged as settings: they are no text, a scalar in them does not suit its tag, or what is
to be told of them cannot be shown. -/
def Unfit (data : Bytes) : Prop :=
  match Yaml.decode? data with
  | none => True
  | some chars =>
    match Yaml.load chars with
    | .error error => error ≠ .malformed
    | .ok value => ∃ entries, entries? value = some entries ∧ Hides entries

/-- Where the settings are looked for, if they can be. -/
def located (tree : FileTree) (directory : Location) : Argument Path → Except OsError Location
  | .given path => tree.resolve directory path
  | _ => .ok (directory ++ [Text.ofString fileName])

/-- The settings are not judged: their path cannot be resolved or is too long to be asked for, or the file there is
unfit. -/
def Unjudged (tree : FileTree) (directory : Location) (explicit : Argument Path) : Prop :=
  match located tree directory explicit with
  | .error _ => True
  | .ok location =>
    tree.find [] location.toPath = .error .nameTooLong ∨
      ∃ data, tree.readFile [] location.toPath = .ok data ∧ Unfit data

/-- Settings, or a fault of theirs. -/
def Judged (result : Except Failure Settings) : Prop :=
  ∀ failure, result = .error failure → ∃ error, failure = .settings error

theorem judged_ok (settings : Settings) : Judged (.ok settings) := by
  intro failure failed
  cases failed

theorem judged_error (error : Error) : Judged (.error (.settings error)) := by
  intro failure failed
  cases failed
  exact ⟨error, rfl⟩

theorem not_judged {failure : Failure} (other : ∀ error, failure ≠ .settings error) : ¬ Judged (.error failure) := by
  intro judged
  obtain ⟨error, same⟩ := judged failure rfl
  exact other error same

theorem ofUnshowable_ne (unshowable : Value.Unshowable) (error : Error) :
    Failure.ofUnshowable unshowable ≠ .settings error := by
  cases unshowable <;> exact nofun

/-- What is made of the entries of a settings file. -/
def judgeEntries (entries : Entries) : Except Failure Settings := do
  (entries.forM fun entry => entry.1.checkShowable).mapError .ofUnshowable
  (checkKeys entries).mapError .settings
  (ofValues entries).mapError .ofSettings

/-- What is made of the content of a settings file. -/
def judge (shown : Text) (data : Bytes) : Except Failure Settings := do
  let value ← readDocument shown data
  match entries? value with
  | none => throw (.settings (.noMapping shown))
  | some entries => judgeEntries entries

theorem judgeEntries_of_shown (shown : ∀ entry ∈ entries, entry.1.checkShowable = .ok ()) :
    judgeEntries entries = (checkKeys entries).mapError .settings >>= fun _ => (ofValues entries).mapError .ofSettings := by
  unfold judgeEntries
  rw [forM_ok_iff.mpr shown]
  rfl

theorem judgeEntries_of_hidden {entry : Value × Value} {unshowable : Value.Unshowable} (member : entry ∈ entries)
    (hidden : entry.1.checkShowable = .error unshowable) :
    ∃ unshowable, judgeEntries entries = .error (.ofUnshowable unshowable) := by
  unfold judgeEntries
  cases keys : entries.forM fun entry => entry.1.checkShowable with
  | error other => exact ⟨other, rfl⟩
  | ok _ =>
    rw [forM_ok_iff.mp keys entry member] at hidden
    cases hidden

theorem judgeEntries_judged_iff : Judged (judgeEntries entries) ↔ ¬ Hides entries := by
  constructor
  · intro judged hides
    cases hides with
    | key member hidden =>
      obtain ⟨unshowable, same⟩ := judgeEntries_of_hidden member hidden
      rw [same] at judged
      exact not_judged (ofUnshowable_ne unshowable) judged
    | @value error unshowable shown known refused hidden =>
      rw [judgeEntries_of_shown shown, known, refused] at judged
      change Judged (.error (.ofSettings error)) at judged
      rw [Failure.ofSettings, hidden] at judged
      exact not_judged (ofUnshowable_ne unshowable) judged
  · intro showable
    have shown : ∀ entry ∈ entries, entry.1.checkShowable = .ok () := by
      intro entry member
      cases hidden : entry.1.checkShowable with
      | ok _ => rfl
      | error unshowable => exact absurd (.key member hidden) showable
    rw [judgeEntries_of_shown shown]
    cases known : checkKeys entries with
    | error error => exact judged_error error
    | ok _ =>
      cases refused : ofValues entries with
      | ok settings => exact judged_ok settings
      | error error =>
        change Judged (.error (.ofSettings error))
        unfold Failure.ofSettings
        cases hidden : error.checkShowable with
        | ok _ => exact judged_error error
        | error unshowable => exact absurd (.value shown known refused hidden) showable

theorem judge_judged_iff {shown : Text} : Judged (judge shown data) ↔ ¬ Unfit data := by
  unfold judge readDocument Unfit
  cases Yaml.decode? data with
  | none => exact iff_of_false (not_judged nofun) (not_not_intro trivial)
  | some chars =>
    dsimp only
    cases Yaml.load chars with
    | error error =>
      by_cases malformed : error = .malformed
      · subst malformed
        exact iff_of_true (judged_error _) (not_not_intro rfl)
      · refine iff_of_false ?_ (not_not_intro malformed)
        cases error with
        | malformed => exact absurd rfl malformed
        | _ => exact not_judged nofun
    | ok value =>
      simp only [bind, Except.bind]
      cases entries? value with
      | none => exact iff_of_true (judged_error _) nofun
      | some entries =>
        rw [judgeEntries_judged_iff]
        constructor
        · intro showable held
          obtain ⟨_, same, hides⟩ := held
          cases same
          exact showable hides
        · intro fit hides
          exact fit ⟨entries, rfl, hides⟩

/-- What the settings come to at a location, apart from what is told. -/
theorem loadAt_result (location : Location) (isNeeded : Bool) (session : Session) :
    ((loadAt location isNeeded).run session).1 =
      match session.tree.find [] location.toPath with
      | .error .nameTooLong => .error .pathTooLong
      | .error _ => if isNeeded then .error (.settings (.notFound location.text)) else .ok default
      | .ok _ =>
        match session.tree.readFile [] location.toPath with
        | .error error => .error (unreadable location.text error)
        | .ok data => judge location.text data := by
  unfold loadAt
  simp only [run_bind, run_get]
  split
  next stands =>
    rw [stands, result_lift_bind]
    cases session.tree.readFile [] location.toPath with
    | error error => rfl
    | ok data =>
      change ((lift (readDocument location.text data) id >>= _).run session).1 = _
      rw [result_lift_bind, mapError_id]
      -- what is told behind the keys changes the session, but none of the results
      refine bind_congr fun value => ?_
      cases entries? value with
      | none => rfl
      | some entries =>
        simp only [result_lift_bind]
        simp only [run_bind, run_tell, run_lift]
        rfl
  next refused =>
    rw [refused]
    rfl
  next error asked refused =>
    rw [refused]
    cases error with
    | nameTooLong => exact absurd rfl asked
    | _ => cases isNeeded <;> rfl

/-- A file that stands is read, unless it is a directory; and that is a fault of the settings. -/
theorem isDirectory_of_readFile {entry : Entry} {error : OsError} {path : Path} (stands : tree.find [] path = .ok entry)
    (refused : tree.readFile [] path = .error error) : error = .isDirectory := by
  unfold FileTree.readFile at refused
  rw [stands] at refused
  simp only [bind, Except.bind] at refused
  split at refused
  · cases refused
  · cases refused
    rfl

theorem find_of_readFile {path : Path} (found : tree.readFile [] path = .ok data) :
    ∃ entry, tree.find [] path = .ok entry := by
  unfold FileTree.readFile at found
  cases stands : tree.find [] path with
  | ok entry => exact ⟨entry, rfl⟩
  | error error =>
    rw [stands] at found
    cases found

theorem loadAt_judged_iff (location : Location) (isNeeded : Bool) (session : Session) :
    Judged ((loadAt location isNeeded).run session).1 ↔
      ¬ (session.tree.find [] location.toPath = .error .nameTooLong ∨
        ∃ data, session.tree.readFile [] location.toPath = .ok data ∧ Unfit data) := by
  rw [loadAt_result]
  cases found : session.tree.readFile [] location.toPath with
  | ok data =>
    obtain ⟨entry, stands⟩ := find_of_readFile found
    simp [stands, judge_judged_iff]
  | error error =>
    cases stands : session.tree.find [] location.toPath with
    | ok entry =>
      obtain rfl := isDirectory_of_readFile stands found
      exact iff_of_true (judged_error _) (by simp)
    | error fault =>
      cases fault with
      | nameTooLong => exact iff_of_false (not_judged nofun) (by simp)
      | _ =>
        refine iff_of_true ?_ (by simp)
        cases isNeeded with
        | false => exact judged_ok default
        | true => exact judged_error (.notFound location.text)

theorem place_run (explicit : Argument Path) (session : Session) :
    (place explicit).run session =
      ((located session.tree session.directory explicit).mapError fun error => .ofDisk error .linkCircle, session) := by
  cases explicit with
  | given path => exact run_locate path session
  | absent => rfl
  | empty => rfl

theorem load_judged_iff (explicit : Argument Path) (session : Session) :
    Judged ((load explicit).run session).1 ↔ ¬ Unjudged session.tree session.directory explicit := by
  unfold load Unjudged
  rw [run_bind, place_run]
  cases located session.tree session.directory explicit with
  | error error =>
    refine iff_of_false ?_ (not_not_intro trivial)
    cases error <;> exact not_judged nofun
  | ok location => exact loadAt_judged_iff location (!explicit.isAbsent) session

end Settings

namespace Command
open Options
variable {tree : FileTree} {directory : Location} {invocation : Invocation} {failure : Failure}

/-- The failure is a fault of the settings, or it is not expected. -/
def IsLoading (failure : Failure) : Prop :=
  (∃ error, failure = .settings error) ∨ answer? failure = none

theorem isLoading_ofDisk {error : OsError} {refused : Failure} (expected : IsLoading refused) :
    IsLoading (.ofDisk error refused) := by
  cases error <;> first | exact .inr rfl | exact expected

theorem isLoading_ofUnshowable (unshowable : Value.Unshowable) : IsLoading (.ofUnshowable unshowable) := by
  cases unshowable <;> exact .inr rfl

theorem isLoading_ofSettings (error : Settings.Error) : IsLoading (.ofSettings error) := by
  unfold Failure.ofSettings
  cases error.checkShowable with
  | ok _ => exact .inl ⟨error, rfl⟩
  | error unshowable => exact isLoading_ofUnshowable unshowable

theorem readDocument_isLoading {shown : Text} {data : Bytes} (refused : Settings.readDocument shown data = .error failure) :
    IsLoading failure := by
  unfold Settings.readDocument at refused
  split at refused
  · cases refused
    exact .inr rfl
  · split at refused
    · cases refused
    · cases refused
      exact .inl ⟨_, rfl⟩
    · cases refused
      exact .inr rfl

theorem place_fails (explicit : Argument Path) : FailsOnly (fun _ => True) IsLoading (Settings.place explicit) := by
  unfold Settings.place
  cases explicit with
  | given path =>
    apply FailsOnly.bind_get
    intro session _
    exact lift_fails fun _ _ => isLoading_ofDisk (.inr rfl)
  | absent => exact .bind_get fun _ _ => .pure _
  | empty => exact .bind_get fun _ _ => .pure _

theorem loadAt_fails (location : Location) (isNeeded : Bool) :
    FailsOnly (fun _ => True) IsLoading (Settings.loadAt location isNeeded) := by
  apply FailsOnly.bind_get
  intro session _
  dsimp only
  split
  · apply FailsOnly.bind (lift_fails fun _ _ => isLoading_ofDisk (.inl ⟨_, rfl⟩))
    intro data
    apply FailsOnly.bind (lift_fails fun _ => readDocument_isLoading)
    intro value
    split
    · exact .throw (.inl ⟨_, rfl⟩)
    · apply FailsOnly.bind (lift_fails fun unshowable _ => isLoading_ofUnshowable unshowable)
      intro _
      apply FailsOnly.bind (lift_fails fun error _ => .inl ⟨error, rfl⟩)
      intro _
      apply FailsOnly.bind (.modify fun _ _ => trivial)
      intro _
      exact lift_fails fun error _ => isLoading_ofSettings error
  · exact .throw_bind _ (.inr rfl)
  · split
    · exact .throw_bind _ (.inl ⟨_, rfl⟩)
    · exact .pure _

theorem load_fails (explicit : Argument Path) : FailsOnly (fun _ => True) IsLoading (Settings.load explicit) :=
  (place_fails explicit).bind fun location => loadAt_fails location _

/-- Whatever the command is to do, it fails as the loading of its settings does. -/
theorem perform_of_unloaded {session after : Session} (onTerminal : Bool)
    (failed : (Settings.load invocation.settings).run session = (.error failure, after)) :
    (perform invocation onTerminal).run session = (.error failure, after) := by
  have unsettled : (settings invocation).run session = (.error failure, after) := by
    unfold settings
    rw [run_bind, failed]
  unfold perform
  cases invocation.task with
  | validate json report failOnMismatch noColor =>
    dsimp only
    rw [validate, run_bind, unsettled]
  | rehash output =>
    dsimp only
    rw [rehash, run_bind, unsettled]
  | transplant donor alsoRehash output =>
    dsimp only
    rw [transplant, run_bind, unsettled]

theorem ending_of_unloaded (onTerminal : Bool)
    (failed : ((Settings.load invocation.settings).run ⟨tree, directory, []⟩).1 = .error failure) :
    (runInvocation invocation onTerminal tree directory).ending =
      match answer? failure with
      | some (_, status) => .exit status
      | none => .escaped failure := by
  rcases ran : (Settings.load invocation.settings).run ⟨tree, directory, []⟩ with ⟨result, after⟩
  rw [ran] at failed
  dsimp only at failed
  subst failed
  unfold runInvocation
  rw [perform_of_unloaded onTerminal ran]
  dsimp only
  cases answer? failure with
  | none => rfl
  | some answer => rfl

/-- Settings are loaded, or a fault of theirs is told and the command ends with status 2, unless they are not judged:
then the failure to load them is one that the program does not expect. -/
theorem settings_answered (invocation : Invocation) (onTerminal : Bool) (tree : FileTree) (directory : Location) :
    let result := ((Settings.load invocation.settings).run ⟨tree, directory, []⟩).1
    let ending := (runInvocation invocation onTerminal tree directory).ending
    (((∃ settings, result = .ok settings) ∨ ∃ error, result = .error (.settings error) ∧ ending = .exit 2) ↔
        ¬ Settings.Unjudged tree directory invocation.settings) ∧
      ((∃ failure, result = .error failure ∧ ending = .escaped failure) ↔
        Settings.Unjudged tree directory invocation.settings) := by
  intro result ending
  have judged : Settings.Judged result ↔ ¬ Settings.Unjudged tree directory invocation.settings :=
    Settings.load_judged_iff invocation.settings ⟨tree, directory, []⟩
  have ends := load_fails invocation.settings ⟨tree, directory, []⟩ trivial
  cases outcome : result with
  | ok settings =>
    rw [outcome] at judged
    have fit := judged.mp (Settings.judged_ok settings)
    refine ⟨iff_of_true (.inl ⟨settings, rfl⟩) fit, iff_of_false ?_ fit⟩
    intro escapes
    obtain ⟨_, failed, _⟩ := escapes
    cases failed
  | error failure =>
    have ended := ending_of_unloaded onTerminal outcome
    rw [outcome] at judged
    obtain ⟨error, rfl⟩ | unexpected := ends.fails failure outcome
    · have fit := judged.mp (Settings.judged_error error)
      refine ⟨iff_of_true (.inr ⟨error, rfl, ended⟩) fit, iff_of_false ?_ fit⟩
      intro escapes
      obtain ⟨_, _, escaped⟩ := escapes
      cases ended.symm.trans escaped
    · rw [unexpected] at ended
      have other : ∀ error, failure ≠ .settings error := by
        intro error same
        rw [same] at unexpected
        cases unexpected
      have unfit := Classical.not_not.mp fun fit => Settings.not_judged other (judged.mpr fit)
      refine ⟨iff_of_false ?_ (not_not_intro unfit), iff_of_true ⟨failure, rfl, ended⟩ unfit⟩
      intro answered
      obtain ⟨settings, loaded⟩ | ⟨error, same, _⟩ := answered
      · cases loaded
      · exact other error (Except.error.inj same)

def garbled : FileTree :=
  FileTree.empty.insert ["codecache.yaml"] (.file 0o644 [0xff])

/-- A settings file that is no text is no fault of the settings, and no command has an answer to it. -/
theorem settings_garbled_unanswered :
    let result := ((Settings.load .absent).run ⟨garbled, [], []⟩).1
    ¬ (∃ settings, result = .ok settings) ∧ ¬ (∃ error, result = .error (.settings error)) ∧
      (run ["validate", "a.jsc"] false garbled []).ending = .escaped .undecodable := by
  have failed : ((Settings.load .absent).run ⟨garbled, [], []⟩).1 = .error .undecodable := by rfl
  intro result
  refine ⟨?_, ?_, by rfl⟩
  · intro loaded
    obtain ⟨settings, same⟩ := loaded
    cases failed.symm.trans same
  · intro refused
    obtain ⟨error, same⟩ := refused
    cases failed.symm.trans same

end Command

end CacheSeal
