import CacheSeal.CacheFile
import CacheSeal.Options.Invocation
import CacheSeal.Report.Record
import CacheSeal.ReportFile
import CacheSeal.Settings.Load

/-!
The commands. Each settles the settings first, then reads, works in memory on what it has read, writes, and prints
last; so a command that fails has printed nothing, and a file that is read and written at once is read as it was.
-/

namespace CacheSeal.Command
open Options Session

/-- An option with an empty value sets an empty list, which is no width and no order. -/
def overriding : Argument Value → Option Value
  | .absent => none
  | .empty => some (.ofItems [])
  | .given value => some value

/-- The path of an option that is there; an empty one cannot be followed. -/
def named : Argument Path → Run Path
  | .given path => pure path
  | _ => throw .noPath

/-- Where a result goes: to the output, or if there is none to the cache file itself. -/
def destination (invocation : Invocation) (output : Argument Path) : Run Path :=
  if output.isAbsent then pure invocation.path else named output

/-- The settings in effect: those of the file, with those of the command line in their place. -/
def settings (invocation : Invocation) : Run Settings := do
  let loaded ← Settings.load invocation.settings
  let overrides : Settings.Overrides := {
    pointerWidth := overriding (invocation.width.map fun width => .int width.bits)
    byteOrder := overriding (invocation.order.map fun order => .str (.ofString order.name))
    color := match invocation.task with
      | .validate _ _ _ true => some (.bool false)
      | _ => none }
  lift (loaded.override overrides) .ofSettings

/-- A file as a whole. One whose size has too many digits to be shown is not taken in; there is room for none of that
size, so that all sizes that a command meets can be told. -/
def takeIn (path : Path) : Run Bytes := do
  let data ← CacheFile.read path
  if Numeral.isWritten data.length then return data else throw .hugeNumber

def tellAll (notices : List String) : Run Unit :=
  notices.forM fun notice => tell .debug notice

/-- What a command has to say, and its exit status. -/
structure Reply where
  output : Text
  status : Nat
deriving DecidableEq, Repr

def validate (invocation : Invocation) (onTerminal json : Bool) (report : Argument Path)
    (failOnMismatch : Bool) : Run Reply := do
  let settings ← settings invocation
  let buffer ← takeIn invocation.path
  let layout ← lift settings.layout .layout
  let validation ← lift (Cache.validate layout buffer) .truncated
  tellAll validation.notices
  let record := Report.record (some invocation.path.toText) validation
  if !report.isAbsent then
    let path ← named report
    ReportFile.write path record
    tell .info ("Report written to " ++ path.toText)
  let style : Report.Style := ⟨settings.wantsColor && onTerminal, invocation.verbose⟩
  let output ←
    if json then lift (record.print.map Text.ofString) .ofObstacle
    else lift (Report.validation style validation) .ofUntold
  return ⟨output, if failOnMismatch && !validation.isMatch then 1 else 0⟩

def rehashText (invocation : Invocation) (result : Cache.Rehash) : Text :=
  Report.rehash invocation.verbose result.previous result.new

def rehash (invocation : Invocation) (output : Argument Path) : Run Reply := do
  let settings ← settings invocation
  let buffer ← takeIn invocation.path
  let layout ← lift settings.layout .layout
  let result ← lift (Cache.rehash layout buffer) .truncated
  tellAll result.notices
  let destination ← destination invocation output
  CacheFile.write destination result.data
  if !result.isChanged then tell .debug ("Checksum already valid, rewrote " ++ destination.toText ++ " unchanged")
  return ⟨rehashText invocation result, 0⟩

/-- A transplant, and a rehash of its outcome if that is asked for: the new content, and what is printed. -/
def transplanted (invocation : Invocation) (layout : Layout) (buffer donor : Bytes) (alsoRehash : Bool) :
    Run (Bytes × Text) := do
  let result ← lift (Cache.transplant layout buffer donor) .truncated
  tellAll result.notices
  let text ← lift (Report.transplant (Report.names result.previous) (Report.names result.transplanted)) .unknownName
  if alsoRehash then
    let rehashed ← lift (Cache.rehash layout result.data) .truncated
    tellAll rehashed.notices
    return (rehashed.data, Report.joinLines [text, rehashText invocation rehashed])
  else return (result.data, text)

def transplant (invocation : Invocation) (donor : Argument Path) (alsoRehash : Bool) (output : Argument Path) :
    Run Reply := do
  let settings ← settings invocation
  let layout ← lift settings.layout .layout
  let buffer ← takeIn invocation.path
  let donorBuffer ← takeIn (← named donor)
  let (data, text) ← transplanted invocation layout buffer donorBuffer alsoRehash
  CacheFile.write (← destination invocation output) data
  return ⟨text, 0⟩

def perform (invocation : Invocation) (onTerminal : Bool) : Run Reply :=
  match invocation.task with
  | .validate json report failOnMismatch _ => validate invocation onTerminal json report failOnMismatch
  | .rehash output => rehash invocation output
  | .transplant donor alsoRehash output => transplant invocation donor alsoRehash output

/-- How a run of the program ends: with a status, or by a failure that it has no answer to. -/
inductive Ending where
  | exit (status : Nat)
  | escaped (failure : Failure)

structure Result where
  ending : Ending
  output : Text
  errors : Text
  tree : FileTree

/-- What is said of a failure, and the status it ends with; some failures are not expected at all. -/
def answer? : Failure → Option (Text × Nat)
  | .settings error => some ("Configuration error: " ++ error.message, 2)
  | .layout error => some ("Configuration error: " ++ error.message, 2)
  | .truncated error => some ("Error: " ++ error.message, 1)
  | .access error => some ("Error: " ++ error.message, 1)
  | _ => none

def shown (verbose : Bool) (notices : List Notice) : Text :=
  let visible := notices.filter fun notice => verbose || notice.level = .info
  visible.flatMap fun notice => notice.line ++ "\n"

def runInvocation (invocation : Invocation) (onTerminal : Bool) (tree : FileTree) (directory : Location) :
    Result :=
  let (result, session) := (perform invocation onTerminal).run ⟨tree, directory, []⟩
  let told := shown invocation.verbose session.notices
  match result with
  | .ok reply => ⟨.exit reply.status, reply.output ++ "\n", told, session.tree⟩
  | .error failure =>
    match answer? failure with
    | some (text, status) => ⟨.exit status, [], told ++ text ++ "\n", session.tree⟩
    | none => ⟨.escaped failure, [], told, session.tree⟩

/-- The version comes with an installation of the program and not from its sources; this stands for any. -/
def versionLine : String := programName ++ " 0.1.0"

/-- The program has its help laid out for it. This text stands in its place, with wording of its own. -/
def helpText (program : String) : String :=
  joinHelp [
    s!"{program}: check or renew the checksum stored in a code-cache header",
    "",
    "  validate PATH     compare the checksum with the payload",
    "  rehash PATH       renew the checksum",
    "  transplant PATH   copy version, source and flag hashes from a donor cache"]
where
  joinHelp (lines : List String) : String := String.join (lines.map (· ++ "\n"))

/-- Runs the program with its arguments on a file tree. -/
def run (arguments : List Text) (onTerminal : Bool) (tree : FileTree) (directory : Location) : Result :=
  match Request.ofArguments arguments with
  | .run invocation => runInvocation invocation onTerminal tree directory
  | .help program => ⟨.exit 0, helpText program, [], tree⟩
  | .version => ⟨.exit 0, versionLine ++ "\n", [], tree⟩
  | .refused program usage => ⟨.exit 2, [], program ++ ": error: " ++ usage.message ++ "\n", tree⟩

end CacheSeal.Command
