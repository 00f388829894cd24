import CacheSeal.Proofs.CacheFileReads
import CacheSeal.Proofs.CacheHistory
import CacheSeal.Proofs.CommandPlans
import CacheSeal.Proofs.LayoutsInEffect

/-! Caches that were repaired, under whatever is done to them in place later. Every command on such a cache works under
the layout of the repair, and either leaves the tree as it was or writes a window that the checksum does not cover. -/

namespace CacheSeal

namespace Cache
open Proofs.CacheHistory (Trace)
variable {layout : Layout} {original current donor : Bytes}

/-- The buffer has the checksum that is due, and differs from the original in that and in its hashes at most. -/
def Sealed (layout : Layout) (original current : Bytes) : Prop :=
  layout.headerSize ≤ original.length ∧ ∃ hashes, Trace original hashes (checksumBytes layout original) current

/-- A rehash seals any buffer that differs from the original in no other bytes. -/
theorem Sealed.of_rehash {hashes checksum : Bytes} {result : Rehash} (trace : Trace original hashes checksum current)
    (rehashed : rehash layout current = .ok result) : Sealed layout original result.data := by
  obtain ⟨fits, written⟩ := rehash_data rehashed
  rw [trace.length] at fits
  rw [written]
  exact ⟨fits, hashes, trace.rehashed layout fits⟩

theorem Sealed.rehash {result : Rehash} (sealed : Sealed layout original current)
    (rehashed : rehash layout current = .ok result) : Sealed layout original result.data := by
  obtain ⟨-, hashes, trace⟩ := sealed
  exact .of_rehash trace rehashed

theorem Sealed.transplant {result : Transplant} (sealed : Sealed layout original current)
    (transplanted : transplant layout current donor = .ok result) : Sealed layout original result.data := by
  obtain ⟨fits, hashes, trace⟩ := sealed
  obtain ⟨-, donorFits, written⟩ := transplant_data transplanted
  rw [written]
  exact ⟨fits, _, trace.transplanted (Layout.fields_fit fits) (Layout.fields_fit donorFits)⟩

/-- The bytes beside the hashes and the checksum are the original ones. -/
theorem Sealed.kept (sealed : Sealed layout original current) :
    current.length = original.length ∧
      ∀ index, index < 4 ∨ 16 ≤ index ∧ index < 24 ∨ 28 ≤ index → current[index]? = original[index]? := by
  obtain ⟨-, hashes, trace⟩ := sealed
  refine ⟨trace.length, ?_⟩
  rintro index (early | middle | late)
  · exact Bytes.getElem?_of_extract_eq trace.magic (Nat.zero_le index) early
  · exact Bytes.getElem?_of_extract_eq trace.counts middle.1 middle.2
  · have byte := congrArg (·[index - 28]?) trace.rest
    simp only [List.getElem?_drop] at byte
    rwa [Nat.add_sub_cancel' late] at byte

theorem Sealed.reports (sealed : Sealed layout original current) : Reports layout current .agrees := by
  obtain ⟨fits, hashes, trace⟩ := sealed
  rw [← trace.length] at fits
  rw [reports_agrees_iff fits, trace.checksum, trace.checksumBytes_eq]

end Cache

namespace Command
open Options Session Proofs.FailingRuns Cache
variable {tree after : FileTree} {directory place : Location} {first invocation : Invocation} {layout : Layout}
  {mode : Nat} {original : Bytes}

/-- Where the cache file of a command is, apart from its settings, and the layout it is worked on under. -/
structure Site (tree : FileTree) (directory : Location) (first : Invocation) (place : Location) (layout : Layout) :
    Prop where
  grounded : tree.Settled directory
  leads : tree.follow directory first.path = .ok place
  apart : Settings.source tree directory first.settings ≠ .ok place
  inEffect : layoutInEffect tree directory first = some layout

theorem Site.refilled (site : Site tree directory first place layout) (refilled : tree.Refilled after place) :
    Site after directory first place layout := by
  refine ⟨refilled.alike.settled site.grounded, ?_, ?_, ?_⟩
  · rw [refilled.alike.follow_eq, site.leads]
  · rw [Settings.source_eq refilled]
    exact site.apart
  · rw [layoutInEffect_refilled refilled ⟨rfl, rfl, rfl, rfl⟩ site.apart, site.inEffect]

theorem Site.layout_alongside {data : Bytes} (site : Site tree directory first place layout)
    (alongside : Alongside first invocation) (file : tree.get? place = some (.file mode data)) :
    layoutInEffect tree directory invocation = some layout := by
  rw [layoutInEffect_refilled (.refl ⟨mode, data, file⟩) alongside site.apart, site.inEffect]

/-- What a command in place writes, it writes to the file to which its path leads. -/
theorem Site.rewritten {data : Bytes} (site : Site tree directory first place layout)
    (stored : directory.map Name.stored = directory) (alongside : Alongside first invocation)
    (inPlace : outputOf invocation.task = .absent) (file : tree.get? place = some (.file mode data))
    (rewritten : Rewritten tree directory invocation after) :
    tree.Refilled after place ∧ ∃ made, Makes layout (tree.readFile directory) first.path invocation.task made ∧
      after.get? place = some (.file mode made) := by
  obtain ⟨under, destination, made, location, target, inEffect, makes, goes, written⟩ := rewritten.under
  rw [site.layout_alongside alongside file] at inEffect
  cases inEffect
  rw [inPlace] at goes
  cases goes with
  | back =>
    rw [alongside.path] at makes written
    -- the path can be looked up, so it was resolved without a circle and to the same place
    obtain ⟨whole, same⟩ := FileTree.resolve_agrees stored site.leads written.resolved
    obtain ⟨here, noLink⟩ := written.whole whole
    have replaced := written.replaced_iff.mpr noLink
    rw [here, ← same] at replaced
    have bits : tree.modeAt place = mode := by
      rw [FileTree.modeAt, file]
      rfl
    have there := replaced.there
    rw [bits] at there
    exact ⟨⟨replaced.elsewhere, ⟨mode, data, file⟩, mode, made, there⟩, made, makes, there⟩

theorem Makes.sealed {read : Path → Except OsError Bytes} {path : Path} {task : Task} {current made : Bytes}
    (makes : Makes layout read path task made) (found : read path = .ok current)
    (sealed : Sealed layout original current) : Sealed layout original made := by
  cases makes with
  | rehash again rehashed =>
    cases found.symm.trans again
    exact sealed.rehash rehashed
  | transplant again _ transplanted =>
    cases found.symm.trans again
    exact sealed.transplant transplanted
  | both again _ transplanted rehashed =>
    cases found.symm.trans again
    exact (sealed.transplant transplanted).rehash rehashed

/-- The cache file at its place is sealed, and has the permission bits and a size that it had. -/
structure Repaired (tree : FileTree) (directory : Location) (first : Invocation) (place : Location) (layout : Layout)
    (mode : Nat) (original : Bytes) : Prop extends Site tree directory first place layout where
  fits : Numeral.isWritten original.length = true
  holds : ∃ current, tree.get? place = some (.file mode current) ∧ Sealed layout original current

/-- A command line for the same cache with the same options, and without an output. -/
def InPlace (first : Invocation) (arguments : List Text) : Prop :=
  ∃ invocation, Request.ofArguments arguments = .run invocation ∧ Alongside first invocation ∧
    outputOf invocation.task = .absent

theorem Repaired.run (repaired : Repaired tree directory first place layout mode original)
    (stored : directory.map Name.stored = directory) {arguments : List Text} (inPlace : InPlace first arguments)
    (onTerminal : Bool) :
    Repaired (run arguments onTerminal tree directory).tree directory first place layout mode original := by
  obtain ⟨current, file, sealed⟩ := repaired.holds
  obtain ⟨invocation, asked, alongside, unnamed⟩ := inPlace
  rw [run_eq asked]
  obtain ⟨reply, after, effect, same⟩ | ⟨-, same⟩ :=
    runInvocation_of_effect (effect_in_place repaired.grounded unnamed onTerminal)
  · rw [same]
    obtain kept | rewritten := effect
    · rwa [kept]
    · obtain ⟨refilled, made, makes, there⟩ := repaired.toSite.rewritten stored alongside unnamed file rewritten
      have found := FileTree.readFile_of_follow repaired.leads file
      exact ⟨repaired.toSite.refilled refilled, repaired.fits, made, there, makes.sealed found sealed⟩
  · rwa [same]

/-- The tree after one command after the other, each with its output on a terminal or not. -/
def runAll (directory : Location) (commands : List (List Text × Bool)) (tree : FileTree) : FileTree :=
  commands.foldl (fun tree command => (run command.1 command.2 tree directory).tree) tree

theorem Repaired.runAll (repaired : Repaired tree directory first place layout mode original)
    (stored : directory.map Name.stored = directory) {commands : List (List Text × Bool)}
    (inPlace : ∀ command ∈ commands, InPlace first command.1) :
    Repaired (runAll directory commands tree) directory first place layout mode original := by
  induction commands generalizing tree with
  | nil => exact repaired
  | cons command rest ih =>
    have next := repaired.run stored (inPlace command List.mem_cons_self) command.2
    exact ih next fun other member => inPlace other (List.mem_cons_of_mem command member)

/-- A rehash that ends well has taken in the cache. -/
theorem taken_of_rehash {output : Argument Path} (task : first.task = .rehash output) {onTerminal : Bool}
    (exits : (runInvocation first onTerminal tree directory).ending = .exit 0) :
    ∃ buffer, readAs tree directory first.path = .ok buffer := by
  obtain ⟨plan, came, -⟩ := planned_of_exits exits
  rw [planned, task] at came
  obtain ⟨_, buffer, _, _, _, taken, -⟩ := plannedRehash_ok_iff.mp came
  exact ⟨buffer, taken⟩

theorem repaired_of_rehash (grounded : tree.Settled directory) (stored : directory.map Name.stored = directory)
    (task : first.task = .rehash .absent)
    (apart : Settings.source tree directory first.settings ≠ tree.follow directory first.path) {onTerminal : Bool}
    (exits : (runInvocation first onTerminal tree directory).ending = .exit 0) :
    ∃ place layout mode original, tree.follow directory first.path = .ok place ∧
      tree.get? place = some (.file mode original) ∧ layoutInEffect tree directory first = some layout ∧
      Repaired (runInvocation first onTerminal tree directory).tree directory first place layout mode original := by
  obtain ⟨original, taken⟩ := taken_of_rehash task exits
  obtain ⟨found, fits⟩ := readAs_ok_iff.mp taken
  obtain ⟨reply, after, ⟨-, rewritten⟩, same⟩ | ⟨failed, -⟩ :=
    runInvocation_of_effect (effect_perform grounded first onTerminal (by rw [task]; rfl))
  · rw [same]
    obtain ⟨layout, _, _, _, _, inEffect, _, _, _⟩ := rewritten.under
    -- what was read tells where the file is, and what was written then is told from there
    obtain ⟨place, mode, leads, file⟩ := FileTree.file_of_readFile found
    rw [leads] at apart
    have site : Site tree directory first place layout := ⟨grounded, leads, apart, inEffect⟩
    obtain ⟨refilled, made, makes, there⟩ :=
      site.rewritten stored ⟨rfl, rfl, rfl, rfl⟩ (by rw [task]; rfl) file rewritten
    rw [task] at makes
    cases makes with
    | rehash again rehashed =>
      cases found.symm.trans again
      exact ⟨place, layout, mode, _, leads, file, inEffect, site.refilled refilled, fits, _, there,
        .of_rehash ⟨rfl, rfl, rfl, rfl, rfl, rfl⟩ rehashed⟩
  · exact absurd exits failed

theorem Repaired.passes (repaired : Repaired tree directory first place layout mode original)
    (alongside : Alongside first invocation) {noColor : Bool} (task : invocation.task = .validate false .absent true noColor)
    (onTerminal : Bool) :
    ∃ current, tree.get? place = some (.file mode current) ∧ Sealed layout original current ∧
      let result := runInvocation invocation onTerminal tree directory
      result.ending = .exit 0 ∧ result.tree = tree ∧
        ∃ style validation text, Cache.validate layout current = .ok validation ∧ validation.verdict = .agrees ∧
          Report.validation style validation = .ok text ∧ result.output = text ++ "\n" := by
  obtain ⟨site, fits, current, file, sealed⟩ := repaired
  obtain ⟨settings, ended, valid⟩ := settles_iff.mpr (site.layout_alongside alongside file)
  rw [← sealed.kept.1] at fits
  have found : tree.readFile directory invocation.path = .ok current := by
    rw [alongside.path]
    exact FileTree.readFile_of_follow site.leads file
  obtain ⟨validation, validated, agrees⟩ := sealed.reports
  have isMatch : validation.isMatch = true := decide_eq_true agrees
  obtain ⟨text, shown⟩ := rendered_ok ⟨settings.wantsColor && onTerminal, invocation.verbose⟩ false
    (some invocation.path.toText) validated fits
  have came : planned tree directory invocation onTerminal = .ok ⟨.none, text, 0⟩ := by
    rw [planned, task]
    refine plannedValidate_ok_iff.mpr ⟨settings, layout, current, validation, _, text, ended, valid,
      readAs_ok_iff.mpr ⟨found, fits⟩, validated, rfl, shown, ?_⟩
    rw [isMatch]
    rfl
  have told : Report.validation _ validation = .ok text := mapError_ok_iff.mp shown
  obtain ⟨ending, output, left⟩ := runInvocation_planned invocation onTerminal tree directory
  rw [came] at ending output left
  exact ⟨current, file, sealed, ending, left, _, validation, text, validated, agrees, told, output⟩

/-- A rehash in place that ends well repairs a cache for good. Whatever commands are run on it in place then, with the
same options, the validation that is to fail on a mismatch passes, and the file has its permission bits, its length and
all bytes but the hashes and the checksum. The settings are in another file, and the working directory is one of proper
names, in the spelling that the system hands out. -/
theorem repair_lasts {repair check : List Text} {last : Invocation} {commands : List (List Text × Bool)} {noColor : Bool}
    (onTerminal checkedOnTerminal : Bool) (grounded : tree.Settled directory)
    (stored : directory.map Name.stored = directory) (asked : Request.ofArguments repair = .run first)
    (task : first.task = .rehash .absent)
    (apart : Settings.source tree directory first.settings ≠ tree.follow directory first.path)
    (exits : (run repair onTerminal tree directory).ending = .exit 0)
    (inPlace : ∀ command ∈ commands, InPlace first command.1) (checked : Request.ofArguments check = .run last)
    (alongside : Alongside first last) (checks : last.task = .validate false .absent true noColor) :
    let final := runAll directory ((repair, onTerminal) :: commands) tree
    let result := run check checkedOnTerminal final directory
    ∃ place mode original current layout,
      tree.follow directory first.path = .ok place ∧ tree.get? place = some (.file mode original) ∧
      layoutInEffect tree directory first = some layout ∧
      final.follow directory first.path = .ok place ∧ final.get? place = some (.file mode current) ∧
      current.length = original.length ∧
      (∀ index, index < 4 ∨ 16 ≤ index ∧ index < 24 ∨ 28 ≤ index → current[index]? = original[index]?) ∧
      result.ending = .exit 0 ∧ result.tree = final ∧
      ∃ style validation text, Cache.validate layout current = .ok validation ∧ validation.verdict = .agrees ∧
        Report.validation style validation = .ok text ∧ result.output = text ++ "\n" := by
  intro final result
  rw [run_eq asked] at exits
  obtain ⟨place, layout, mode, original, leads, file, inEffect, repaired⟩ :=
    repaired_of_rehash grounded stored task apart exits
  rw [← run_eq asked] at repaired
  have lasting : Repaired final directory first place layout mode original := repaired.runAll stored inPlace
  obtain ⟨current, there, sealed, ended, same, passed⟩ := lasting.passes alongside checks checkedOnTerminal
  rw [← run_eq checked] at ended same passed
  obtain ⟨sameLength, kept⟩ := sealed.kept
  exact ⟨place, mode, original, current, layout, leads, file, inEffect, lasting.leads, there, sameLength, kept, ended,
    same, passed⟩

/-- A transplant from the cache itself, one from a donor that is missing, and a look at the outcome. -/
def visits : List (List Text × Bool) :=
  [(["transplant", "b.jsc", "-d", "a.jsc"], false), (["transplant", "b.jsc", "-d", "gone.jsc", "--rehash"], false),
    (["validate", "b.jsc"], true)]

theorem repair_lasts_through_visits :
    let final := runAll [] ((["rehash", "b.jsc"], false) :: visits) shelf
    let result := run ["validate", "b.jsc", "--fail-on-mismatch"] true final []
    result.ending = .exit 0 ∧ ∃ current, final.get? ["a.jsc"] = some (.file 0o644 current) ∧ current.length = 32 := by
  have asked : Request.ofArguments ["rehash", "b.jsc"] =
      .run ⟨Path.ofText "b.jsc", .absent, .absent, .absent, false, .rehash .absent⟩ := by rfl
  have checked : Request.ofArguments ["validate", "b.jsc", "--fail-on-mismatch"] =
      .run ⟨Path.ofText "b.jsc", .absent, .absent, .absent, false, .validate false .absent true false⟩ := by rfl
  have leads : shelf.follow [] (Path.ofText "b.jsc") = .ok ["a.jsc"] := by rfl
  have apart : Settings.source shelf [] .absent ≠ shelf.follow [] (Path.ofText "b.jsc") := by
    have source : Settings.source shelf [] .absent = .ok ["codecache.yaml"] := by rfl
    rw [source, leads]
    exact nofun
  have exits : (run ["rehash", "b.jsc"] false shelf []).ending = .exit 0 := by rfl
  have inPlace : ∀ command ∈ visits,
      InPlace ⟨Path.ofText "b.jsc", .absent, .absent, .absent, false, .rehash .absent⟩ command.1 := by
    intro command member
    simp only [visits, List.mem_cons, List.not_mem_nil, or_false] at member
    obtain rfl | rfl | rfl := member <;> exact ⟨_, rfl, ⟨rfl, rfl, rfl, rfl⟩, rfl⟩
  obtain ⟨place, mode, original, current, layout, found, file, -, -, there, sameLength, -, ended, -⟩ :=
    repair_lasts false true .root rfl asked rfl apart exits inPlace checked ⟨rfl, rfl, rfl, rfl⟩ rfl
  cases leads.symm.trans found
  have old : shelf.get? ["a.jsc"] = some (.file 0o644 (List.replicate 32 1)) := by rfl
  cases old.symm.trans file
  exact ⟨ended, current, there, sameLength⟩

end Command

end CacheSeal
