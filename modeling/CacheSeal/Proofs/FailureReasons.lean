import CacheSeal.Proofs.FileReplacement

/-! Why the file system refuses. A path with a part that has no bytes, or none that a name can have, is not asked for;
of all others it is the system that refuses, whatever the tree. Only directories that are missing within each other are
given up for another reason, if they are too many. -/

namespace CacheSeal
open Proofs.FailingRuns

/-- The system refuses for this reason; it has a number for it. -/
def OsError.OfSystem (error : OsError) : Prop :=
  error.number ≠ 0

instance : DecidablePred OsError.OfSystem :=
  fun error => inferInstanceAs (Decidable (error.number ≠ 0))

/-- All parts of the path have bytes that a name can have. -/
def Path.Nameable (path : Path) : Prop :=
  ∀ part ∈ path.parts, partFault? part = none

instance (path : Path) : Decidable path.Nameable :=
  inferInstanceAs (Decidable (∀ part ∈ path.parts, Path.partFault? part = none))

namespace Path
variable {path : Path} {error : OsError}

theorem partFault?_eq_none_iff {part : Text} :
    partFault? part = none ↔ hasLoneSurrogate part = false ∧ hasNul part = false := by
  unfold partFault?
  cases hasLoneSurrogate part <;> cases hasNul part <;> simp

theorem mapM_pointBytes?_isSome_iff {part : Text} :
    (part.mapM Name.pointBytes?).isSome = true ↔ ∀ point ∈ part, (Name.pointBytes? point).isSome = true := by
  induction part with
  | nil => simp
  | cons point rest ih =>
    rw [List.mapM_cons, List.forall_mem_cons, ← ih]
    cases Name.pointBytes? point with
    | none => simp
    | some bytes => cases rest.mapM Name.pointBytes? <;> simp

theorem partFault?_eq_none_iff_points {part : Text} :
    partFault? part = none ↔
      ∀ point ∈ part, (Name.pointBytes? point).isSome = true ∧ point ≠ CodePoint.ofChar '\x00' := by
  have bytes : (Name.bytes? part).isSome = (part.mapM Name.pointBytes?).isSome := by
    unfold Name.bytes?
    cases part.mapM Name.pointBytes? <;> rfl
  rw [partFault?_eq_none_iff, hasLoneSurrogate, hasNul, Option.isNone_eq_false_iff, bytes,
    mapM_pointBytes?_isSome_iff, List.contains_eq_mem, decide_eq_false_iff_not]
  constructor
  · intro plain point member
    obtain ⟨named, clear⟩ := plain
    exact ⟨named point member, fun nul => clear (nul ▸ member)⟩
  · intro plain
    exact ⟨fun point member => (plain point member).1, fun nul => (plain _ nul).2 rfl⟩

theorem check_error (refused : path.check = .error error) :
    error = .loneSurrogate ∨ error = .nulInPath ∨ error = .nameTooLong := by
  unfold check at refused
  split at refused
  · cases refused
    exact .inl rfl
  split at refused
  · cases refused
    exact .inr (.inl rfl)
  split at refused
  · cases refused
    exact .inr (.inr rfl)
  · cases refused

/-- Paths that cannot be named are not asked for, and no others. -/
theorem nameable_iff : path.Nameable ↔ ∀ error, path.check = .error error → error.OfSystem := by
  unfold check
  constructor
  · intro nameable error refused
    rw [if_neg, if_neg] at refused
    · split at refused
      · cases refused
        decide
      · cases refused
    · rw [List.any_eq_true]
      intro found
      obtain ⟨part, member, nul⟩ := found
      rw [(partFault?_eq_none_iff.mp (nameable part member)).2] at nul
      cases nul
    · rw [List.any_eq_true]
      intro found
      obtain ⟨part, member, lone⟩ := found
      rw [(partFault?_eq_none_iff.mp (nameable part member)).1] at lone
      cases lone
  · intro asked part member
    rw [partFault?_eq_none_iff]
    constructor
    · cases lone : hasLoneSurrogate part with
      | false => rfl
      | true =>
        rw [if_pos (List.any_eq_true.mpr ⟨part, member, lone⟩)] at asked
        exact absurd rfl (asked _ rfl)
    · cases nul : hasNul part with
      | false => rfl
      | true =>
        split at asked
        · exact absurd rfl (asked _ rfl)
        · rw [if_pos (List.any_eq_true.mpr ⟨part, member, nul⟩)] at asked
          exact absurd rfl (asked _ rfl)

theorem Nameable.parent (nameable : path.Nameable) : path.parent.Nameable :=
  fun part member => nameable part (List.dropLast_subset path.parts member)

theorem mem_climb {location : Location} {parts : List Text} {part : Text} (member : part ∈ climb location parts) :
    part ∈ location ∨ part ∈ parts := by
  induction parts generalizing location with
  | nil => exact .inl member
  | cons first rest ih =>
    rw [climb] at member
    split at member
    · exact (ih member).imp_right (List.mem_cons_of_mem first)
    split at member
    · exact (ih member).imp (fun inside => List.dropLast_subset location inside) (List.mem_cons_of_mem first)
    · rcases ih member with inside | later
      · rcases List.mem_append.mp inside with old | new
        · exact .inl old
        · exact .inr (List.mem_singleton.mp new ▸ List.mem_cons_self)
      · exact .inr (List.mem_cons_of_mem first later)

theorem Nameable.literal {here : Location} (nameable : path.Nameable) (hereNameable : here.toPath.Nameable) :
    (path.literal here).toPath.Nameable := by
  intro part member
  rcases mem_climb member with start | later
  · unfold base at start
    split at start
    · cases start
    · exact hereNameable part start
  · exact nameable part later

end Path

namespace FileTree
variable {tree : FileTree} {here : Location} {path : Path} {error : OsError}

theorem advance_error {parts : List Text} (refused : tree.advance here parts = .error error) : error.OfSystem := by
  induction parts generalizing here with
  | nil => cases refused
  | cons part rest ih =>
    rw [advance] at refused
    split at refused
    · exact ih refused
    split at refused
    · exact ih refused
    split at refused
    · cases refused
      decide
    dsimp only at refused
    split at refused
    · split at refused <;> cases refused
      decide
    · exact ih refused
    · split at refused <;> cases refused
      decide
    · cases refused

theorem walk_error {links : Nat} {parts : List Text} (refused : tree.walk links here parts = .error error) :
    error.OfSystem := by
  induction links generalizing here parts with
  | zero =>
    rw [walk] at refused
    split at refused
    next stops =>
      cases refused
      exact advance_error stops
    next => cases refused
    next =>
      cases refused
      decide
  | succ links ih =>
    rw [walk] at refused
    split at refused
    next stops =>
      cases refused
      exact advance_error stops
    next => cases refused
    next => exact ih refused

theorem follow_error (nameable : path.Nameable) (refused : tree.follow here path = .error error) : error.OfSystem := by
  unfold follow at refused
  cases checked : path.check with
  | error fault =>
    rw [checked] at refused
    cases refused
    exact Path.nameable_iff.mp nameable _ checked
  | ok _ =>
    rw [checked] at refused
    exact walk_error refused

theorem readFile_of_check (refused : path.check = .error error) : tree.readFile here path = .error error := by
  apply readFile_of_unfollowed
  unfold follow
  rw [refused]
  rfl

theorem resolve_nameable {location : Location} (resolved : tree.resolve here path = .ok location) :
    location.toPath.Nameable := by
  rw [Path.nameable_iff]
  intro error refused
  -- the location is asked for in the end, and what cannot be named is refused then
  have unfollowed : tree.follow [] location.toPath = .error error := by
    unfold follow
    rw [refused]
    rfl
  unfold resolve at resolved
  cases ran : (tree.settle maxNesting [] (path.base here) path.parts).run [] with
  | error _ =>
    rw [ran] at resolved
    cases resolved
  | ok outcome =>
    obtain ⟨⟨found, isWhole⟩, known⟩ := outcome
    rw [ran] at resolved
    simp only [bind, Except.bind] at resolved
    have same : found = location := by
      split at resolved <;> cases resolved
      rfl
    rw [same, unfollowed] at resolved
    obtain rfl | rfl | rfl := Path.check_error refused
    · cases resolved
    · cases resolved
    · decide

theorem readFile_error (nameable : path.Nameable) (refused : tree.readFile here path = .error error) :
    error.OfSystem := by
  unfold readFile find at refused
  cases found : tree.follow here path with
  | error fault =>
    rw [found] at refused
    cases refused
    exact follow_error nameable found
  | ok location =>
    rw [found] at refused
    simp only [bind, Except.bind] at refused
    split at refused
    next stands =>
      split at stands
      · cases refused
        cases stands
      · cases refused
        cases stands
        decide
    next stands =>
      split at refused
      · cases refused
      · cases refused
        decide

end FileTree

namespace Disk
variable {α : Type} {here : Location} {path : Path} {allowed : OsError → Prop}

/-- The calls fail for such reasons only, whatever the tree is. -/
abbrev FailsFor (allowed : OsError → Prop) (disk : Disk α) : Prop :=
  FailsOnly (fun _ => True) allowed disk

theorem ask_fails {answer : FileTree → Except OsError α}
    (refusals : ∀ tree error, answer tree = .error error → error.OfSystem) : FailsFor OsError.OfSystem (ask answer) := by
  apply FailsOnly.bind_get
  intro tree _
  split
  · exact .pure _
  next refused => exact .throw (refusals tree _ refused)

theorem reach_fails (nameable : path.Nameable) : FailsFor OsError.OfSystem (reach here path) := by
  apply FailsOnly.bind (ask_fails fun _ => Path.nameable_iff.mp nameable)
  intro _
  exact ask_fails fun tree _ => FileTree.follow_error nameable.parent

theorem placeIn_fails {unnamed : OsError} (system : unnamed.OfSystem) (above : Location) (path : Path) :
    FailsFor OsError.OfSystem (placeIn above path unnamed) := by
  apply FailsOnly.bind_get
  intro tree _
  split
  · exact .throw (by decide)
  · split
    · exact .throw system
    · exact .pure _
  · exact .throw system
  · exact .throw (by decide)

theorem place_fails (nameable : path.Nameable) {unnamed : OsError} (system : unnamed.OfSystem) :
    FailsFor OsError.OfSystem (place here path unnamed) :=
  (reach_fails nameable).bind fun above => placeIn_fails system above path

theorem checkName_fails (path : Path) : FailsFor OsError.OfSystem (checkName path) := by
  unfold checkName
  split
  · exact .throw (by decide)
  · exact .pure _

theorem makeDirectoryIn_fails (above : Location) (path : Path) : FailsFor OsError.OfSystem (makeDirectoryIn above path) := by
  apply FailsOnly.bind (placeIn_fails (by decide) above path)
  intro location
  apply FailsOnly.bind (checkName_fails path)
  intro _
  apply FailsOnly.bind_get
  intro tree _
  split
  · exact .throw_bind _ (by decide)
  · exact .bind (.set trivial) fun _ => .pure _

theorem makeDirectory_fails (nameable : path.Nameable) : FailsFor OsError.OfSystem (makeDirectory here path) :=
  (reach_fails nameable).bind fun above => makeDirectoryIn_fails above path

theorem createFile_fails (nameable : path.Nameable) (mode : Nat) (data : Bytes) :
    FailsFor OsError.OfSystem (createFile here path mode data) := by
  apply FailsOnly.bind (place_fails nameable (by decide))
  intro location
  apply FailsOnly.bind_get
  intro tree _
  split
  · exact .throw_bind _ (by decide)
  · exact .bind (.set trivial) fun _ => .pure _

theorem fill_fails (location : Location) (data : Bytes) : FailsFor allowed (fill location data) :=
  .modify fun _ _ => trivial

theorem setMode_fails (location : Location) (mode : Nat) : FailsFor allowed (setMode location mode) :=
  .modify fun _ _ => trivial

theorem remove_fails (location : Location) : FailsFor allowed (remove location) :=
  .modify fun _ _ => trivial

theorem rename_fails (nameable : path.Nameable) (source : Location) :
    FailsFor OsError.OfSystem (rename source here path) := by
  apply FailsOnly.bind (place_fails nameable (by decide))
  intro location
  apply FailsOnly.bind (checkName_fails path)
  intro _
  apply FailsOnly.bind_get
  intro tree _
  split
  · exact .throw (by decide)
  · exact .throw (by decide)
  · exact .set trivial

theorem mem_lastDigits {letters : Hex.Letters} {width value : Nat} {c : Char}
    (member : c ∈ Hex.lastDigits letters width value) : ∃ place < 16, c = Hex.digit letters place := by
  induction width generalizing value with
  | zero => cases member
  | succ width ih =>
    obtain front | last := List.mem_append.mp member
    · exact ih front
    · exact ⟨value % 16, Nat.mod_lt value (by decide), List.mem_singleton.mp last⟩

theorem stagedName_nameable (attempt : Nat) {ending : String} (plain : Path.partFault? ending = none) :
    Path.partFault? (stagedName attempt ending) = none := by
  have start : Path.partFault? (".tmp-" : Text) = none := by decide
  have digit : ∀ place < 16, Path.partFault? [CodePoint.ofChar (Hex.digit .lower place)] = none := by decide
  simp only [Path.partFault?_eq_none_iff_points] at *
  intro point member
  rcases List.mem_append.mp member with front | back
  · rcases List.mem_append.mp front with front | middle
    · exact start point front
    · rw [Text.ofString, String.toList_ofList, Text.ofChars, List.mem_map] at middle
      obtain ⟨c, among, rfl⟩ := middle
      obtain ⟨place, small, rfl⟩ := mem_lastDigits among
      exact digit place small _ (List.mem_singleton.mpr rfl)
  · exact plain point back

theorem stageWithin_fails {directory : Path} (nameable : directory.Nameable) {ending : String}
    (plain : Path.partFault? ending = none) (attempts : Nat) :
    FailsFor OsError.OfSystem (stageWithin here directory ending attempts) := by
  induction attempts with
  | zero => exact .throw (by decide)
  | succ attempts ih =>
    refine FailsOnly.tryCatch (createFile_fails ?_ stagedMode []) ?_
    · intro part member
      rcases List.mem_append.mp member with old | fresh
      · exact nameable part old
      · rw [List.mem_singleton.mp fresh]
        exact stagedName_nameable attempts plain
    · intro error system
      split
      · exact ih
      · exact .throw system

theorem stage_fails {directory : Path} (nameable : directory.Nameable) {ending : String}
    (plain : Path.partFault? ending = none) : FailsFor OsError.OfSystem (stage here directory ending) :=
  stageWithin_fails nameable plain maxAttempts

theorem replaceFile_fails {location : Location} (nameable : location.toPath.Nameable) (data : Bytes) :
    FailsFor OsError.OfSystem (replaceFile location data) := by
  apply FailsOnly.bind (stage_fails nameable.parent (by decide))
  intro staged
  refine FailsOnly.tryCatch (?_ : FailsFor OsError.OfSystem _) ?_
  · apply FailsOnly.bind (fill_fails staged data)
    intro _
    apply FailsOnly.bind_get
    intro tree _
    split
    · apply FailsOnly.bind (setMode_fails staged _)
      intro _
      exact rename_fails nameable staged
    · exact rename_fails nameable staged
  · intro error system
    exact (remove_fails staged).bind fun _ => .throw system

theorem ensureDirectory_fails {make otherwise : Disk Location} (made : FailsFor OsError.OfSystem make)
    (system : ∀ error, OsError.OfSystem error → allowed error) (missing : FailsFor allowed otherwise) :
    FailsFor allowed (ensureDirectory here path make otherwise) := by
  apply FailsOnly.tryCatch made
  intro error refused
  split
  · exact missing
  · apply FailsOnly.bind_get
    intro tree _
    split
    · split
      · exact .pure _
      · exact .throw (system error refused)
    · exact .throw (system _ (by decide))
    · exact .throw (system error refused)

/-- Directories within each other are made as far as they are missing, unless too many are. -/
theorem makeUpwards_fails (anchor : Path.Anchor) {depth : Nat} {parts : List Text}
    (nameable : ∀ part ∈ parts, Path.partFault? part = none)
    (system : ∀ error, OsError.OfSystem error → allowed error) (deep : parts.length < depth ∨ allowed .tooDeep) :
    FailsFor allowed (makeUpwards here anchor depth parts) := by
  induction depth generalizing parts with
  | zero => exact .throw (deep.resolve_left (Nat.not_lt_zero _))
  | succ depth ih =>
    cases parts with
    | nil =>
      have root : Path.Nameable ⟨anchor, []⟩ := by
        intro part member
        cases member
      exact ensureDirectory_fails (makeDirectory_fails root) system (.throw (system _ (by decide)))
    | cons part above =>
      have whole : Path.Nameable ⟨anchor, (part :: above).reverse⟩ :=
        fun other member => nameable other (List.mem_reverse.mp member)
      apply ensureDirectory_fails (makeDirectory_fails whole) system
      apply FailsOnly.bind
      · apply ih fun other member => nameable other (List.mem_cons_of_mem part member)
        exact deep.imp_left Nat.lt_of_succ_lt_succ
      · intro directory
        exact ensureDirectory_fails (makeDirectoryIn_fails directory _) system (.throw (system _ (by decide)))

/-- Too many directories are missing within each other above the path. -/
def GivesUp (tree : FileTree) (here : Location) (path : Path) : Prop :=
  ((makeParents here path).run tree).1 = .error .tooDeep

theorem makeParents_fails (nameable : path.Nameable) (system : ∀ error, OsError.OfSystem error → allowed error)
    (deep : path.parts.length ≤ maxNesting ∨ allowed .tooDeep) : FailsFor allowed (makeParents here path) := by
  apply FailsOnly.discard
  apply makeUpwards_fails path.anchor ?_ system
  · refine deep.imp_left fun bound => ?_
    rw [List.length_reverse, Path.parent, List.length_dropLast]
    unfold maxNesting at *
    omega
  · intro part member
    exact nameable.parent part (List.mem_reverse.mp member)

theorem not_givesUp {tree : FileTree} (nameable : path.Nameable) (near : path.parts.length ≤ maxNesting) :
    ¬ GivesUp tree here path := by
  intro givesUp
  exact absurd rfl ((makeParents_fails nameable (fun _ => id) (.inl near) tree trivial).fails _ givesUp)

end Disk

end CacheSeal
