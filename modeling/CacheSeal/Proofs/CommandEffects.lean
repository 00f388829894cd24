import CacheSeal.Command
import CacheSeal.Proofs.SessionEffects

/-! What the commands that write a cache file do to the tree. Everything that can fail is read before anything is
written, so a command that does not succeed leaves the tree as it was and has printed nothing. -/

namespace CacheSeal.Command
open Options Session Proofs.FailingRuns
variable {tree : FileTree} {directory : Location} {notices : List Notice} {invocation : Invocation}

theorem reads_settings (invocation : Invocation) :
    Reads tree directory notices (settings invocation) fun _ => True := by
  apply Reads.bind (Settings.reads_load invocation.settings)
  intro loaded notices _
  exact (Reads.lift _ _).weaken fun _ _ => trivial

theorem reads_takeIn (path : Path) : Reads tree directory notices (takeIn path) fun data =>
    tree.readFile directory path = .ok data ∧ Numeral.isWritten data.length = true := by
  apply Reads.bind (CacheFile.reads_read path)
  intro data notices found
  split
  next fits => exact Reads.pure ⟨found, fits⟩
  next => exact Reads.throw _ _

theorem reads_named (path : Argument Path) :
    Reads tree directory notices (named path) fun target => path = .given target := by
  cases path with
  | given path => exact Reads.pure rfl
  | absent => exact Reads.throw _ _
  | empty => exact Reads.throw _ _

/-- Where a result goes: to the path of the cache file, or to that of the output if there is one. -/
inductive Goes (path : Path) : Argument Path → Path → Prop where
  | back : Goes path .absent path
  | out (output : Path) : Goes path (.given output) output

theorem reads_destination (invocation : Invocation) (output : Argument Path) :
    Reads tree directory notices (destination invocation output) (Goes invocation.path output) := by
  cases output with
  | absent => exact Reads.pure .back
  | empty => exact Reads.throw _ _
  | given path => exact Reads.pure (.out path)

theorem run_tellAll (told : List String) (session : Session) :
    ∃ notices, (tellAll told).run session = (.ok (), { session with notices }) := by
  induction told generalizing session with
  | nil => exact ⟨session.notices, rfl⟩
  | cons text rest ih =>
    obtain ⟨notices, ran⟩ := ih { session with notices := session.notices ++ [⟨.debug, text⟩] }
    exact ⟨notices, ran⟩

theorem reads_tellAll (told : List String) : Reads tree directory notices (tellAll told) fun _ => True := by
  obtain ⟨later, ran⟩ := run_tellAll told ⟨tree, directory, notices⟩
  unfold Reads Effect
  rw [ran]
  exact ⟨rfl, rfl, trivial⟩

/-- The content that a task makes of what its files hold. -/
inductive Makes (layout : Layout) (read : Path → Except OsError Bytes) (path : Path) : Task → Bytes → Prop where
  | rehash {output : Argument Path} {buffer : Bytes} {result : Cache.Rehash} (found : read path = .ok buffer)
      (rehashed : Cache.rehash layout buffer = .ok result) : Makes layout read path (.rehash output) result.data
  | transplant {output : Argument Path} {donor : Path} {buffer donated : Bytes} {result : Cache.Transplant}
      (found : read path = .ok buffer) (lent : read donor = .ok donated)
      (transplanted : Cache.transplant layout buffer donated = .ok result) :
      Makes layout read path (.transplant (.given donor) false output) result.data
  | both {output : Argument Path} {donor : Path} {buffer donated : Bytes} {result : Cache.Transplant}
      {rehashed : Cache.Rehash} (found : read path = .ok buffer) (lent : read donor = .ok donated)
      (transplanted : Cache.transplant layout buffer donated = .ok result)
      (sealed : Cache.rehash layout result.data = .ok rehashed) :
      Makes layout read path (.transplant (.given donor) true output) rehashed.data

theorem reads_transplanted (invocation : Invocation) (layout : Layout) (buffer donated : Bytes) (alsoRehash : Bool) :
    Reads tree directory notices (transplanted invocation layout buffer donated alsoRehash) fun made =>
      ∃ result, Cache.transplant layout buffer donated = .ok result ∧
        if alsoRehash then ∃ rehashed, Cache.rehash layout result.data = .ok rehashed ∧ made.1 = rehashed.data
        else made.1 = result.data := by
  apply Reads.bind (.lift _ _)
  intro result notices transplanted
  apply Reads.bind (reads_tellAll _)
  intro _ notices _
  apply Reads.bind (.lift _ _)
  intro text notices _
  cases alsoRehash with
  | false => exact Reads.pure ⟨result, transplanted, rfl⟩
  | true =>
    apply Reads.bind (.lift _ _)
    intro rehashed notices sealed
    apply Reads.bind (reads_tellAll _)
    intro _ notices _
    exact Reads.pure ⟨result, transplanted, rehashed, sealed, rfl⟩

/-- What is left to do behind a write cannot fail. -/
theorem effect_write (grounded : tree.Settled directory) (path : Path) (data : Bytes) {next : Run Reply}
    (ends : ∀ session, ∃ reply told, next.run session = (.ok reply, { session with notices := told }) ∧ reply.status = 0) :
    Effect (CacheFile.write path data >>= fun _ => next) ⟨tree, directory, notices⟩ fun reply after =>
      reply.status = 0 ∧ ∃ location target, tree.Written directory path data after.tree location target := by
  unfold Effect
  rw [run_bind]
  obtain ⟨failure, failed⟩ | ⟨location, above, name, told, resolved, place, short, free, written⟩ :=
    CacheFile.write_run path data ⟨tree, directory, notices⟩
  · rw [failed]
  · obtain ⟨reply, later, ended, exits⟩ := ends ⟨tree.insert (above ++ [Name.stored name])
      (.file (tree.bitsAt location) data), directory, told⟩
    rw [written]
    dsimp only
    rw [ended]
    exact ⟨exits, location, _, .of_place grounded data resolved place short free⟩

/-- What the option for an output says. -/
def outputOf : Task → Argument Path
  | .validate _ report _ _ => report
  | .rehash output => output
  | .transplant _ _ output => output

def isRewriting : Task → Bool
  | .validate _ _ _ _ => false
  | .rehash _ => true
  | .transplant _ _ _ => true

/-- The command has written what it is to make of the files as they were, under the settings in effect. -/
def Rewritten (tree : FileTree) (directory : Location) (invocation : Invocation) (after : FileTree) : Prop :=
  ∃ inEffect told layout destination data location target,
    (settings invocation).run ⟨tree, directory, []⟩ = (.ok inEffect, told) ∧ inEffect.layout = .ok layout ∧
    Makes layout (tree.readFile directory) invocation.path invocation.task data ∧
    Goes invocation.path (outputOf invocation.task) destination ∧
    tree.Written directory destination data after location target

theorem effect_rehash (grounded : tree.Settled directory) (invocation : Invocation) (output : Argument Path)
    (task : invocation.task = .rehash output) :
    Effect (rehash invocation output) ⟨tree, directory, []⟩ fun reply after =>
      reply.status = 0 ∧ Rewritten tree directory invocation after.tree := by
  unfold rehash
  apply Reads.bind (reads_settings invocation).observed
  rintro inEffect notices ⟨told, settled⟩
  apply Reads.bind (reads_takeIn _)
  rintro buffer notices ⟨found, -⟩
  apply Reads.bind (.lift _ _)
  intro layout notices valid
  apply Reads.bind (.lift _ _)
  intro result notices rehashed
  apply Reads.bind (reads_tellAll _)
  intro _ notices _
  apply Reads.bind (reads_destination _ _)
  intro destination notices goes
  apply (effect_write grounded destination result.data ?_).weaken
  · rintro reply after ⟨exits, location, target, written⟩
    refine ⟨exits, inEffect, told, layout, destination, result.data, location, target, settled, valid, ?_, ?_, written⟩
    · rw [task]
      exact .rehash found rehashed
    · rw [task]
      exact goes
  · intro session
    dsimp only
    split
    · exact ⟨_, _, rfl, rfl⟩
    · exact ⟨_, _, rfl, rfl⟩

theorem effect_transplant (grounded : tree.Settled directory) (invocation : Invocation) (donor : Argument Path)
    (alsoRehash : Bool) (output : Argument Path) (task : invocation.task = .transplant donor alsoRehash output) :
    Effect (transplant invocation donor alsoRehash output) ⟨tree, directory, []⟩ fun reply after =>
      reply.status = 0 ∧ Rewritten tree directory invocation after.tree := by
  unfold transplant
  apply Reads.bind (reads_settings invocation).observed
  rintro inEffect notices ⟨told, settled⟩
  apply Reads.bind (.lift _ _)
  intro layout notices valid
  apply Reads.bind (reads_takeIn _)
  rintro buffer notices ⟨found, -⟩
  apply Reads.bind (reads_named _)
  intro lender notices given
  apply Reads.bind (reads_takeIn _)
  rintro donated notices ⟨lent, -⟩
  apply Reads.bind (reads_transplanted _ _ _ _ _)
  rintro ⟨data, text⟩ notices ⟨result, transplanted, made⟩
  apply Reads.bind (reads_destination _ _)
  intro destination notices goes
  apply (effect_write grounded destination data ?_).weaken
  · rintro reply after ⟨exits, location, target, written⟩
    refine ⟨exits, inEffect, told, layout, destination, data, location, target, settled, valid, ?_, ?_, written⟩
    · rw [task, given]
      cases alsoRehash with
      | false =>
        obtain rfl : data = result.data := made
        exact .transplant found lent transplanted
      | true =>
        obtain ⟨rehashed, sealed, rfl⟩ : ∃ rehashed, Cache.rehash layout result.data = .ok rehashed ∧
            data = rehashed.data := made
        exact .both found lent transplanted sealed
    · rw [task]
      exact goes
  · intro session
    exact ⟨_, _, rfl, rfl⟩

theorem effect_perform (grounded : tree.Settled directory) (invocation : Invocation) (onTerminal : Bool)
    (rewriting : isRewriting invocation.task = true) :
    Effect (perform invocation onTerminal) ⟨tree, directory, []⟩ fun reply after =>
      reply.status = 0 ∧ Rewritten tree directory invocation after.tree := by
  unfold perform
  cases task : invocation.task with
  | validate json report failOnMismatch noColor =>
    rw [task] at rewriting
    cases rewriting
  | rehash output => exact effect_rehash grounded invocation output task
  | transplant donor alsoRehash output => exact effect_transplant grounded invocation donor alsoRehash output task

/-- A validation without a report file only reads. -/
theorem reads_validate (invocation : Invocation) (onTerminal json failOnMismatch : Bool) :
    Reads tree directory [] (validate invocation onTerminal json .absent failOnMismatch) fun _ => True := by
  unfold validate
  apply Reads.bind (reads_settings invocation)
  intro inEffect notices _
  apply Reads.bind (reads_takeIn _)
  intro buffer notices _
  apply Reads.bind (.lift _ _)
  intro layout notices _
  apply Reads.bind (.lift _ _)
  intro validation notices _
  apply Reads.bind (reads_tellAll _)
  intro _ notices _
  cases json with
  | false =>
    apply Reads.bind (.lift _ _)
    intro output notices _
    exact Reads.pure trivial
  | true =>
    apply Reads.bind (.lift _ _)
    intro output notices _
    exact Reads.pure trivial

/-- A command without an output leaves the tree alone, unless it has rewritten the cache. -/
theorem effect_in_place (grounded : tree.Settled directory) (inPlace : outputOf invocation.task = .absent)
    (onTerminal : Bool) :
    Effect (perform invocation onTerminal) ⟨tree, directory, []⟩ fun _ after =>
      after.tree = tree ∨ Rewritten tree directory invocation after.tree := by
  cases rewriting : isRewriting invocation.task with
  | true =>
    apply (effect_perform grounded invocation onTerminal rewriting).weaken
    intro _ after effect
    exact .inr effect.2
  | false =>
    unfold perform
    cases task : invocation.task with
    | validate json report failOnMismatch noColor =>
      rw [task] at inPlace
      obtain rfl : report = .absent := inPlace
      apply Effect.weaken (reads_validate invocation onTerminal json failOnMismatch)
      intro _ after effect
      exact .inl effect.1
    | rehash output =>
      rw [task] at rewriting
      cases rewriting
    | transplant donor alsoRehash output =>
      rw [task] at rewriting
      cases rewriting

theorem answer?_status {failure : Failure} {text : Text} {status : Nat} (answered : answer? failure = some (text, status)) :
    status = 1 ∨ status = 2 := by
  cases failure <;> cases answered
  · exact .inr rfl
  · exact .inr rfl
  · exact .inl rfl
  · exact .inl rfl

/-- What is known of the effect of a command is known of its run; and a failure does not end with status 0. -/
theorem runInvocation_of_effect {onTerminal : Bool} {post : Reply → Session → Prop}
    (effect : Effect (perform invocation onTerminal) ⟨tree, directory, []⟩ post) :
    let result := runInvocation invocation onTerminal tree directory
    (∃ reply after, post reply after ∧ result.tree = after.tree) ∨ result.ending ≠ .exit 0 ∧ result.tree = tree := by
  intro result
  unfold Effect at effect
  rcases ran : (perform invocation onTerminal).run ⟨tree, directory, []⟩ with ⟨outcome, session⟩
  rw [ran] at effect
  simp only [result, runInvocation, ran]
  cases outcome with
  | ok reply => exact .inl ⟨reply, session, effect, rfl⟩
  | error failure =>
    right
    cases answered : answer? failure with
    | none =>
      simp only [answered]
      exact ⟨nofun, effect⟩
    | some answer =>
      obtain ⟨text, status⟩ := answer
      simp only [answered]
      refine ⟨?_, effect⟩
      obtain rfl | rfl := answer?_status answered <;> exact nofun

theorem run_eq {arguments : List Text} (asked : Request.ofArguments arguments = .run invocation) (onTerminal : Bool)
    (tree : FileTree) (directory : Location) :
    run arguments onTerminal tree directory = runInvocation invocation onTerminal tree directory := by
  simp only [run, asked]

/-- A command that is to rewrite a cache has done so, or it does not end well and has changed and printed nothing. -/
theorem run_rewriting {arguments : List Text} {invocation : Invocation} (onTerminal : Bool)
    (asked : Request.ofArguments arguments = .run invocation) (rewriting : isRewriting invocation.task = true)
    (grounded : tree.Settled directory) :
    let result := run arguments onTerminal tree directory
    (result.ending = .exit 0 ∧ Rewritten tree directory invocation result.tree) ∨
      ((result.ending = .exit 1 ∨ result.ending = .exit 2 ∨ ∃ failure, result.ending = .escaped failure) ∧
        result.tree = tree ∧ result.output = []) := by
  have effect := effect_perform grounded invocation onTerminal rewriting
  intro result
  have same : result = runInvocation invocation onTerminal tree directory := by
    simp only [result, run, asked]
  rw [same, runInvocation]
  unfold Effect at effect
  rcases ran : (perform invocation onTerminal).run ⟨tree, directory, []⟩ with ⟨outcome, after⟩
  rw [ran] at effect
  cases outcome with
  | ok reply =>
    obtain ⟨exits, rewritten⟩ := effect
    exact .inl ⟨congrArg Ending.exit exits, rewritten⟩
  | error failure =>
    right
    cases answered : answer? failure with
    | none =>
      simp only [answered]
      exact ⟨.inr (.inr ⟨failure, rfl⟩), effect, trivial⟩
    | some answer =>
      obtain ⟨text, status⟩ := answer
      simp only [answered]
      obtain rfl | rfl := answer?_status answered
      · exact ⟨.inl rfl, effect, trivial⟩
      · exact ⟨.inr (.inl rfl), effect, trivial⟩

/-- A cache under two names. -/
def shelf : FileTree :=
  (FileTree.empty.insert ["a.jsc"] (.file 0o644 (List.replicate 32 1))).insert ["b.jsc"] (.link "a.jsc")

theorem run_rewriting_own_donor :
    ∃ invocation, Request.ofArguments ["transplant", "b.jsc", "-d", "a.jsc", "--rehash"] = .run invocation ∧
      isRewriting invocation.task = true ∧ shelf.Settled [] ∧
      let result := run ["transplant", "b.jsc", "-d", "a.jsc", "--rehash"] false shelf []
      result.ending = .exit 0 ∧ Rewritten shelf [] invocation result.tree := by
  obtain ⟨invocation, asked⟩ : ∃ invocation,
      Request.ofArguments ["transplant", "b.jsc", "-d", "a.jsc", "--rehash"] = .run invocation := ⟨_, rfl⟩
  have rewriting : isRewriting invocation.task = true := by
    cases asked
    rfl
  have ends : (run ["transplant", "b.jsc", "-d", "a.jsc", "--rehash"] false shelf []).ending = .exit 0 := by rfl
  refine ⟨invocation, asked, rewriting, .root, ends, ?_⟩
  obtain ⟨-, rewritten⟩ | ⟨failed, -, -⟩ := run_rewriting false asked rewriting (.root : shelf.Settled [])
  · exact rewritten
  · rw [ends] at failed
    obtain first | second | ⟨_, escaped⟩ := failed
    · cases first
    · cases second
    · cases escaped

/-- A cache beside a circle of links. -/
def besideCircle : FileTree :=
  CacheFile.circle.insert ["a.jsc"] (.file 0o644 (List.replicate 32 0))

/-- Where the output lies behind a circle of links, the link there is replaced and the file that it leads to is not
written. -/
theorem run_rewriting_behind_circle :
    let result := run ["rehash", "a.jsc", "-o", "loop/../foo"] false besideCircle []
    result.ending = .exit 0 ∧ besideCircle.IsLink ["foo"] ∧ ¬ result.tree.IsLink ["foo"] ∧
      result.tree.get? ["bar"] = besideCircle.get? ["bar"] ∧
      ¬ ∃ target data, besideCircle.Replaced target data result.tree := by
  have ends : (run ["rehash", "a.jsc", "-o", "loop/../foo"] false besideCircle []).ending = .exit 0 := by rfl
  have lost : (run ["rehash", "a.jsc", "-o", "loop/../foo"] false besideCircle []).tree.get? ["foo"] =
      some (.file 0o644 (List.replicate 24 0 ++ 1 :: List.replicate 7 0)) := by decide +kernel
  have bar : (run ["rehash", "a.jsc", "-o", "loop/../foo"] false besideCircle []).tree.get? ["bar"] =
      besideCircle.get? ["bar"] := by decide +kernel
  have link : besideCircle.get? ["foo"] = some (.link "bar") := by decide +kernel
  refine ⟨ends, ⟨_, link⟩, ?_, bar, ?_⟩
  · rintro ⟨text, kept⟩
    rw [lost] at kept
    cases kept
  · rintro ⟨target, data, replaced⟩
    have kept := replaced.links _ _ link
    rw [lost] at kept
    cases kept

end CacheSeal.Command
