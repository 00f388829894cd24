import CacheSeal.Proofs.CacheFileWrites
import CacheSeal.Settings.Load

/-! Runs that only read. Whatever they end in, the tree and the working directory stay, so what is read later is read
from the same files; and what comes first is not undone by what fails then. -/

namespace CacheSeal.Session
open Proofs.FailingRuns
variable {α β ε : Type} {tree : FileTree} {directory : Location} {notices : List Notice}

/-- A run that fails leaves the tree alone, and one that ends ends as it should. -/
def Effect (run : Run α) (before : Session) (post : α → Session → Prop) : Prop :=
  match run.run before with
  | (.error _, after) => after.tree = before.tree
  | (.ok value, after) => post value after

theorem Effect.weaken {run : Run α} {before : Session} {post weaker : α → Session → Prop}
    (effect : Effect run before post) (implies : ∀ value after, post value after → weaker value after) :
    Effect run before weaker := by
  unfold Effect at effect ⊢
  rcases ran : run.run before with ⟨result, after⟩
  rw [ran] at effect
  cases result with
  | error failure => exact effect
  | ok value => exact implies value after effect

/-- A run that changes no file, and a fact about its outcome. -/
def Reads (tree : FileTree) (directory : Location) (notices : List Notice) (run : Run α) (fact : α → Prop) : Prop :=
  Effect run ⟨tree, directory, notices⟩ fun value after => after.tree = tree ∧ after.directory = directory ∧ fact value

namespace Reads

theorem bind {run : Run α} {next : α → Run β} {fact : α → Prop} {post : β → Session → Prop}
    (first : Reads tree directory notices run fact)
    (rest : ∀ value notices, fact value → Effect (next value) ⟨tree, directory, notices⟩ post) :
    Effect (run >>= next) ⟨tree, directory, notices⟩ post := by
  unfold Reads Effect at first
  unfold Effect
  rw [run_bind]
  rcases ran : run.run ⟨tree, directory, notices⟩ with ⟨result, after⟩
  rw [ran] at first
  cases result with
  | error failure => exact first
  | ok value =>
    obtain ⟨after, here, told⟩ := after
    obtain ⟨rfl, rfl, holds⟩ := first
    exact rest value told holds

/-- What a run has come to is a fact about its outcome. -/
theorem observed {run : Run α} {fact : α → Prop} (reads : Reads tree directory notices run fact) :
    Reads tree directory notices run fun value =>
      ∃ after, run.run ⟨tree, directory, notices⟩ = (.ok value, after) := by
  unfold Reads Effect at reads ⊢
  rcases ran : run.run ⟨tree, directory, notices⟩ with ⟨result, after⟩
  rw [ran] at reads
  cases result with
  | error failure => exact reads
  | ok value => exact ⟨reads.1, reads.2.1, after, rfl⟩

/-- A run that has ended well has only told more. -/
theorem run_ok {run : Run α} {fact : α → Prop} (reads : Reads tree directory notices run fact) {value : α}
    (ended : (run.run ⟨tree, directory, notices⟩).1 = .ok value) :
    ∃ told, run.run ⟨tree, directory, notices⟩ = (.ok value, ⟨tree, directory, told⟩) := by
  unfold Reads Effect at reads
  rcases ran : run.run ⟨tree, directory, notices⟩ with ⟨result, after⟩
  rw [ran] at reads ended
  dsimp only at ended
  subst ended
  obtain ⟨last, here, told⟩ := after
  obtain ⟨rfl, rfl, -⟩ := reads
  exact ⟨told, rfl⟩

theorem weaken {run : Run α} {fact weaker : α → Prop} (reads : Reads tree directory notices run fact)
    (implies : ∀ value, fact value → weaker value) : Reads tree directory notices run weaker :=
  Effect.weaken reads fun value _ ⟨sameTree, sameDirectory, holds⟩ => ⟨sameTree, sameDirectory, implies value holds⟩

theorem pure {value : α} {fact : α → Prop} (holds : fact value) :
    Reads tree directory notices (Pure.pure value) fact :=
  ⟨rfl, rfl, holds⟩

theorem throw (failure : Failure) (fact : α → Prop) :
    Reads tree directory notices (MonadExcept.throw failure) fact :=
  rfl

theorem get : Reads tree directory notices (MonadState.get : Run Session) fun session =>
    session.tree = tree ∧ session.directory = directory :=
  ⟨rfl, rfl, rfl, rfl⟩

theorem tell (level : Level) (text : Text) : Reads tree directory notices (tell level text) fun _ => True :=
  ⟨rfl, rfl, trivial⟩

theorem lift (result : Except ε α) (failure : ε → Failure) :
    Reads tree directory notices (lift result failure) fun value => result = .ok value := by
  cases result with
  | error error => rfl
  | ok value => exact ⟨rfl, rfl, rfl⟩

theorem locate (path : Path) :
    Reads tree directory notices (locate path) fun location => tree.resolve directory path = .ok location := by
  apply bind get
  rintro session notices ⟨rfl, rfl⟩
  exact lift _ _

end Reads

end CacheSeal.Session

namespace CacheSeal
open Session
variable {tree : FileTree} {directory : Location} {notices : List Notice}

theorem CacheFile.reads_read (path : Path) :
    Reads tree directory notices (CacheFile.read path) fun data => tree.readFile directory path = .ok data := by
  apply Reads.bind .get
  rintro session notices ⟨rfl, rfl⟩
  apply Reads.bind (.lift _ _)
  intro data notices found
  apply Reads.bind (.tell _ _)
  intro _ notices _
  exact Reads.pure found

theorem Settings.reads_place (explicit : Argument Path) :
    Reads tree directory notices (Settings.place explicit) fun _ => True := by
  unfold Settings.place
  cases explicit with
  | given path => exact (Reads.locate path).weaken fun _ _ => trivial
  | absent => exact Reads.bind .get fun _ _ _ => Reads.pure trivial
  | empty => exact Reads.bind .get fun _ _ _ => Reads.pure trivial

theorem Settings.reads_loadAt (location : Location) (isNeeded : Bool) :
    Reads tree directory notices (Settings.loadAt location isNeeded) fun _ => True := by
  apply Reads.bind .get
  rintro session notices ⟨rfl, rfl⟩
  dsimp only
  split
  · apply Reads.bind (.lift _ _)
    intro data notices _
    apply Reads.bind (.lift _ _)
    intro value notices _
    split
    · exact Reads.throw _ _
    · apply Reads.bind (.lift _ _)
      intro _ notices _
      apply Reads.bind (.lift _ _)
      intro _ notices _
      apply Reads.bind (.tell _ _)
      intro _ notices _
      exact (Reads.lift _ _).weaken fun _ _ => trivial
  · exact Reads.throw _ _
  · split
    · exact Reads.throw _ _
    · exact Reads.pure trivial

theorem Settings.reads_load (explicit : Argument Path) :
    Reads tree directory notices (Settings.load explicit) fun _ => True := by
  apply Reads.bind (reads_place explicit)
  intro location notices _
  exact reads_loadAt location _

end CacheSeal
