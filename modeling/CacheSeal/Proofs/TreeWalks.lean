import CacheSeal.FileTree.Stage
import CacheSeal.Proofs.TreeEntries

/-! Walks through a tree that is being changed. A file in a place where nothing stood turns no walk that arrived, and a
walk to a directory goes on from there as if it had started there. -/

namespace CacheSeal.FileTree
variable {tree : FileTree} {fresh : Location} (mode : Nat) (data : Bytes)

/-- A new file can only stop a walk that would have found nothing there. -/
private theorem advance_insert (absent : tree.get? fresh = none) (here : Location) (parts : List Text) :
    (tree.insert fresh (.file mode data)).advance here parts = tree.advance here parts ∨
      (tree.insert fresh (.file mode data)).advance here parts = .error .notDirectory ∧
        tree.advance here parts = .error .noEntry := by
  induction parts generalizing here with
  | nil => exact Or.inl rfl
  | cons part rest ih =>
    simp only [advance]
    split
    · exact ih here
    · split
      · exact ih here.dropLast
      · split
        · exact Or.inl rfl
        · by_cases same : here ++ [Name.stored part] = fresh
          · rw [same, get?_insert_self (ne_root_of_absent absent), absent]
            cases rest with
            | nil => exact Or.inl rfl
            | cons next rest => exact Or.inr ⟨rfl, rfl⟩
          · rw [get?_insert_of_ne same]
            cases tree.get? (here ++ [Name.stored part]) with
            | none => exact Or.inl rfl
            | some entry =>
              cases entry with
              | directory => exact ih _
              | file _ _ => exact Or.inl rfl
              | link _ => exact Or.inl rfl

private theorem walk_insert (absent : tree.get? fresh = none) (links : Nat) (here : Location) (parts : List Text) :
    (tree.insert fresh (.file mode data)).walk links here parts = tree.walk links here parts ∨
      (tree.insert fresh (.file mode data)).walk links here parts = .error .notDirectory ∧
        tree.walk links here parts = .error .noEntry := by
  induction links generalizing here parts with
  | zero =>
    unfold walk
    obtain same | ⟨stopped, missing⟩ := advance_insert mode data absent here parts
    · exact Or.inl (by rw [same])
    · exact Or.inr ⟨by rw [stopped], by rw [missing]⟩
  | succ links ih =>
    unfold walk
    obtain same | ⟨stopped, missing⟩ := advance_insert mode data absent here parts
    · rw [same]
      cases tree.advance here parts with
      | error _ => exact Or.inl rfl
      | ok halt =>
        cases halt with
        | reached _ => exact Or.inl rfl
        | link around target rest => exact ih _ _
    · exact Or.inr ⟨by rw [stopped], by rw [missing]⟩

/-- What a new file changes is only how a path fails that did not lead anywhere before. -/
theorem follow_insert (absent : tree.get? fresh = none) (here : Location) (path : Path) :
    (tree.insert fresh (.file mode data)).follow here path = tree.follow here path ∨
      (tree.insert fresh (.file mode data)).follow here path = .error .notDirectory ∧
        tree.follow here path = .error .noEntry := by
  unfold follow
  cases path.check with
  | error error => exact .inl rfl
  | ok _ => exact walk_insert mode data absent maxLinks (path.base here) path.parts

theorem follow_insert_ok_iff (absent : tree.get? fresh = none) {here location : Location} {path : Path} :
    (tree.insert fresh (.file mode data)).follow here path = .ok location ↔ tree.follow here path = .ok location := by
  obtain same | ⟨stopped, missing⟩ := follow_insert mode data absent here path
  · rw [same]
  · rw [stopped, missing]
    constructor <;> intro arrives <;> cases arrives

/-- The permission bits that a file gets at a location: those of what the location leads to, or those of a new file. -/
def bitsAt (tree : FileTree) (location : Location) : Nat :=
  match tree.find [] location.toPath with
  | .ok entry => entry.mode
  | .error _ => Disk.stagedMode

/-- A new file has the bits that a place without one would get. -/
theorem bitsAt_insert (absent : tree.get? fresh = none) (location : Location) :
    (tree.insert fresh (.file Disk.stagedMode data)).bitsAt location = tree.bitsAt location := by
  unfold bitsAt find
  obtain same | ⟨stopped, missing⟩ := follow_insert Disk.stagedMode data absent [] location.toPath
  · rw [same]
    cases tree.follow [] location.toPath with
    | error _ => rfl
    | ok reached =>
      by_cases here : reached = fresh
      · subst here
        simp only [bind, Except.bind, absent, get?_insert_self (ne_root_of_absent absent)]
        rfl
      · simp only [bind, Except.bind, get?_insert_of_ne here]
  · rw [stopped, missing]
    rfl

/-- Where one more part leads from a halt. -/
def Halt.further (tree : FileTree) (name : Text) : Halt → Except OsError Halt
  | .reached above => tree.advance above [name]
  | .link around target rest => .ok (.link around target (rest ++ [name]))

private theorem advance_append {here : Location} {parts : List Text} {halt : Halt} (name : Text)
    (halts : tree.advance here parts = .ok halt)
    (directory : ∀ above, halt = .reached above → tree.get? above = some .directory) :
    tree.advance here (parts ++ [name]) = halt.further tree name := by
  induction parts generalizing here with
  | nil =>
    cases halts
    rfl
  | cons part rest ih =>
    rw [advance] at halts
    rw [List.cons_append, advance]
    by_cases void : Path.isVoid part = true
    · rw [if_pos void] at halts ⊢
      exact ih halts
    by_cases upwards : Path.isUpwards part = true
    · rw [if_neg void, if_pos upwards] at halts ⊢
      exact ih halts
    by_cases long : Path.isLongName part = true
    · rw [if_neg void, if_neg upwards, if_pos long] at halts
      cases halts
    · rw [if_neg void, if_neg upwards, if_neg long] at halts ⊢
      dsimp only at halts ⊢
      cases found : tree.get? (here ++ [Name.stored part]) with
      | none =>
        rw [found] at halts
        cases rest with
        | nil =>
          cases halts
          rw [directory _ rfl] at found
          cases found
        | cons next rest => cases halts
      | some entry =>
        rw [found] at halts
        cases entry with
        | directory => exact ih halts
        | file _ _ =>
          cases rest with
          | nil =>
            cases halts
            rw [directory _ rfl] at found
            cases found
          | cons next rest => cases halts
        | link _ =>
          cases halts
          rfl

/-- A walk arrives along its parts, or over the first link that it meets. -/
theorem walk_ok_iff {links : Nat} {here location : Location} {parts : List Text} :
    tree.walk links here parts = .ok location ↔
      tree.advance here parts = .ok (.reached location) ∨
        ∃ fewer around target rest, links = fewer + 1 ∧ tree.advance here parts = .ok (.link around target rest) ∧
          tree.walk fewer (linkBase around target) (Path.pieces target ++ rest) = .ok location := by
  rw [walk]
  cases tree.advance here parts with
  | error _ => simp only [reduceCtorEq, false_and, and_false, exists_false, or_false]
  | ok halt =>
    cases halt with
    | reached reached =>
      simp only [Except.ok.injEq, Halt.reached.injEq, reduceCtorEq, false_and, and_false, exists_false, or_false]
    | link around target rest =>
      cases links with
      | zero =>
        constructor
        · intro arrives
          cases arrives
        · rintro (reached | ⟨_, _, _, _, ⟨⟩, _⟩)
          cases reached
      | succ fewer =>
        constructor
        · intro arrives
          exact .inr ⟨fewer, around, target, rest, rfl, rfl, arrives⟩
        · rintro (reached | ⟨_, _, _, _, ⟨⟩, ⟨⟩, arrives⟩)
          · cases reached
          · exact arrives

theorem follow_ok_iff {here location : Location} {path : Path} :
    tree.follow here path = .ok location ↔
      path.check = .ok () ∧ tree.walk maxLinks (path.base here) path.parts = .ok location := by
  unfold follow
  cases path.check with
  | error _ => simp only [bind, Except.bind, reduceCtorEq, false_and]
  | ok _ => simp only [bind, Except.bind, true_and]

theorem readFile_of_follow {here location : Location} {path : Path} {mode : Nat} {data : Bytes}
    (found : tree.follow here path = .ok location) (file : tree.get? location = some (.file mode data)) :
    tree.readFile here path = .ok data := by
  simp only [readFile, find, found, file, bind, Except.bind]
  rfl

theorem file_of_readFile {here : Location} {path : Path} {data : Bytes} (found : tree.readFile here path = .ok data) :
    ∃ location mode, tree.follow here path = .ok location ∧ tree.get? location = some (.file mode data) := by
  unfold readFile find at found
  cases leads : tree.follow here path with
  | error error =>
    rw [leads] at found
    cases found
  | ok location =>
    rw [leads] at found
    simp only [bind, Except.bind] at found
    cases stands : tree.get? location with
    | none =>
      rw [stands] at found
      cases found
    | some entry =>
      rw [stands] at found
      cases entry with
      | file mode content =>
        cases found
        exact ⟨location, mode, rfl, stands⟩
      | directory => cases found
      | link text => cases found

theorem readFile_of_unfollowed {here : Location} {path : Path} {error : OsError}
    (refused : tree.follow here path = .error error) : tree.readFile here path = .error error := by
  simp only [readFile, find, refused, bind, Except.bind]

/-- A walk to a directory goes on from there, if the next part is none that leads on. -/
theorem walk_append {links : Nat} {here above location : Location} {parts : List Text} {name : Text}
    (arrives : tree.walk links here parts = .ok above) (directory : tree.get? above = some .directory)
    (ends : tree.advance above [name] = .ok (.reached location)) :
    tree.walk links here (parts ++ [name]) = .ok location := by
  induction links generalizing here parts with
  | zero =>
    obtain halts | ⟨_, _, _, _, ⟨⟩, _⟩ := walk_ok_iff.mp arrives
    exact walk_ok_iff.mpr (.inl ((advance_append name halts fun | _, rfl => directory).trans ends))
  | succ links ih =>
    obtain halts | ⟨_, around, target, rest, ⟨⟩, halts, further⟩ := walk_ok_iff.mp arrives
    · exact walk_ok_iff.mpr (.inl ((advance_append name halts fun | _, rfl => directory).trans ends))
    · have onwards := ih further
      rw [List.append_assoc] at onwards
      exact walk_ok_iff.mpr (.inr ⟨links, around, target, rest ++ [name], rfl,
        advance_append name halts (by rintro _ ⟨⟩), onwards⟩)

end CacheSeal.FileTree
