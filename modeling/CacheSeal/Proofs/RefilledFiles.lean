import CacheSeal.Proofs.PathAgreement

/-! Trees that differ only in what files hold and in their permission bits. No lookup and no resolution of a path asks
for either, so all end alike in both trees, also where they fail; and what is read elsewhere is the same. -/

namespace CacheSeal

/-- In one place the same stands as in the other, or a file in both. -/
def Entry.Alike (first second : Option Entry) : Prop :=
  second = first ∨ (∃ mode data, first = some (.file mode data)) ∧ ∃ mode data, second = some (.file mode data)

namespace FileTree

def Alike (before after : FileTree) : Prop :=
  ∀ location, Entry.Alike (before.get? location) (after.get? location)

namespace Alike
variable {before after : FileTree} {here location : Location} {path : Path}

theorem refl (tree : FileTree) : tree.Alike tree :=
  fun _ => .inl rfl

theorem symm (alike : before.Alike after) : after.Alike before := by
  intro location
  obtain same | ⟨first, second⟩ := alike location
  · exact .inl same.symm
  · exact .inr ⟨second, first⟩

theorem link_iff (alike : before.Alike after) {text : Text} :
    after.get? location = some (.link text) ↔ before.get? location = some (.link text) := by
  obtain same | ⟨⟨_, _, old⟩, _, _, new⟩ := alike location
  · rw [same]
  · rw [old, new]
    exact iff_of_false nofun nofun

theorem present (alike : before.Alike after) {old : Entry} (stands : before.get? location = some old) :
    ∃ new, after.get? location = some new ∧ Entry.Alike (some old) (some new) := by
  have entries := alike location
  rw [stands] at entries
  obtain same | ⟨file, mode, data, new⟩ := entries
  · exact ⟨old, same, .inl rfl⟩
  · exact ⟨_, new, .inr ⟨file, mode, data, rfl⟩⟩

theorem absent (alike : before.Alike after) (missing : before.get? location = none) : after.get? location = none := by
  obtain same | ⟨⟨_, _, old⟩, -⟩ := alike location
  · exact same.trans missing
  · cases missing.symm.trans old

theorem insert (alike : before.Alike after) {old new : Entry} (entries : Entry.Alike (some old) (some new)) :
    (before.insert location old).Alike (after.insert location new) := by
  intro place
  by_cases root : place = []
  · rw [root]
    exact .inl rfl
  by_cases here : place = location
  · subst here
    rw [get?_insert_self root, get?_insert_self root]
    exact entries
  · rw [get?_insert_of_ne here, get?_insert_of_ne here]
    exact alike place

theorem erase (alike : before.Alike after) : (before.erase location).Alike (after.erase location) := by
  intro place
  by_cases root : place = []
  · rw [root]
    exact .inl rfl
  by_cases here : place = location
  · subst here
    rw [get?_erase_self root, get?_erase_self root]
    exact .inl rfl
  · rw [get?_erase_of_ne here, get?_erase_of_ne here]
    exact alike place

theorem advance_eq (alike : before.Alike after) (here : Location) (parts : List Text) :
    after.advance here parts = before.advance here parts := by
  induction parts generalizing here with
  | nil => rfl
  | cons part rest ih =>
    simp only [advance, ih]
    obtain same | ⟨⟨_, _, old⟩, _, _, new⟩ := alike (here ++ [Name.stored part])
    · rw [same]
    · rw [old, new]

theorem walk_eq (alike : before.Alike after) (links : Nat) (here : Location) (parts : List Text) :
    after.walk links here parts = before.walk links here parts := by
  induction links generalizing here parts with
  | zero => rw [walk, walk, alike.advance_eq]
  | succ links ih =>
    unfold walk
    simp only [alike.advance_eq, ih]

theorem follow_eq (alike : before.Alike after) (here : Location) (path : Path) :
    after.follow here path = before.follow here path := by
  simp only [follow, alike.walk_eq]

theorem settleParts_eq (alike : before.Alike after)
    (enter : Location → Location → List Text → Resolving (Location × Bool)) (here : Location) (parts : List Text) :
    after.settleParts enter here parts = before.settleParts enter here parts := by
  induction parts generalizing here with
  | nil => rfl
  | cons part rest ih =>
    simp only [settleParts, ih]
    obtain same | ⟨⟨_, _, old⟩, _, _, new⟩ := alike ((here ++ [part]).map Name.stored)
    · rw [same]
    · rw [old, new]
      cases Path.partFault? part <;> rfl

theorem settle_eq (alike : before.Alike after) (depth : Nat) (openLinks : List Location) (here : Location)
    (parts : List Text) : after.settle depth openLinks here parts = before.settle depth openLinks here parts := by
  induction depth generalizing openLinks here parts with
  | zero => rfl
  | succ depth ih => simp only [settle, alike.settleParts_eq, ih]

theorem resolve_eq (alike : before.Alike after) (here : Location) (path : Path) :
    after.resolve here path = before.resolve here path := by
  simp only [resolve, alike.settle_eq, alike.follow_eq]

theorem find (alike : before.Alike after) (here : Location) (path : Path) :
    (∃ error, before.find here path = .error error ∧ after.find here path = .error error) ∨
      ∃ old new, before.find here path = .ok old ∧ after.find here path = .ok new ∧
        Entry.Alike (some old) (some new) := by
  simp only [FileTree.find, alike.follow_eq]
  cases before.follow here path with
  | error error => exact .inl ⟨error, rfl, rfl⟩
  | ok reached =>
    simp only [bind, Except.bind]
    obtain same | ⟨⟨_, _, old⟩, _, _, new⟩ := alike reached
    · rw [same]
      cases before.get? reached with
      | none => exact .inl ⟨_, rfl, rfl⟩
      | some entry => exact .inr ⟨entry, entry, rfl, rfl, .inl rfl⟩
    · rw [old, new]
      exact .inr ⟨_, _, rfl, rfl, .inr ⟨⟨_, _, rfl⟩, _, _, rfl⟩⟩

theorem settled (alike : before.Alike after) (settled : before.Settled here) : after.Settled here :=
  ⟨settled.proper, fun front start text link => settled.unlinked front start text (alike.link_iff.mp link)⟩

end Alike

/-- At one place both trees have a file, and elsewhere they have the same. -/
structure Refilled (before after : FileTree) (place : Location) : Prop where
  elsewhere : ∀ other, other ≠ place → after.get? other = before.get? other
  fileBefore : ∃ mode data, before.get? place = some (.file mode data)
  fileAfter : ∃ mode data, after.get? place = some (.file mode data)

namespace Refilled
variable {before after : FileTree} {place here : Location} {path : Path}

theorem refl (file : ∃ mode data, before.get? place = some (.file mode data)) : before.Refilled before place :=
  ⟨fun _ _ => rfl, file, file⟩

theorem of_insert {mode : Nat} {old : Bytes} (file : before.get? place = some (.file mode old)) (data : Bytes) :
    before.Refilled (before.insert place (.file mode data)) place := by
  have put : before.Put place (.file mode data) _ := put_insert (ne_root_of_file file)
  exact ⟨put.elsewhere, ⟨mode, old, file⟩, mode, data, put.there⟩

theorem alike (refilled : before.Refilled after place) : before.Alike after := by
  intro location
  by_cases here : location = place
  · rw [here]
    exact .inr ⟨refilled.fileBefore, refilled.fileAfter⟩
  · exact .inl (refilled.elsewhere location here)

/-- A path that does not lead to the file finds what it found. -/
theorem find_eq (refilled : before.Refilled after place) (apart : before.follow here path ≠ .ok place) :
    after.find here path = before.find here path := by
  unfold find
  rw [refilled.alike.follow_eq]
  cases found : before.follow here path with
  | error error => rfl
  | ok reached =>
    have other : reached ≠ place := fun same => apart (same ▸ found)
    simp only [bind, Except.bind, refilled.elsewhere reached other]

theorem readFile_eq (refilled : before.Refilled after place) (apart : before.follow here path ≠ .ok place) :
    after.readFile here path = before.readFile here path := by
  unfold readFile
  rw [refilled.find_eq apart]

end Refilled

end FileTree

end CacheSeal
