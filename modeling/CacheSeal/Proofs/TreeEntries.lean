import CacheSeal.FileTree.Basic

/-! What a tree holds after an entry was put there or taken away. Only the entry at the location differs, and a new one
that is taken away again leaves no trace at all. -/

namespace CacheSeal.FileTree
variable {tree : FileTree} {location other : Location} {entry : Entry}

theorem get?_root (tree : FileTree) : tree.get? [] = some .directory := rfl

theorem get?_of_ne_root (named : location ≠ []) :
    tree.get? location = (tree.items.find? (Item.isAt location location.length)).map (·.entry) :=
  if_neg named

theorem ne_root_of_absent (absent : tree.get? location = none) : location ≠ [] := by
  intro root
  rw [root, get?_root] at absent
  cases absent

theorem ne_root_of_file {mode : Nat} {data : Bytes} (file : tree.get? location = some (.file mode data)) :
    location ≠ [] := by
  intro root
  rw [root, get?_root] at file
  cases file

theorem get?_erase_of_ne (different : other ≠ location) : (tree.erase location).get? other = tree.get? other := by
  by_cases root : other = []
  · subst root
    rfl
  · rw [get?_of_ne_root root, get?_of_ne_root root, erase, List.find?_filter]
    congr 2
    funext item
    by_cases found : item.isAt other other.length = true
    · have elsewhere : item.isAt location location.length = false := by
        rw [Bool.eq_false_iff]
        intro here
        have first := (Item.isAt_iff other item).mp found
        exact different (first.symm.trans ((Item.isAt_iff location item).mp here))
      simp [found, elsewhere]
    · simp [found]

theorem get?_erase_self (named : location ≠ []) : (tree.erase location).get? location = none := by
  rw [get?_of_ne_root named, Option.map_eq_none_iff, List.find?_eq_none]
  intro item member
  simpa using (List.mem_filter.mp member).2

theorem get?_insert_self (named : location ≠ []) : (tree.insert location entry).get? location = some entry := by
  rw [get?_of_ne_root named, insert, List.find?_cons_of_pos ((Item.isAt_iff location _).mpr rfl)]
  rfl

theorem get?_insert_of_ne (different : other ≠ location) :
    (tree.insert location entry).get? other = tree.get? other := by
  by_cases root : other = []
  · subst root
    rfl
  · have elsewhere : ¬ Item.isAt other other.length ⟨location, entry, location.length, rfl⟩ = true := by
      rw [Item.isAt_iff]
      exact Ne.symm different
    rw [get?_of_ne_root root, insert, List.find?_cons_of_neg elsewhere, ← get?_of_ne_root root,
      get?_erase_of_ne different]

theorem erase_of_absent (absent : tree.get? location = none) : tree.erase location = tree := by
  have named := ne_root_of_absent absent
  rw [get?_of_ne_root named, Option.map_eq_none_iff, List.find?_eq_none] at absent
  obtain ⟨items⟩ := tree
  simp only [erase, FileTree.mk.injEq]
  apply List.filter_eq_self.mpr
  intro item member
  simp only [Bool.not_eq_true'] at *
  exact Bool.eq_false_iff.mpr (absent item member)

theorem erase_insert : (tree.insert location entry).erase location = tree.erase location := by
  have here : Item.isAt location location.length ⟨location, entry, location.length, rfl⟩ = true :=
    (Item.isAt_iff location _).mpr rfl
  simp only [insert, erase, FileTree.mk.injEq]
  rw [List.filter_cons_of_neg (by simp [here]), List.filter_filter]
  simp only [Bool.and_self]

theorem insert_insert (first second : Entry) :
    (tree.insert location first).insert location second = tree.insert location second := by
  rw [insert, erase_insert]
  rfl

/-- One entry is there now, and every other is what it was. -/
structure Put (before : FileTree) (location : Location) (entry : Entry) (after : FileTree) : Prop where
  there : after.get? location = some entry
  elsewhere : ∀ other, other ≠ location → after.get? other = before.get? other

theorem put_insert (named : location ≠ []) : tree.Put location entry (tree.insert location entry) :=
  ⟨get?_insert_self named, fun _ different => get?_insert_of_ne different⟩

end CacheSeal.FileTree
