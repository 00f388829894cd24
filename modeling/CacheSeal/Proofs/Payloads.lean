import CacheSeal.Proofs.AsciiDocuments
import CacheSeal.Proofs.JsonSpelling
import CacheSeal.Proofs.TextOrder
import Mathlib.Data.List.Forall2
import Mathlib.Data.List.Nodup
import Mathlib.Tactic.Choose

/-! Payloads that every reader takes as they are meant, and what becomes of the order of their members. -/

namespace CacheSeal.Json

/-- The payload is made of nulls and truth values, of whole numbers of any size, of texts of characters, of lists, and of
objects with distinct names. -/
inductive Portable : Json → Prop where
  | null : Portable .null
  | bool (value : Bool) : Portable (.bool value)
  | int (value : Int) : Portable (.int value)
  | str {text : Text} (scalar : text.Scalar) : Portable (.str text)
  | list {items : List Json} (each : ∀ item ∈ items, Portable item) : Portable (.list items)
  | object {members : List (Text × Json)} (distinct : (members.map Prod.fst).Nodup)
      (scalar : ∀ member ∈ members, member.1.Scalar) (each : ∀ member ∈ members, Portable member.2) :
      Portable (.object members)

/-- The documents differ at most in the order of members, at any depth. -/
inductive Alike : Json → Json → Prop where
  | same (json : Json) : Alike json json
  | list {items others : List Json} (length : items.length = others.length)
      (each : ∀ {item other}, (item, other) ∈ items.zip others → Alike item other) : Alike (.list items) (.list others)
  | object {members reordered others : List (Text × Json)} (order : members.Perm reordered)
      (length : reordered.length = others.length)
      (names : ∀ {member other}, (member, other) ∈ reordered.zip others → member.1 = other.1)
      (each : ∀ {member other}, (member, other) ∈ reordered.zip others → Alike member.2 other.2) :
      Alike (.object members) (.object others)

theorem Alike.ofItems {items others : List Json} (each : List.Forall₂ Alike items others) :
    Alike (.list items) (.list others) := by
  obtain ⟨length, each⟩ := List.forall₂_iff_zip.mp each
  exact .list length each

theorem Alike.ofMembers {members reordered others : List (Text × Json)} (order : members.Perm reordered)
    (each : List.Forall₂ (fun member other => member.1 = other.1 ∧ Alike member.2 other.2) reordered others) :
    Alike (.object members) (.object others) := by
  obtain ⟨length, each⟩ := List.forall₂_iff_zip.mp each
  exact .object order length (fun both => (each both).1) fun both => (each both).2

theorem Alike.of_perm {members others : List (Text × Json)} (order : members.Perm others) :
    Alike (.object members) (.object others) :=
  .ofMembers order (List.forall₂_same.mpr fun member _ => ⟨rfl, .same member.2⟩)

section Order
variable {α : Type} {members others : List (Text × α)}

theorem pairwise_insertMember (member : Text × α)
    (sorted : members.Pairwise fun first second => first.1.le second.1 = true) :
    (insertMember member members).Pairwise fun first second => first.1.le second.1 = true := by
  induction members with
  | nil => exact List.pairwise_singleton _ _
  | cons other rest ih =>
    obtain ⟨below, others⟩ := List.pairwise_cons.mp sorted
    rw [insertMember]
    split
    next before =>
      refine List.pairwise_cons.mpr ⟨?_, sorted⟩
      exact List.forall_mem_cons.mpr ⟨before, fun next inside => Text.le_trans before (below next inside)⟩
    next behind =>
      refine List.pairwise_cons.mpr ⟨?_, ih others⟩
      intro next inside
      obtain rfl | later := List.mem_cons.mp ((perm_insertMember member rest).mem_iff.mp inside)
      · exact (Text.le_total _ _).resolve_left behind
      · exact below next later

theorem pairwise_sortMembers (members : List (Text × α)) :
    (sortMembers members).Pairwise fun first second => first.1.le second.1 = true := by
  induction members with
  | nil => exact .nil
  | cons member rest ih => exact pairwise_insertMember member ih

/-- Members with distinct names have one order. -/
theorem sortMembers_eq (distinct : (members.map Prod.fst).Nodup) (perm : members.Perm others) :
    sortMembers others = sortMembers members := by
  refine List.Perm.eq_of_pairwise ?_ (pairwise_sortMembers others) (pairwise_sortMembers members)
    ((perm_sortMembers others).trans (perm.symm.trans (perm_sortMembers members).symm))
  intro first second inside also below above
  exact List.inj_on_of_nodup_map distinct (perm.mem_iff.mpr ((perm_sortMembers others).mem_iff.mp inside))
    ((perm_sortMembers members).mem_iff.mp also) (Text.le_antisymm below above)

end Order

theorem map_eq_of_zip {α β γ : Type} {change : α → γ} {also : β → γ} {items : List α} {others : List β}
    (length : items.length = others.length)
    (each : ∀ {item other}, (item, other) ∈ items.zip others → change item = also other) :
    items.map change = others.map also := by
  rw [← List.forall₂_eq_eq_eq, List.forall₂_map_left_iff, List.forall₂_map_right_iff]
  exact List.forall₂_iff_zip.mpr ⟨length, each⟩

theorem Alike.itemPart_eq {item other : Json} (alike : Alike item other) (writing : Writing) :
    itemPart item writing = itemPart other writing := by
  cases alike <;> rfl

/-- The order of the members leaves no trace in what is written. -/
theorem Alike.write_eq {payload other : Json} (alike : Alike payload other) (portable : Portable payload) (level : Nat) :
    payload.write level = other.write level := by
  induction alike generalizing level with
  | same => rfl
  | @list items others length each ih =>
    cases portable with
    | list portable =>
      have items_eq : (items.map fun item => itemPart item (item.write (level + 1))) =
          others.map fun other => itemPart other (other.write (level + 1)) :=
        map_eq_of_zip length fun {item other} both => by
          rw [(each both).itemPart_eq, ih both (portable item (List.of_mem_zip both).1)]
      rw [write_list, write_list, items_eq]
  | @object members reordered others order length names each ih =>
    cases portable with
    | object distinct scalar portable =>
      have members_eq : reordered.map (fun member => (member.1, member.2.write (level + 1))) =
          others.map fun other => (other.1, other.2.write (level + 1)) :=
        map_eq_of_zip length fun {member other} both => Prod.ext (names both)
          (ih both (portable member (order.mem_iff.mpr (List.of_mem_zip both).1)) (level + 1))
      rw [write_object, write_object, ← members_eq, sortMembers_eq ?_ (order.map _)]
      rwa [List.map_map]

theorem forall₂_of_each {α β : Type} {related : α → β → Prop} {items : List α} {change : α → β}
    (each : ∀ item ∈ items, related item (change item)) : List.Forall₂ related items (items.map change) :=
  List.forall₂_map_right_iff.mpr (List.forall₂_same.mpr each)

theorem Portable.spells {payload : Json} (portable : Portable payload) (level : Nat) :
    ∃ decoded, Spells valueWithin (payload.text level) decoded ∧ Alike payload decoded := by
  induction portable generalizing level with
  | null => exact ⟨_, spells_null, .same _⟩
  | bool value =>
    cases value with
    | true => exact ⟨_, spells_true, .same _⟩
    | false => exact ⟨_, spells_false, .same _⟩
  | int value => exact ⟨_, spells_int value, .same _⟩
  | str scalar => exact ⟨_, spells_str scalar, .same _⟩
  | @list items each ih =>
    choose! decoded spells alike using fun item inside => ih item inside (level + 1)
    rw [text_list]
    exact ⟨_, spells_enclosed encloses_items level (List.forall₂_map_left_iff.mpr (forall₂_of_each spells)),
      .ofItems (forall₂_of_each alike)⟩
  | @object members distinct scalar each ih =>
    choose! decoded spells alike using fun member inside => ih member inside (level + 1)
    have inside {member : Text × Json} (among : member ∈ sortMembers members) : member ∈ members :=
      (perm_sortMembers members).mem_iff.mp among
    rw [text_object]
    exact ⟨_, spells_enclosed encloses_members level (List.forall₂_map_left_iff.mpr (forall₂_of_each fun member among =>
        spells_member (scalar member (inside among)) (spells member (inside among)))),
      .ofMembers (perm_sortMembers members).symm
        (forall₂_of_each fun member among => ⟨rfl, alike member (inside among)⟩)⟩

end CacheSeal.Json
