import CacheSeal.Proofs.HeaderBytes
import Mathlib.Logic.Function.Basic

/-! A buffer as the windows of its fields with the rest behind them. The windows make up all that stands before the rest,
and a write replaces one of them, so what is written to several fields comes to a function of the field. -/

namespace CacheSeal

theorem Field.index_mul_add_le {field other : Field} (before : field.index < other.index) :
    field.offset + wordSize ≤ other.offset := by
  have next : field.index + 1 ≤ other.index := before
  have scaled := Nat.mul_le_mul_right wordSize next
  rwa [Nat.add_mul, Nat.one_mul] at scaled

/-- The windows of two fields have no byte in common. -/
theorem Field.apart {field other : Field} (distinct : other ≠ field) :
    other.offset + wordSize ≤ field.offset ∨ field.offset + wordSize ≤ other.offset := by
  have index : other.index ≠ field.index := by
    intro same
    apply distinct
    cases other <;> cases field <;> first | rfl | cases same
  exact (Nat.lt_or_gt_of_ne index).imp index_mul_add_le index_mul_add_le

namespace Header
variable {layout : Layout} {buffer other rest : Bytes} {pieces : Field → Bytes}

/-- The bytes of a field. -/
def window (buffer : Bytes) (field : Field) : Bytes :=
  buffer.extract field.offset (field.offset + Field.wordSize)

/-- Pieces for all fields, one behind the other, with the rest behind them. -/
def join (pieces : Field → Bytes) (rest : Bytes) : Bytes :=
  Field.all.flatMap pieces ++ rest

theorem length_flatMap_of_same {α : Type} {piece : α → Bytes} {size : Nat} (same : ∀ item, (piece item).length = size)
    (items : List α) : (items.flatMap piece).length = items.length * size := by
  simp [List.length_flatMap, same]

/-- Of pieces of one size, each is found at its own multiple of the size. -/
theorem extract_flatMap {α : Type} {piece : α → Bytes} {size : Nat} (same : ∀ item, (piece item).length = size)
    {items : List α} {place : Nat} {item : α} (found : items[place]? = some item) (rest : Bytes) :
    ((items.flatMap piece ++ rest).drop (place * size)).take size = piece item := by
  induction items generalizing place with
  | nil => cases found
  | cons first others ih =>
    rw [List.flatMap_cons, List.append_assoc]
    cases place with
    | zero =>
      cases found
      rw [Nat.zero_mul, List.drop_zero, List.take_left' (same _)]
    | succ place =>
      rw [Nat.succ_mul, Nat.add_comm, ← List.drop_drop, List.drop_left' (same first)]
      exact ih found

theorem window_join (four : ∀ field, (pieces field).length = Field.wordSize) (rest : Bytes) :
    window (join pieces rest) = pieces := by
  funext field
  have found : Field.all[field.index]? = some field := by cases field <;> rfl
  rw [window, List.extract_eq_take_drop, Nat.add_sub_cancel_left]
  exact extract_flatMap four found rest

theorem length_join (four : ∀ field, (pieces field).length = Field.wordSize) (rest : Bytes) :
    (join pieces rest).length = Layout.unalignedSize + rest.length := by
  rw [join, List.length_append, length_flatMap_of_same four]
  rfl

theorem drop_join (four : ∀ field, (pieces field).length = Field.wordSize) (rest : Bytes) :
    (join pieces rest).drop Layout.unalignedSize = rest :=
  List.drop_left' (length_flatMap_of_same four Field.all)

/-- Windows of one size, one behind the other, are the start of the buffer, however short it is. -/
theorem flatMap_windows (buffer : Bytes) (size count : Nat) :
    ((List.range count).flatMap fun place => (buffer.drop (place * size)).take size) = buffer.take (count * size) := by
  induction count with
  | zero => rw [List.range_zero, List.flatMap_nil, Nat.zero_mul, List.take_zero]
  | succ count ih =>
    rw [List.range_succ, List.flatMap_append, ih, List.flatMap_singleton, Nat.succ_mul, List.take_add]

theorem flatMap_window (buffer : Bytes) : Field.all.flatMap (window buffer) = buffer.take Layout.unalignedSize := by
  have windows : window buffer = fun field => (buffer.drop (field.index * Field.wordSize)).take Field.wordSize := by
    funext field
    rw [window, List.extract_eq_take_drop, Nat.add_sub_cancel_left]
    rfl
  rw [windows]
  exact flatMap_windows buffer Field.wordSize Field.all.length

/-- No byte of a buffer is lost between its windows and the rest. -/
theorem join_window (buffer : Bytes) : join (window buffer) (buffer.drop Layout.unalignedSize) = buffer := by
  rw [join, flatMap_window, List.take_append_drop]

theorem eq_of_windows (windows : window other = window buffer)
    (behind : other.drop Layout.unalignedSize = buffer.drop Layout.unalignedSize) : other = buffer := by
  rw [← join_window other, windows, behind, join_window]

theorem put_agreeOutside (inside : Layout.unalignedSize ≤ buffer.length) (field : Field) (value : Int) :
    Bytes.AgreeOutside field.offset (field.offset + Field.wordSize) buffer (put layout field value buffer) := by
  have four := layout.order.length_encode (Word.ofInt value)
  have agree : Bytes.AgreeOutside field.offset (field.offset + (layout.order.encode (Word.ofInt value)).length) buffer
      (put layout field value buffer) := by
    apply Bytes.agreeOutside_splice
    rw [four]
    exact Nat.le_trans field.offset_add_le inside
  rwa [four] at agree

theorem window_put (inside : Layout.unalignedSize ≤ buffer.length) (field : Field) (value : Int) :
    window (put layout field value buffer) =
      Function.update (window buffer) field (layout.order.encode (Word.ofInt value)) := by
  have four := layout.order.length_encode (Word.ofInt value)
  funext place
  by_cases same : place = field
  · subst same
    have within : place.offset + (layout.order.encode (Word.ofInt value)).length ≤ buffer.length := by
      rw [four]
      exact Nat.le_trans place.offset_add_le inside
    have written := Bytes.extract_splice_self within
    rw [four] at written
    rw [Function.update_self]
    exact written
  · rw [Function.update_of_ne same]
    exact (put_agreeOutside inside field value).extract_eq (Field.apart same)

theorem drop_put (inside : Layout.unalignedSize ≤ buffer.length) (field : Field) (value : Int) :
    (put layout field value buffer).drop Layout.unalignedSize = buffer.drop Layout.unalignedSize :=
  (put_agreeOutside inside field value).drop_eq field.offset_add_le

theorem length_put (inside : Layout.unalignedSize ≤ buffer.length) (field : Field) (value : Int) :
    (put layout field value buffer).length = buffer.length :=
  (put_agreeOutside inside field value).sameLength

end Header

end CacheSeal
