import CacheSeal.Proofs.CacheOperations
import CacheSeal.Proofs.FieldAccess

/-! The two orders of bytes as mirror images of each other. Turning the bytes of every word of the header around takes a
cache in one order to the same cache in the other, and all that is read, judged or written goes along with it. -/

namespace CacheSeal

def ByteOrder.opposite : ByteOrder → ByteOrder
  | little => big
  | big => little

/-- The same width, and the other order. -/
def Layout.opposite (layout : Layout) : Layout :=
  { layout with order := layout.order.opposite }

namespace ByteOrder

theorem decode_reverse (order : ByteOrder) (bytes : Bytes) : order.opposite.decode bytes.reverse = order.decode bytes := by
  cases order with
  | little => exact congrArg Word.ofLittle (List.reverse_reverse bytes)
  | big => rfl

theorem reverse_encode (order : ByteOrder) (word : Nat) : (order.opposite.encode word).reverse = order.encode word := by
  cases order with
  | little => exact List.reverse_reverse (Word.toLittle word)
  | big => rfl

end ByteOrder

namespace Header
variable {layout : Layout} {buffer : Bytes}

/-- The bytes of each word of the header turned around, and all other bytes as they are. -/
def mirror (buffer : Bytes) : Bytes :=
  join (fun field => (window buffer field).reverse) (buffer.drop Layout.unalignedSize)

theorem length_mirror (buffer : Bytes) : (mirror buffer).length = buffer.length := by
  have turned : (Field.all.flatMap fun field => (window buffer field).reverse).length =
      (Field.all.flatMap (window buffer)).length := by
    simp only [List.length_flatMap, List.length_reverse]
  rw [mirror, join, List.length_append, turned, flatMap_window, ← List.length_append, List.take_append_drop]

section Inside
variable (inside : Layout.unalignedSize ≤ buffer.length)
include inside

theorem length_reverse_window (field : Field) : (window buffer field).reverse.length = Field.wordSize := by
  rw [List.length_reverse]
  exact length_window (Nat.le_trans field.offset_add_le inside)

theorem window_mirror : window (mirror buffer) = fun field => (window buffer field).reverse :=
  window_join (length_reverse_window inside) _

theorem drop_mirror : (mirror buffer).drop Layout.unalignedSize = buffer.drop Layout.unalignedSize :=
  drop_join (length_reverse_window inside) _

theorem mirror_mirror : mirror (mirror buffer) = buffer := by
  have still : Layout.unalignedSize ≤ (mirror buffer).length := by rwa [length_mirror]
  apply eq_of_windows
  · simp only [window_mirror still, window_mirror inside, List.reverse_reverse]
  · rw [drop_mirror still, drop_mirror inside]

theorem word_mirror (layout : Layout) (field : Field) :
    word layout.opposite (mirror buffer) field = word layout buffer field := by
  have turned := congrFun (window_mirror inside) field
  rw [word_eq, word_eq]
  exact (congrArg layout.order.opposite.decode turned).trans (layout.order.decode_reverse (window buffer field))

/-- A write goes along with the turning of all words. -/
theorem put_mirror (layout : Layout) (field : Field) (value : Int) :
    put layout field value buffer = mirror (put layout.opposite field value (mirror buffer)) := by
  have turned : Layout.unalignedSize ≤ (mirror buffer).length := by rwa [length_mirror]
  have written : Layout.unalignedSize ≤ (put layout.opposite field value (mirror buffer)).length := by
    rwa [length_put turned]
  apply eq_of_windows
  · rw [window_put inside, window_mirror written, window_put turned, window_mirror inside]
    funext place
    by_cases same : place = field
    · subst same
      rw [Function.update_self, Function.update_self]
      exact (layout.order.reverse_encode _).symm
    · rw [Function.update_of_ne same, Function.update_of_ne same, List.reverse_reverse]
  · rw [drop_put inside, drop_mirror written, drop_put turned, drop_mirror inside]

theorem mirror_put (layout : Layout) (field : Field) (value : Int) :
    mirror (put layout field value buffer) = put layout.opposite field value (mirror buffer) := by
  have turned : Layout.unalignedSize ≤ (mirror buffer).length := by rwa [length_mirror]
  rw [put_mirror inside layout field value]
  exact mirror_mirror (by rwa [length_put turned])

theorem foldl_put_mirror (layout : Layout) (value : Field → Int) (fields : List Field) :
    fields.foldl (fun data field => put layout field (value field) data) buffer =
      mirror (fields.foldl (fun data field => put layout.opposite field (value field) data) (mirror buffer)) := by
  induction fields generalizing buffer with
  | nil => exact (mirror_mirror inside).symm
  | cons field rest ih =>
    rw [List.foldl_cons, List.foldl_cons, ← mirror_put inside]
    exact ih (by rwa [length_put inside])

end Inside

theorem fits_mirror (fits : layout.headerSize ≤ buffer.length) : layout.opposite.headerSize ≤ (mirror buffer).length := by
  rw [length_mirror]
  exact fits

theorem short_mirror (short : buffer.length < layout.headerSize) :
    (mirror buffer).length < layout.opposite.headerSize := by
  rw [length_mirror]
  exact short

theorem require_mirror (layout : Layout) (buffer : Bytes) :
    require layout buffer = require layout.opposite (mirror buffer) := by
  rw [require, require, length_mirror]
  rfl

theorem read_mirror (layout : Layout) (buffer : Bytes) : read layout buffer = read layout.opposite (mirror buffer) := by
  rcases Nat.lt_or_ge buffer.length layout.headerSize with short | fits
  · rw [read_error short, read_error (short_mirror short), length_mirror]
    rfl
  · have inside := Nat.le_trans layout.unalignedSize_le_headerSize fits
    rw [read_ok fits, read_ok (fits_mirror fits)]
    simp only [word_mirror inside]

theorem writeNamed_mirror (layout : Layout) (name : Text) (value : Int) (buffer : Bytes) :
    writeNamed layout name value buffer = (writeNamed layout.opposite name value (mirror buffer)).map mirror := by
  rw [writeNamed, writeNamed, ← require_mirror]
  rcases Nat.lt_or_ge buffer.length layout.headerSize with short | fits
  · rw [require_error short]
    rfl
  · rw [require_ok fits]
    dsimp only
    cases Field.ofName? name with
    | none => rfl
    | some field =>
      exact congrArg Except.ok (put_mirror (Nat.le_trans layout.unalignedSize_le_headerSize fits) layout field value)

end Header

namespace Cache
open Header
variable {layout : Layout} {buffer donor : Bytes}

theorem region_mirror (inside : Layout.unalignedSize ≤ buffer.length) (layout : Layout) :
    region layout.opposite (mirror buffer) = region layout buffer := by
  obtain ⟨padding, size⟩ := Nat.exists_eq_add_of_le layout.unalignedSize_le_headerSize
  have same : layout.opposite.headerSize = layout.headerSize := rfl
  rw [region, region, same, size, ← List.drop_drop, ← List.drop_drop, drop_mirror inside]

theorem validate_mirror (layout : Layout) (buffer : Bytes) :
    validate layout buffer =
      (validate layout.opposite (mirror buffer)).map fun validation => { validation with layout } := by
  rcases Nat.lt_or_ge buffer.length layout.headerSize with short | fits
  · rw [validate_error short, validate_error (short_mirror short), length_mirror]
    rfl
  · have inside := Nat.le_trans layout.unalignedSize_le_headerSize fits
    rw [validate_ok fits, validate_ok (fits_mirror fits), region_mirror inside, length_mirror]
    simp only [word_mirror inside]
    rfl

theorem rehash_mirror (layout : Layout) (buffer : Bytes) :
    rehash layout buffer =
      (rehash layout.opposite (mirror buffer)).map fun result => { result with data := mirror result.data } := by
  unfold rehash
  rw [← read_mirror]
  rcases Nat.lt_or_ge buffer.length layout.headerSize with short | fits
  · rw [read_error short]
    rfl
  · have inside := Nat.le_trans layout.unalignedSize_le_headerSize fits
    simp only [bind, Except.bind, read_ok fits, write_ok fits, write_ok (fits_mirror fits), region_mirror inside,
      length_mirror, put_mirror inside layout]
    rfl

theorem transplant_mirror (layout : Layout) (buffer donor : Bytes) :
    transplant layout buffer donor =
      (transplant layout.opposite (mirror buffer) (mirror donor)).map fun result =>
        { result with data := mirror result.data } := by
  unfold transplant
  rw [← read_mirror, ← read_mirror]
  rcases Nat.lt_or_ge buffer.length layout.headerSize with short | fits
  · rw [read_error short]
    rfl
  · rw [read_ok fits]
    cases read layout donor with
    | error error => rfl
    | ok source =>
      have inside := Nat.le_trans layout.unalignedSize_le_headerSize fits
      simp only [bind, Except.bind, foldl_put_mirror inside layout source.get]
      rfl

/-- Whatever is done to a cache in one order of bytes is done to its mirror image in the other: the same is read and judged,
what is written is the mirror image of what is written there, and what fails does so in the same way. Nothing of it fails
for buffers that hold a header. -/
theorem operations_mirrored (layout : Layout) (buffer donor : Bytes) :
    read layout buffer = read layout.opposite (mirror buffer) ∧
    (validate layout buffer =
      (validate layout.opposite (mirror buffer)).map fun validation => { validation with layout }) ∧
    (rehash layout buffer =
      (rehash layout.opposite (mirror buffer)).map fun result => { result with data := mirror result.data }) ∧
    (transplant layout buffer donor =
      (transplant layout.opposite (mirror buffer) (mirror donor)).map fun result =>
        { result with data := mirror result.data }) ∧
    (∀ name value, writeNamed layout name value buffer =
      (writeNamed layout.opposite name value (mirror buffer)).map mirror) ∧
    (layout.headerSize ≤ buffer.length → layout.headerSize ≤ donor.length →
      (∃ header, read layout buffer = .ok header) ∧ (∃ validation, validate layout buffer = .ok validation) ∧
      (∃ result, rehash layout buffer = .ok result) ∧ (∃ result, transplant layout buffer donor = .ok result) ∧
      ∀ field : Field, ∀ value, ∃ after, writeNamed layout field.name value buffer = .ok after) := by
  refine ⟨read_mirror layout buffer, validate_mirror layout buffer, rehash_mirror layout buffer,
    transplant_mirror layout buffer donor, fun name value => writeNamed_mirror layout name value buffer, ?_⟩
  intro fits donorFits
  obtain ⟨notices, rehashed⟩ := rehash_ok fits
  refine ⟨⟨_, read_ok fits⟩, ⟨_, validate_ok fits⟩, ⟨_, rehashed⟩, ⟨_, transplant_ok fits donorFits⟩, ?_⟩
  intro field value
  refine ⟨put layout field value buffer, ?_⟩
  rw [writeNamed, require_ok fits]
  dsimp only
  rw [field.ofName?_name]

theorem operations_mirrored_counting :
    let layout : Layout := ⟨.w64, .big, .whole⟩
    layout.headerSize ≤ counting.length ∧
      mirror counting = [3, 2, 1, 0, 7, 6, 5, 4, 11, 10, 9, 8, 15, 14, 13, 12, 19, 18, 17, 16, 23, 22, 21, 20,
        27, 26, 25, 24, 28, 29, 30, 31, 32] ∧
      ∃ result image, rehash layout counting = .ok result ∧ rehash ⟨.w64, .little, .whole⟩ (mirror counting) = .ok image ∧
        result.data = mirror image.data ∧ result.new = image.new := by
  intro layout
  have fits : layout.headerSize ≤ counting.length := by decide
  obtain ⟨-, -, imaged, -, -, succeeds⟩ := operations_mirrored layout counting counting
  obtain ⟨-, -, ⟨result, rehashed⟩, -⟩ := succeeds fits fits
  refine ⟨fits, by decide, result, ?_⟩
  cases other : rehash layout.opposite (mirror counting) with
  | error error =>
    rw [rehashed, other] at imaged
    cases imaged
  | ok image =>
    rw [rehashed, other] at imaged
    cases imaged
    exact ⟨image, rehashed, other, rfl, rfl⟩

end Cache

end CacheSeal
