import CacheSeal.Header.Basic
import Mathlib.Data.List.Basic

/-! The bytes of a header. A field is a window of four bytes, words and windows of four bytes stand for each other in
either order, and a write replaces one window and no other byte. -/

namespace CacheSeal

namespace Bytes
variable {data piece : Bytes} {offset : Nat}

theorem length_splice (inside : offset + piece.length ≤ data.length) :
    (data.splice offset piece).length = data.length := by
  simp only [splice, List.length_append, List.length_take, List.length_drop]
  omega

theorem getElem?_splice (inside : offset + piece.length ≤ data.length) (place : Nat) :
    (data.splice offset piece)[place]? =
      if offset ≤ place ∧ place < offset + piece.length then piece[place - offset]? else data[place]? := by
  have start : (data.take offset).length = offset := by
    rw [List.length_take]
    omega
  have stop : (data.take offset ++ piece).length = offset + piece.length := by
    rw [List.length_append, start]
  unfold splice
  by_cases before : place < offset
  · rw [if_neg (by omega), List.getElem?_append_left (by omega), List.getElem?_append_left (by omega),
      List.getElem?_take_of_lt before]
  · by_cases within : place < offset + piece.length
    · rw [if_pos (by omega), List.getElem?_append_left (by omega), List.getElem?_append_right (by omega), start]
    · rw [if_neg (by omega), List.getElem?_append_right (by omega), List.getElem?_drop, stop]
      congr 1
      omega

theorem getElem?_extract (data : Bytes) (start stop place : Nat) :
    (data.extract start stop)[place]? = if place < stop - start then data[start + place]? else none := by
  rw [List.extract_eq_take_drop, List.getElem?_take]
  split
  · rw [List.getElem?_drop]
  · rfl

theorem length_extract {start stop : Nat} (inside : stop ≤ data.length) :
    (data.extract start stop).length = stop - start := by
  simp only [List.extract_eq_take_drop, List.length_take, List.length_drop]
  omega

/-- Two buffers of one length that hold the same bytes outside a window. -/
structure AgreeOutside (start stop : Nat) (first second : Bytes) : Prop where
  sameLength : second.length = first.length
  same : ∀ place, place < start ∨ stop ≤ place → second[place]? = first[place]?

theorem agreeOutside_refl (start stop : Nat) (data : Bytes) : AgreeOutside start stop data data :=
  ⟨rfl, fun _ _ => rfl⟩

theorem agreeOutside_splice (inside : offset + piece.length ≤ data.length) :
    AgreeOutside offset (offset + piece.length) data (data.splice offset piece) := by
  refine ⟨length_splice inside, ?_⟩
  intro place outside
  rw [getElem?_splice inside, if_neg (by omega)]

namespace AgreeOutside
variable {start stop first last : Nat} {other : Bytes}

theorem symm (agree : AgreeOutside start stop data other) : AgreeOutside start stop other data :=
  ⟨agree.sameLength.symm, fun place outside => (agree.same place outside).symm⟩

theorem extract_eq (agree : AgreeOutside start stop data other) (apart : last ≤ start ∨ stop ≤ first) :
    other.extract first last = data.extract first last := by
  apply List.ext_getElem?
  intro place
  rw [getElem?_extract, getElem?_extract]
  split
  · exact agree.same _ (by omega)
  · rfl

theorem drop_eq (agree : AgreeOutside start stop data other) (past : stop ≤ first) :
    other.drop first = data.drop first := by
  apply List.ext_getElem?
  intro place
  rw [List.getElem?_drop, List.getElem?_drop, agree.same _ (by omega)]

end AgreeOutside

/-- A window apart from what is written holds what it held. -/
theorem extract_splice_of_apart (inside : offset + piece.length ≤ data.length) {start stop : Nat}
    (apart : stop ≤ offset ∨ offset + piece.length ≤ start) :
    (data.splice offset piece).extract start stop = data.extract start stop :=
  (agreeOutside_splice inside).extract_eq apart

theorem drop_splice_of_le (inside : offset + piece.length ≤ data.length) {start : Nat}
    (past : offset + piece.length ≤ start) : (data.splice offset piece).drop start = data.drop start :=
  (agreeOutside_splice inside).drop_eq past

theorem extract_splice_self (inside : offset + piece.length ≤ data.length) :
    (data.splice offset piece).extract offset (offset + piece.length) = piece := by
  apply List.ext_getElem?
  intro place
  rw [getElem?_extract, getElem?_splice inside]
  split
  next within => rw [if_pos (by omega), Nat.add_sub_cancel_left]
  next beyond => exact (List.getElem?_eq_none (by omega)).symm

/-- Two writes beside each other are one. -/
theorem splice_splice_next (inside : offset + piece.length ≤ data.length) {next : Bytes}
    (nextInside : offset + piece.length + next.length ≤ data.length) :
    (data.splice offset piece).splice (offset + piece.length) next = data.splice offset (piece ++ next) := by
  have first : offset + piece.length + next.length ≤ (data.splice offset piece).length := by
    rwa [length_splice inside]
  have both : offset + (piece ++ next).length ≤ data.length := by
    rw [List.length_append]
    omega
  apply List.ext_getElem?
  intro place
  rw [getElem?_splice first, getElem?_splice inside, getElem?_splice both, List.length_append]
  by_cases before : place < offset + piece.length
  · rw [if_neg (by omega)]
    split
    · rw [if_pos (by omega), List.getElem?_append_left (by omega)]
    · rw [if_neg (by omega)]
  · split
    · rw [if_pos (by omega), List.getElem?_append_right (by omega), Nat.sub_add_eq]
    · rw [if_neg (by omega), if_neg (by omega)]

theorem extract_append_extract (data : Bytes) {start middle stop : Nat} (ordered : start ≤ middle)
    (onward : middle ≤ stop) (inside : middle ≤ data.length) :
    data.extract start middle ++ data.extract middle stop = data.extract start stop := by
  have first : (data.extract start middle).length = middle - start := length_extract inside
  apply List.ext_getElem?
  intro place
  rw [List.getElem?_append, first]
  simp only [getElem?_extract]
  split
  · rw [if_pos (by omega)]
  · have shifted : middle + (place - (middle - start)) = start + place := by omega
    rw [shifted]
    congr 1
    apply propext
    omega

theorem extract_eq_extract_iff {first second : Bytes} (start middle stop : Nat) (ordered : start ≤ middle)
    (onward : middle ≤ stop) (inside : stop ≤ first.length) (otherInside : stop ≤ second.length) :
    first.extract start stop = second.extract start stop ↔
      first.extract start middle = second.extract start middle ∧
        first.extract middle stop = second.extract middle stop := by
  rw [← extract_append_extract first ordered onward (by omega), ← extract_append_extract second ordered onward (by omega)]
  constructor
  · intro joined
    apply List.append_inj joined
    rw [length_extract (by omega), length_extract (by omega)]
  · rintro ⟨front, back⟩
    rw [front, back]

/-- Windows copied one after the other, each behind the last, are copied as one. -/
theorem splice_extract_next {donor : Bytes} (start middle stop : Nat) (ordered : start ≤ middle)
    (onward : middle ≤ stop) (inside : stop ≤ data.length) (donorInside : stop ≤ donor.length) :
    (data.splice start (donor.extract start middle)).splice middle (donor.extract middle stop) =
      data.splice start (donor.extract start stop) := by
  have first : (donor.extract start middle).length = middle - start := length_extract (by omega)
  have next : (donor.extract middle stop).length = stop - middle := length_extract donorInside
  have behind : start + (donor.extract start middle).length = middle := by omega
  have joined : (data.splice start (donor.extract start middle)).splice (start + (donor.extract start middle).length)
      (donor.extract middle stop) = data.splice start (donor.extract start middle ++ donor.extract middle stop) :=
    splice_splice_next (by omega) (by omega)
  rwa [extract_append_extract donor ordered onward (by omega), behind] at joined

theorem getElem?_of_extract_eq {first second : Bytes} {start stop place : Nat}
    (same : first.extract start stop = second.extract start stop) (behind : start ≤ place) (before : place < stop) :
    first[place]? = second[place]? := by
  have byte := congrArg (·[place - start]?) same
  simp only [getElem?_extract] at byte
  rwa [if_pos (by omega), if_pos (by omega), Nat.add_sub_cancel' behind] at byte

/-- A write is told from all other changes by what it leaves alone and by what its window holds then. -/
theorem eq_splice_iff {stop : Nat} {other : Bytes} (window : offset + piece.length = stop) (inside : stop ≤ data.length) :
    other = data.splice offset piece ↔ AgreeOutside offset stop data other ∧ other.extract offset stop = piece := by
  subst window
  constructor
  · rintro rfl
    exact ⟨agreeOutside_splice inside, extract_splice_self inside⟩
  · rintro ⟨agree, holds⟩
    apply List.ext_getElem?
    intro place
    by_cases within : offset ≤ place ∧ place < offset + piece.length
    · exact getElem?_of_extract_eq (holds.trans (extract_splice_self inside).symm) within.1 within.2
    · rw [agree.same place (by omega), getElem?_splice inside, if_neg within]

end Bytes

namespace ByteOrder

theorem length_encode (order : ByteOrder) (word : Nat) : (order.encode word).length = Field.wordSize := by
  cases order <;> rfl

private theorem toLittle_ofLittle {bytes : Bytes} (four : bytes.length = 4) :
    Word.toLittle (Word.ofLittle bytes) = bytes := by
  obtain ⟨a, b, c, d, rfl⟩ := List.length_eq_four.mp four
  have first := a.toNat_lt
  have second := b.toNat_lt
  have third := c.toNat_lt
  have fourth := d.toNat_lt
  have same (byte : UInt8) (word : Nat) (equal : word % 256 = byte.toNat) : UInt8.ofNat word = byte := by
    apply UInt8.toNat_inj.mp
    simpa using equal
  simp only [Word.toLittle, Word.ofLittle, List.foldr_cons, List.foldr_nil, List.map_cons, List.map_nil]
  rw [same a _ (by omega), same b _ (by omega), same c _ (by omega), same d _ (by omega)]

private theorem ofLittle_toLittle {word : Nat} (small : word < Word.count) :
    Word.ofLittle (Word.toLittle word) = word := by
  simp only [Word.toLittle, Word.ofLittle, List.foldr_cons, List.foldr_nil, List.map_cons, List.map_nil,
    UInt8.toNat_ofNat']
  unfold Word.count at small
  omega

private theorem ofLittle_lt {bytes : Bytes} (four : bytes.length = 4) : Word.ofLittle bytes < Word.count := by
  obtain ⟨a, b, c, d, rfl⟩ := List.length_eq_four.mp four
  have first := a.toNat_lt
  have second := b.toNat_lt
  have third := c.toNat_lt
  have fourth := d.toNat_lt
  simp only [Word.ofLittle, List.foldr_cons, List.foldr_nil, Word.count]
  omega

/-- Any four bytes are a word. -/
theorem encode_decode (order : ByteOrder) {bytes : Bytes} (four : bytes.length = Field.wordSize) :
    order.encode (order.decode bytes) = bytes := by
  cases order with
  | little => exact toLittle_ofLittle four
  | big =>
    simp only [encode, decode]
    rw [toLittle_ofLittle (by rwa [List.length_reverse]), List.reverse_reverse]

theorem decode_encode (order : ByteOrder) {word : Nat} (small : word < Word.count) :
    order.decode (order.encode word) = word := by
  cases order with
  | little => exact ofLittle_toLittle small
  | big =>
    simp only [encode, decode, List.reverse_reverse]
    exact ofLittle_toLittle small

theorem decode_lt (order : ByteOrder) {bytes : Bytes} (four : bytes.length = Field.wordSize) :
    order.decode bytes < Word.count := by
  cases order with
  | little => exact ofLittle_lt four
  | big => exact ofLittle_lt (by rwa [List.length_reverse])

end ByteOrder

theorem Word.ofInt_natCast {word : Nat} (small : word < Word.count) : Word.ofInt word = word := by
  simp only [Word.ofInt, Word.count] at *
  omega

namespace Layout

theorem headerSize_eq (layout : Layout) : layout.headerSize = match layout.width with | .w32 => 28 | .w64 => 32 := by
  obtain ⟨width, order, spelling⟩ := layout
  cases width <;> simp [headerSize, PointerWidth.alignment, unalignedSize, Field.all, Field.wordSize]

/-- All fields lie in the header, whatever it is padded to. -/
theorem unalignedSize_le_headerSize (layout : Layout) : unalignedSize ≤ layout.headerSize := by
  rw [headerSize_eq]
  cases layout.width <;> decide

theorem fields_fit {layout : Layout} {size : Nat} (fits : layout.headerSize ≤ size) : 28 ≤ size :=
  Nat.le_trans layout.unalignedSize_le_headerSize fits

end Layout

theorem Field.offset_add_le (field : Field) : field.offset + Field.wordSize ≤ Layout.unalignedSize := by
  cases field <;> decide

namespace Header
variable {layout : Layout} {buffer : Bytes}

/-- A buffer that is not too short holds every field. -/
theorem field_inside (fits : layout.headerSize ≤ buffer.length) (field : Field) :
    field.offset + Field.wordSize ≤ buffer.length :=
  Nat.le_trans field.offset_add_le (Layout.fields_fit fits)

theorem require_ok (fits : layout.headerSize ≤ buffer.length) : require layout buffer = .ok () :=
  if_neg (Nat.not_lt.mpr fits)

theorem require_error (short : buffer.length < layout.headerSize) :
    require layout buffer = .error ⟨buffer.length, layout.headerSize⟩ :=
  if_pos short

theorem read_ok (fits : layout.headerSize ≤ buffer.length) :
    read layout buffer = .ok (ofFields fun field => word layout buffer field) := by
  rw [read, require_ok fits]
  rfl

theorem read_error (short : buffer.length < layout.headerSize) :
    read layout buffer = .error ⟨buffer.length, layout.headerSize⟩ := by
  rw [read, require_error short]
  rfl

theorem get_ofFields (value : Field → Int) (field : Field) : (ofFields value).get field = value field := by
  cases field <;> rfl

theorem write_ok (fits : layout.headerSize ≤ buffer.length) (field : Field) (value : Int) :
    write layout field value buffer = .ok (put layout field value buffer) := by
  rw [write, require_ok fits]
  rfl

theorem word_eq (layout : Layout) (buffer : Bytes) (field : Field) :
    word layout buffer field = layout.order.decode (buffer.extract field.offset (field.offset + Field.wordSize)) := by
  rw [word, List.extract_eq_take_drop, Nat.add_sub_cancel_left]

theorem word_of_agreeOutside {other : Bytes} {field : Field} {start stop : Nat}
    (agree : Bytes.AgreeOutside start stop buffer other)
    (apart : field.offset + Field.wordSize ≤ start ∨ stop ≤ field.offset) :
    word layout other field = word layout buffer field := by
  rw [word_eq, word_eq, agree.extract_eq apart]

theorem length_window {field : Field} (inside : field.offset + Field.wordSize ≤ buffer.length) :
    (buffer.extract field.offset (field.offset + Field.wordSize)).length = Field.wordSize := by
  rw [Bytes.length_extract inside, Nat.add_sub_cancel_left]

theorem word_lt (layout : Layout) {field : Field} (inside : field.offset + Field.wordSize ≤ buffer.length) :
    word layout buffer field < Word.count := by
  rw [word_eq]
  exact layout.order.decode_lt (length_window inside)

theorem encode_word (layout : Layout) {field : Field} (inside : field.offset + Field.wordSize ≤ buffer.length) :
    layout.order.encode (word layout buffer field) = buffer.extract field.offset (field.offset + Field.wordSize) := by
  rw [word_eq, layout.order.encode_decode (length_window inside)]

/-- A field holds a word just if its bytes are those that the word is stored as. -/
theorem word_eq_iff {field : Field} (inside : field.offset + Field.wordSize ≤ buffer.length) {value : Nat}
    (small : value < Word.count) :
    word layout buffer field = value ↔
      buffer.extract field.offset (field.offset + Field.wordSize) = layout.order.encode value := by
  constructor
  · rintro rfl
    exact (encode_word layout inside).symm
  · intro same
    rw [word_eq, same, layout.order.decode_encode small]

/-- Writing a word that was read elsewhere copies its bytes, in whichever order they are. -/
theorem put_word (layout : Layout) {donor : Bytes} (field : Field) (inside : field.offset + Field.wordSize ≤ donor.length)
    (buffer : Bytes) :
    put layout field (word layout donor field) buffer =
      buffer.splice field.offset (donor.extract field.offset (field.offset + Field.wordSize)) := by
  rw [put, Word.ofInt_natCast (word_lt layout inside), encode_word layout inside]

end Header

end CacheSeal
