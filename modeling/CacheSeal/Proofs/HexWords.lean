import CacheSeal.Proofs.WholeNumbers
import CacheSeal.Text.Hex
import Mathlib.Algebra.Order.Ring.Nat

/-! Hexadecimal digits as a number in base sixteen. What is shown of a number that fits its width is that many digits,
and whoever reads them, with the mark of the base before them, reads the number. Bytes are read from two digits each. -/

namespace CacheSeal

namespace Hex
variable {letters : Letters} {value : Nat} {shown : List Char} {places : List Nat}

/-- The digits have these values, the highest first, and make up this number. -/
structure Spells (letters : Letters) (value : Nat) (shown : List Char) (places : List Nat) : Prop where
  shown_eq : shown = places.map (digit letters)
  small : ∀ place ∈ places, place < 16
  total : Numeral.magnitude 16 places = value

theorem magnitude_zeros (count : Nat) (places : List Nat) :
    Numeral.magnitude 16 (List.replicate count 0 ++ places) = Numeral.magnitude 16 places := by
  induction count with
  | zero => rfl
  | succ count ih => exact ih

theorem spells_digits (letters : Letters) (value : Nat) :
    ∃ places, Spells letters value (digits letters value) places ∧ places ≠ [] := by
  induction value using Nat.strongRecOn with
  | ind value ih =>
    unfold digits
    split
    next single => exact ⟨[value], ⟨rfl, by simpa using single, Nat.zero_add value⟩, by simp⟩
    next several =>
      obtain ⟨places, spells, -⟩ := ih (value / 16) (by omega)
      refine ⟨places ++ [value % 16], ⟨?_, ?_, ?_⟩, by simp⟩
      · rw [spells.shown_eq, List.map_append]
        rfl
      · rw [List.forall_mem_append]
        exact ⟨spells.small, by simpa using Nat.mod_lt value (by decide)⟩
      · rw [Numeral.magnitude_concat, spells.total]
        omega

theorem length_digits_le (letters : Letters) {width : Nat} (fits : value < 16 ^ (width + 1)) :
    (digits letters value).length ≤ width + 1 := by
  induction width generalizing value with
  | zero =>
    unfold digits
    simp [show value < 16 by simpa using fits]
  | succ width ih =>
    unfold digits
    split
    · exact Nat.le_add_left 1 (width + 1)
    · have higher := @ih (value / 16) (by rw [Nat.pow_succ] at fits; omega)
      rw [List.length_append]
      exact Nat.add_le_add_right higher 1

theorem Spells.padded (spells : Spells letters value shown places) (count : Nat) :
    Spells letters value (List.replicate count '0' ++ shown) (List.replicate count 0 ++ places) := by
  refine ⟨?_, ?_, ?_⟩
  · rw [spells.shown_eq, List.map_append, List.map_replicate]
    cases letters <;> rfl
  · rw [List.forall_mem_append]
    exact ⟨by simp +contextual, spells.small⟩
  · rw [magnitude_zeros, spells.total]

/-- A number that fits is shown in just so many digits. -/
theorem spells_padded (letters : Letters) {width : Nat} (fits : value < 16 ^ (width + 1)) :
    ∃ places, Spells letters value (padded letters (width + 1) value) places ∧ places.length = width + 1 := by
  obtain ⟨places, spells, -⟩ := spells_digits letters value
  have few := length_digits_le letters fits
  have same : places.length = (digits letters value).length := by rw [spells.shown_eq, List.length_map]
  refine ⟨_, spells.padded _, ?_⟩
  rw [List.length_append, List.length_replicate, same]
  omega

end Hex

namespace Numeral
variable {letters : Hex.Letters} {places : List Nat} {text : List Char}

/-- A digit is read as its value, and is neither a blank nor an underscore nor outside ASCII. -/
theorem digit_plain (letters : Hex.Letters) {place : Nat} (small : place < 16) :
    digit? 16 (Hex.digit letters place) = some place ∧ (Hex.digit letters place).toNat < 128 ∧
      Blank.isAscii (Hex.digit letters place) = false ∧ Hex.digit letters place ≠ '_' := by
  revert place
  cases letters <;> decide

theorem digits?_map_digit (small : ∀ place ∈ places, place < 16) (present : places ≠ []) :
    digits? 16 (places.map (Hex.digit letters)) = some places := by
  refine digits?_map (fun place member => ?_) present
  obtain ⟨read, -, -, noUnderscore⟩ := digit_plain letters (small place member)
  exact ⟨read, noUnderscore⟩

end Numeral

theorem Blank.strip_eq_self {blank : Char → Bool} {text : List Char} (solid : ∀ c ∈ text, blank c = false) :
    strip blank text = text := by
  have kept {part : List Char} (none : ∀ c ∈ part, blank c = false) : part.dropWhile blank = part := by
    cases part with
    | nil => rfl
    | cons c rest => exact List.dropWhile_cons_of_neg (by simp [none c])
  rw [strip, kept solid, kept (by simpa using solid), List.reverse_reverse]

namespace Hex
variable {value : Nat} {places : List Nat}

/-- Digits behind the mark of the base are read as the number that they make up. -/
theorem Spells.read {letters : Letters} {shown : List Char} (spells : Spells letters value shown places)
    (present : places ≠ []) : Numeral.read? 16 ('0' :: 'x' :: shown) = some (value : Int) := by
  obtain ⟨rfl, small, total⟩ := spells
  have plain : ∀ c ∈ '0' :: 'x' :: places.map (digit letters), c.toNat < 128 ∧ Blank.isAscii c = false := by
    simp only [List.forall_mem_cons, List.forall_mem_map]
    refine ⟨by decide, by decide, ?_⟩
    intro place member
    obtain ⟨-, ascii, solid, -⟩ := Numeral.digit_plain letters (small place member)
    exact ⟨ascii, solid⟩
  have ascii : Numeral.toAscii ('0' :: 'x' :: places.map (digit letters)) = '0' :: 'x' :: places.map (digit letters) := by
    unfold Numeral.toAscii
    exact (List.map_congr_left fun c member => if_pos (plain c member).1).trans (List.map_id _)
  have unmarked : Numeral.dropMark 16 ('0' :: 'x' :: places.map (digit letters)) = places.map (digit letters) := by
    obtain ⟨first, rest, rfl⟩ := List.exists_cons_of_ne_nil present
    obtain ⟨-, -, -, noUnderscore⟩ := Numeral.digit_plain letters (small first List.mem_cons_self)
    simp [Numeral.dropMark, noUnderscore]
  rw [Numeral.read?, ascii, Blank.strip_eq_self fun c member => (plain c member).2]
  simp [Numeral.splitSign, unmarked, Numeral.digits?_map_digit small present, total]

theorem Spells.digits?_eq {letters : Letters} {shown : List Char} (spells : Spells letters value shown places)
    (present : places ≠ []) : Numeral.digits? 16 shown = some places := by
  rw [spells.shown_eq]
  exact Numeral.digits?_map_digit spells.small present

/-- What a report shows of a number: digits behind the mark of the base, and between the two a sign if it needs one. -/
theorem toList_word (value : Int) : ∃ places, ∃ shown, Spells .upper value.natAbs shown places ∧ places ≠ [] ∧
    (word value).toList = '0' :: 'x' :: if value < 0 then '-' :: shown else shown := by
  obtain ⟨places, spells, present⟩ := spells_digits .upper value.natAbs
  have padded (width : Nat) := spells.padded (width - (digits .upper value.natAbs).length)
  cases value with
  | ofNat value => exact ⟨_, _, padded 8, by simp [present], by simp [word, Hex.padded]⟩
  | negSucc value => exact ⟨_, _, padded 7, by simp [present], by simp [word, Hex.padded, Int.negSucc_lt_zero]⟩

/-- The number that a report shows is read. -/
theorem whole?_word (value : Int) : Numeral.whole? 16 ((word value).toList.drop 2) = some value := by
  obtain ⟨places, shown, spells, present, written⟩ := toList_word value
  rw [written]
  exact Numeral.whole?_signed (spells.digits?_eq present) spells.total

theorem word_inj {value other : Int} : word value = word other ↔ value = other := by
  constructor
  · intro same
    have read := whole?_word value
    rw [same, whole?_word other] at read
    exact (Option.some.inj read).symm
  · exact congrArg word

theorem value?_digit {place : Nat} (letters : Letters) (small : place < 16) :
    value? (digit letters place) = some place := by
  revert place
  cases letters <;> decide

/-- The digits of a byte are two, and make it up again. -/
theorem padded_byte (byte : UInt8) : ∃ high < 16, ∃ low < 16,
    padded .lower 2 byte.toNat = [digit .lower high, digit .lower low] ∧ UInt8.ofNat (16 * high + low) = byte := by
  obtain ⟨places, ⟨shown, small, total⟩, two⟩ := @spells_padded byte.toNat .lower 1 byte.toNat_lt
  obtain ⟨high, low, rfl⟩ := List.length_eq_two.mp two
  refine ⟨high, small high (by simp), low, small low (by simp), shown, ?_⟩
  have whole : 16 * high + low = byte.toNat := by
    rw [← total]
    simp only [Numeral.magnitude, List.foldl_cons, List.foldl_nil]
    omega
  rw [whole, UInt8.ofNat_toNat]

/-- Bytes as they are shown are read as the same bytes. -/
theorem toBytes?_ofBytes (data : Bytes) : toBytes? (ofBytes data).toList = some data := by
  rw [ofBytes, String.toList_ofList]
  induction data with
  | nil => rfl
  | cons byte rest ih =>
    obtain ⟨high, highSmall, low, lowSmall, shown, whole⟩ := padded_byte byte
    rw [List.flatMap_cons, shown]
    simp only [List.cons_append, List.nil_append, toBytes?, value?_digit .lower highSmall, value?_digit .lower lowSmall,
      Option.bind_eq_bind, Option.bind_some, ih, whole]
    rfl

end Hex

end CacheSeal
