import CacheSeal.Numeral
import Mathlib.Algebra.Order.Ring.Nat
import Mathlib.Data.List.Basic

/-! Whole numbers in decimal digits. What is written of one is a sign, if it needs one, and digits without needless zeros;
whoever reads them reads the number. -/

namespace CacheSeal

namespace Numeral
variable {base value : Nat} {places : List Nat} {shown : List Char}

theorem magnitude_concat (base : Nat) (places : List Nat) (place : Nat) :
    magnitude base (places ++ [place]) = magnitude base places * base + place :=
  List.foldl_concat ..

theorem digits?_map {letter : Nat → Char}
    (plain : ∀ place ∈ places, digit? base (letter place) = some place ∧ letter place ≠ '_') (present : places ≠ []) :
    digits? base (places.map letter) = some places := by
  induction places with
  | nil => exact absurd rfl present
  | cons place places ih =>
    obtain ⟨⟨read, -⟩, others⟩ := List.forall_mem_cons.mp plain
    cases places with
    | nil => simp [digits?, read]
    | cons next places =>
      have rest := ih others (by simp)
      have noUnderscore := (List.forall_mem_cons.mp others).1.2
      rw [List.map_cons] at rest
      rw [List.map_cons, List.map_cons, digits?]
      simp [read, rest]

/-- Digits have no sign in front. -/
theorem splitSign_of_digits? (read : digits? base shown = some places) : splitSign shown = (false, shown) := by
  cases shown with
  | nil => rfl
  | cons first rest =>
    have noSign (sign : Char) (none : digit? base sign = none) : first ≠ sign := by
      rintro rfl
      rw [digits?, none] at read
      cases read
    simp [splitSign, noSign '-' (by simp [digit?]), noSign '+' (by simp [digit?])]

/-- A number is read from its sign and its digits. -/
theorem whole?_signed {value : Int} (read : digits? base shown = some places)
    (total : magnitude base places = value.natAbs) :
    whole? base (if value < 0 then '-' :: shown else shown) = some value := by
  split
  next negative =>
    have same : -(magnitude base places : Int) = value := by omega
    simp [whole?, splitSign, read, same]
  next positive =>
    have same : (magnitude base places : Int) = value := by omega
    simp [whole?, splitSign_of_digits? read, read, same]

/-- The decimal digits have these values, the highest first, and make up this number. Zero alone starts with a zero. -/
structure Writes (value : Nat) (shown : List Char) (places : List Nat) : Prop where
  shown_eq : shown = places.map Nat.digitChar
  small : ∀ place ∈ places, place < 10
  total : magnitude 10 places = value
  present : places ≠ []
  leads : places.head? = some 0 → places = [0]

theorem writes_toDigits (value : Nat) : ∃ places, Writes value (Nat.toDigits 10 value) places := by
  induction value using Nat.strongRecOn with
  | ind value ih =>
    rcases Nat.lt_or_ge value 10 with single | several
    · refine ⟨[value], ?_, by simpa using single, Nat.zero_add value, by simp, by simp⟩
      rw [Nat.toDigits_of_lt_base single]
      rfl
    · obtain ⟨places, writes⟩ := ih (value / 10) (by omega)
      refine ⟨places ++ [value % 10], ?_, ?_, ?_, by simp, ?_⟩
      · rw [Nat.toDigits_of_base_le (by decide) several, writes.shown_eq, List.map_append]
        rfl
      · rw [List.forall_mem_append]
        exact ⟨writes.small, by simpa using Nat.mod_lt value (by decide)⟩
      · rw [magnitude_concat, writes.total]
        omega
      · rw [List.head?_append_of_ne_nil _ writes.present]
        intro zero
        have total := writes.total
        rw [writes.leads zero, magnitude] at total
        simp only [List.foldl_cons, List.foldl_nil] at total
        omega

theorem digitChar_plain {place : Nat} (small : place < 10) : digit? 10 (Nat.digitChar place) = some place ∧
    (Nat.digitChar place).isDigit = true ∧ (Nat.digitChar place = '0' → place = 0) := by
  revert place
  decide

namespace Writes
variable (writes : Writes value shown places)
include writes

theorem isDigit {c : Char} (member : c ∈ shown) : c.isDigit = true := by
  rw [writes.shown_eq] at member
  obtain ⟨place, among, rfl⟩ := List.mem_map.mp member
  exact (digitChar_plain (writes.small place among)).2.1

theorem shown_ne_nil : shown ≠ [] := by
  rw [writes.shown_eq, Ne, List.map_eq_nil_iff]
  exact writes.present

theorem digits?_eq : digits? 10 shown = some places := by
  rw [writes.shown_eq]
  refine digits?_map (fun place member => ?_) writes.present
  obtain ⟨read, digit, -⟩ := digitChar_plain (writes.small place member)
  refine ⟨read, ?_⟩
  intro underscore
  rw [underscore] at digit
  cases digit

end Writes

/-- What is written of a whole number. -/
theorem toList_toString (value : Int) : ∃ places, ∃ shown, Writes value.natAbs shown places ∧
    (toString value).toList = if value < 0 then '-' :: shown else shown := by
  obtain ⟨places, writes⟩ := writes_toDigits value.natAbs
  refine ⟨places, _, writes, ?_⟩
  change value.repr.toList = _
  rw [Int.repr_eq_if]
  by_cases negative : value < 0
  · rw [if_neg (by omega), if_pos negative, Nat.repr_eq_ofList_toDigits]
    have same : (-value).toNat = value.natAbs := by omega
    simp [same]
  · rw [if_pos (by omega), if_neg negative, Nat.repr_eq_ofList_toDigits]
    have same : value.toNat = value.natAbs := by omega
    simp [same]

/-- The number that is written is read. -/
theorem whole?_toString (value : Int) : whole? 10 (toString value).toList = some value := by
  obtain ⟨places, shown, writes, written⟩ := toList_toString value
  rw [written]
  exact whole?_signed writes.digits?_eq writes.total

/-- The numbers that are written are those below a bound, whatever their sign. -/
theorem isWritten_iff {value : Int} : isWritten value = true ↔ value.natAbs < 10 ^ maxDecimalDigits := by
  rw [isWritten, digitCount, decide_eq_true_iff, Nat.length_toDigits_le_iff (by decide) (by decide)]

theorem isWritten_of_lt {value : Int} {digits : Nat} (few : digits ≤ maxDecimalDigits) (small : value.natAbs < 10 ^ digits) :
    isWritten value = true :=
  isWritten_iff.mpr (Nat.lt_of_lt_of_le small (Nat.pow_le_pow_right (by decide) few))

end Numeral

end CacheSeal
