import CacheSeal.Checksum
import Mathlib.Algebra.BigOperators.Fin
import Mathlib.Data.Nat.ModEq
import Mathlib.Tactic.Ring

/-! All ways of computing a checksum agree on one closed form. Feeding is linear in the sums it starts from, so it
does not matter whether they were reduced before; the ways differ only in the reduction at their end, which is exact
within the bounds that their inputs keep. One byte after a seed with a large high half is the exception. -/

namespace CacheSeal.Proofs.ChecksumForm
open Checksum

/-- Reduction may be postponed: the sums count modulo `base` only. -/
def Congruent (first second : Sums) : Prop :=
  first.low ≡ second.low [MOD base] ∧ first.high ≡ second.high [MOD base]

theorem Congruent.reduce_eq {first second : Sums} (same : Congruent first second) : first.reduce = second.reduce := by
  obtain ⟨low, high⟩ := same
  unfold Sums.reduce
  rw [low, high]

theorem congruent_reduce (sums : Sums) : Congruent sums.reduce sums :=
  ⟨Nat.mod_modEq _ _, Nat.mod_modEq _ _⟩

theorem Congruent.feed {first second : Sums} (same : Congruent first second) (byte : UInt8) :
    Congruent (first.feed byte) (second.feed byte) := by
  obtain ⟨low, high⟩ := same
  have fed : first.low + byte.toNat ≡ second.low + byte.toNat [MOD base] := low.add_right _
  exact ⟨fed, high.add fed⟩

theorem Congruent.feedAll {first second : Sums} (same : Congruent first second) (data : Bytes) :
    Congruent (first.feedAll data) (second.feedAll data) := by
  induction data generalizing first second with
  | nil => exact same
  | cons byte rest ih => exact ih (same.feed byte)

theorem feedAll_append (sums : Sums) (first second : Bytes) :
    sums.feedAll (first ++ second) = (sums.feedAll first).feedAll second :=
  List.foldl_append

/-- Every byte counts once in the low sum. -/
theorem feedAll_low (sums : Sums) (data : Bytes) :
    (sums.feedAll data).low = sums.low + ∑ i : Fin data.length, data[i].toNat := by
  induction data generalizing sums with
  | nil => rfl
  | cons byte rest ih =>
    have step : (sums.feedAll (byte :: rest)).low = ((sums.feed byte).feedAll rest).low := rfl
    rw [step, ih]
    simp only [List.length_cons, Fin.sum_univ_succ, Sums.feed]
    exact Nat.add_assoc _ _ _

/-- The low sum counts in the high one at every byte, so a byte counts there as often as bytes come from it on. -/
theorem feedAll_high (sums : Sums) (data : Bytes) :
    (sums.feedAll data).high =
      sums.high + data.length * sums.low + ∑ i : Fin data.length, (data.length - i) * data[i].toNat := by
  induction data generalizing sums with
  | nil => simp [Sums.feedAll]
  | cons byte rest ih =>
    have step : (sums.feedAll (byte :: rest)).high = ((sums.feed byte).feedAll rest).high := rfl
    rw [step, ih]
    simp only [List.length_cons, Fin.sum_univ_succ, Sums.feed, Fin.val_zero, Fin.val_succ, Nat.add_sub_add_right,
      Nat.sub_zero]
    change _ = _ + (_ * byte.toNat + ∑ i : Fin rest.length, (rest.length - i) * rest[i].toNat)
    ring

/-- A block is reduced at its end, and so is a rest; where nothing is fed at all, nothing is reduced. -/
theorem feedBlocks_eq (blocks : Nat) (sums : Sums) (data : Bytes) (fed : 0 < blocks ∨ data ≠ []) :
    Sums.feedBlocks blocks sums data = (sums.feedAll data).reduce := by
  induction blocks generalizing sums data with
  | zero =>
    have present : data ≠ [] := fed.resolve_left (Nat.lt_irrefl 0)
    simp [Sums.feedBlocks, present]
  | succ blocks ih =>
    let block := data.take blockLength
    let rest := data.drop blockLength
    have whole : (sums.feedAll block).feedAll rest = sums.feedAll data := by
      rw [← feedAll_append, List.take_append_drop]
    have step : Sums.feedBlocks (blocks + 1) sums data =
        Sums.feedBlocks blocks (sums.feedAll block).reduce rest := rfl
    have same := (congruent_reduce (sums.feedAll block)).feedAll rest
    rw [whole] at same
    by_cases last : 0 < blocks ∨ rest ≠ []
    · rw [step, ih _ _ last, same.reduce_eq]
    · obtain ⟨none, empty⟩ : blocks = 0 ∧ rest = [] := by
        simpa only [not_or, Nat.not_lt, Nat.le_zero, not_not] using last
      rw [empty] at same
      rw [step, none, empty, ← same.reduce_eq]
      exact (Congruent.reduce_eq (congruent_reduce _)).symm

/-- One subtraction is a full reduction below `2 * base`, and leaves one `base` too many just above. -/
theorem reduceOnce_eq {sum : Nat} (small : sum < 3 * base) :
    Sums.reduceOnce sum = sum % base + if 2 * base ≤ sum then base else 0 := by
  unfold Sums.reduceOnce base at *
  split <;> split <;> omega

theorem ofSeed_low_lt (seed : Int) : (Sums.ofSeed seed).low < halfCount :=
  Nat.mod_lt _ (by decide)

theorem ofSeed_high_lt (seed : Int) : (Sums.ofSeed seed).high < halfCount := by
  simp only [Sums.ofSeed, halfCount]
  omega

theorem word_low {sums : Sums} (small : sums.low < halfCount) : sums.word % halfCount = sums.low := by
  rw [Sums.word, Nat.add_mul_mod_self_left, Nat.mod_eq_of_lt small]

theorem word_high {sums : Sums} (small : sums.low < halfCount) : sums.word / halfCount = sums.high := by
  rw [Sums.word, Nat.add_mul_div_left _ _ (by decide), Nat.div_eq_of_lt small, Nat.zero_add]

theorem word_lt {sums : Sums} (low : sums.low < halfCount) (high : sums.high < halfCount) : sums.word < 2 ^ 32 := by
  simp only [Sums.word, halfCount] at *
  omega

theorem feedAll_low_le (sums : Sums) (data : Bytes) : (sums.feedAll data).low ≤ sums.low + 255 * data.length := by
  induction data generalizing sums with
  | nil => exact Nat.le_refl _
  | cons byte rest ih =>
    have bound := ih (sums.feed byte)
    have small := byte.toNat_lt
    simp only [Sums.feed] at bound
    simp only [List.length_cons]
    change ((sums.feed byte).feedAll rest).low ≤ _
    simp only [Sums.feed]
    omega

/-- The one value that is not reduced: the high half after a single byte, when a subtraction does not reduce it. -/
def excess (seed : Int) (data : Bytes) : Nat :=
  if data.length = 1 ∧ 2 * base ≤ (Sums.ofSeed seed).high + ((Sums.ofSeed seed).feedAll data).low % base then base
  else 0

theorem excess_of_length_ne_one {seed : Int} {data : Bytes} (several : data.length ≠ 1) : excess seed data = 0 := by
  simp [excess, several]

/-- Both halves of the seed are below the base. -/
def Reduced (seed : Int) : Prop :=
  (Sums.ofSeed seed).low < base ∧ (Sums.ofSeed seed).high < base

instance (seed : Int) : Decidable (Reduced seed) :=
  inferInstanceAs (Decidable (_ ∧ _))

theorem excess_of_reduced {seed : Int} (reduced : Reduced seed) (data : Bytes) : excess seed data = 0 := by
  have low : ((Sums.ofSeed seed).feedAll data).low % base < base := Nat.mod_lt _ (by decide)
  have high := reduced.2
  rw [excess, if_neg]
  rintro ⟨-, above⟩
  omega

/-- The high sum is fed the low one, which may come reduced already. -/
theorem high_feed_mod (sums : Sums) (byte : UInt8) :
    (sums.high + (sums.feed byte).low % base) % base = (sums.feed byte).high % base := by
  simp only [Sums.feed, Nat.add_mod, Nat.mod_mod]

private theorem resumeByte_eq (seed : Int) (byte : UInt8) :
    let fed := (Sums.ofSeed seed).feedAll [byte]
    resumeByte (.ofSeed seed) byte = Sums.word ⟨fed.low % base, fed.high % base + excess seed [byte]⟩ := by
  intro fed
  have lowBound := ofSeed_low_lt seed
  have highBound := ofSeed_high_lt seed
  have byteBound := byte.toNat_lt
  have low : Sums.reduceOnce fed.low = fed.low % base := by
    have small : fed.low < 2 * base := by
      change (Sums.ofSeed seed).low + byte.toNat < _
      simp only [base, halfCount] at *
      omega
    rw [reduceOnce_eq (by omega), if_neg (by omega), Nat.add_zero]
  have high : Sums.reduceOnce ((Sums.ofSeed seed).high + fed.low % base) =
      fed.high % base + excess seed [byte] := by
    have small : (Sums.ofSeed seed).high + fed.low % base < 3 * base := by
      have reduced : fed.low % base < base := Nat.mod_lt _ (by decide)
      simp only [base, halfCount] at *
      omega
    rw [reduceOnce_eq small]
    simp only [excess, List.length_singleton, true_and]
    exact congrArg (· + _) (high_feed_mod _ byte)
  change Sums.word ⟨Sums.reduceOnce fed.low, Sums.reduceOnce ((Sums.ofSeed seed).high + Sums.reduceOnce fed.low)⟩ = _
  rw [low, high]

private theorem resumeShort_eq (seed : Int) (data : Bytes) (short : data.length < shortLength) :
    let fed := (Sums.ofSeed seed).feedAll data
    resumeShort (.ofSeed seed) data = fed.reduce.word := by
  intro fed
  have lowBound := ofSeed_low_lt seed
  have fedBound : fed.low ≤ _ := feedAll_low_le (.ofSeed seed) data
  have small : fed.low < 2 * base := by
    simp only [base, halfCount, shortLength] at *
    omega
  change Sums.word ⟨Sums.reduceOnce fed.low, fed.high % base⟩ = _
  rw [reduceOnce_eq (by omega), if_neg (by omega)]
  rfl

private theorem resumeLong_eq (seed : Int) (data : Bytes) (long : ¬ data.length < shortLength) :
    let fed := (Sums.ofSeed seed).feedAll data
    resumeLong (.ofSeed seed) data = fed.reduce.word := by
  have present : data ≠ [] := by
    intro empty
    exact long (empty ▸ by decide)
  exact congrArg Sums.word (feedBlocks_eq _ _ _ (Or.inr present))

theorem resume_of_length_ne_one (seed : Int) {data : Bytes} (several : data.length ≠ 1) :
    resume seed (some data) =
      if data.length < shortLength then resumeShort (.ofSeed seed) data else resumeLong (.ofSeed seed) data := by
  match data with
  | [] => rfl
  | [_] => exact absurd rfl several
  | _ :: _ :: _ => rfl

/-- Whichever way is taken, all bytes are fed first and both sums are reduced then. -/
theorem resume_eq (seed : Int) (data : Bytes) :
    let fed := (Sums.ofSeed seed).feedAll data
    resume seed (some data) = Sums.word ⟨fed.low % base, fed.high % base + excess seed data⟩ := by
  intro fed
  by_cases single : data.length = 1
  · obtain ⟨byte, rfl⟩ := List.length_eq_one_iff.mp single
    exact resumeByte_eq seed byte
  · rw [resume_of_length_ne_one seed single, excess_of_length_ne_one single]
    split
    next short => exact resumeShort_eq seed data short
    next long => exact resumeLong_eq seed data long

/-- From a reduced seed both halves come out reduced, and no way of computing shows. -/
theorem resume_of_reduced {seed : Int} (reduced : Reduced seed) (data : Bytes) :
    resume seed (some data) = ((Sums.ofSeed seed).feedAll data).reduce.word := by
  rw [resume_eq, excess_of_reduced reduced]
  rfl

/-- Both halves fit, also the one that is not reduced: then it is what little its sum has above `2 * base`. -/
theorem high_lt (seed : Int) (data : Bytes) :
    ((Sums.ofSeed seed).feedAll data).high % base + excess seed data < halfCount := by
  have highBound := ofSeed_high_lt seed
  have reduced : ((Sums.ofSeed seed).feedAll data).high % base < base := Nat.mod_lt _ (by decide)
  unfold excess
  split
  next exceeds =>
    obtain ⟨single, above⟩ := exceeds
    obtain ⟨byte, rfl⟩ := List.length_eq_one_iff.mp single
    have residue : _ = ((Sums.ofSeed seed).feedAll [byte]).high % base := high_feed_mod (.ofSeed seed) byte
    change _ ≤ (Sums.ofSeed seed).high + ((Sums.ofSeed seed).feed byte).low % base at above
    have lowReduced : ((Sums.ofSeed seed).feed byte).low % base < base := Nat.mod_lt _ (by decide)
    simp only [base, halfCount] at *
    omega
  next =>
    simp only [base, halfCount] at *
    omega

private theorem low_lt (sums : Sums) : sums.low % base < halfCount :=
  Nat.lt_trans (Nat.mod_lt _ (by decide)) (by decide)

/-- A checksum is a word, whatever the seed. -/
theorem resume_lt (seed : Int) (data : Option Bytes) : resume seed data < 2 ^ 32 := by
  cases data with
  | none =>
    change ofNothing < _
    decide
  | some data =>
    rw [resume_eq]
    exact word_lt (low_lt _) (high_lt seed data)

theorem compute_lt (region : Bytes) : compute region < 2 ^ 32 := by
  unfold compute
  split
  · decide
  · exact resume_lt _ _

/-- Every byte counts once in the low half, and in the high half once for each byte from it on; the seed's halves count
with them. Only a single byte after a seed with a high half beyond `base` may leave the high half unreduced. -/
theorem resume_closed_form (seed : Int) (data : Bytes) :
    let low := (seed % 2 ^ 32).toNat % 2 ^ 16
    let high := (seed % 2 ^ 32).toNat / 2 ^ 16
    let lowSum := low + ∑ i : Fin data.length, data[i].toNat
    let highSum := high + data.length * low + ∑ i : Fin data.length, (data.length - i) * data[i].toNat
    resume seed (some data) < 2 ^ 32 ∧
      resume seed (some data) % 2 ^ 16 = lowSum % 65521 ∧
      resume seed (some data) / 2 ^ 16 =
        highSum % 65521 + if data.length = 1 ∧ 2 * 65521 ≤ high + lowSum % 65521 then 65521 else 0 := by
  intro low high lowSum highSum
  let fed := (Sums.ofSeed seed).feedAll data
  have fedLow : fed.low = lowSum := feedAll_low (.ofSeed seed) data
  have fedHigh : fed.high = highSum := feedAll_high (.ofSeed seed) data
  have beyond : excess seed data = if data.length = 1 ∧ 2 * 65521 ≤ high + lowSum % 65521 then 65521 else 0 := by
    rw [← fedLow]
    rfl
  have whole := resume_eq seed data
  refine ⟨resume_lt seed (some data), ?_, ?_⟩
  · rw [whole, ← fedLow]
    exact word_low (low_lt fed)
  · rw [whole, ← fedHigh, ← beyond]
    exact word_high (low_lt fed)

/-- The exception does occur: 13 is left of the sum beyond `2 * base`. -/
example : resume 0xfffffff0 (some [0]) / 2 ^ 16 = 13 + 65521 := by decide

end CacheSeal.Proofs.ChecksumForm
