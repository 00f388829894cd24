import CacheSeal.Proofs.CacheOperations
import Mathlib.Algebra.BigOperators.Ring.Finset
import Mathlib.Data.List.GetD
import Mathlib.RingTheory.Int.Basic
import Mathlib.Tactic.NormNum.Prime

/-! Which damage a checksum shows. What two regions differ by counts in the low sum as it is, and in the high sum as
often as bytes come from it on. A single change is too small to vanish modulo the base. Two changes that cancel in the
low sum leave one of them times their distance in the high sum, and the base is a prime. -/

namespace CacheSeal

/-- Two buffers of one length that hold different bytes at these places, and at no other. -/
structure Bytes.DifferAt (places : List Nat) (first second : Bytes) : Prop where
  sameLength : second.length = first.length
  differ_iff : ∀ place, first[place]? ≠ second[place]? ↔ place ∈ places

namespace Bytes
variable {places : List Nat} {first second : Bytes}

theorem DifferAt.drop {start : Nat} (differ : DifferAt places first second) (behind : ∀ place ∈ places, start ≤ place) :
    DifferAt (places.map (· - start)) (first.drop start) (second.drop start) := by
  refine ⟨by rw [List.length_drop, List.length_drop, differ.sameLength], ?_⟩
  intro place
  rw [List.getElem?_drop, List.getElem?_drop, differ.differ_iff, List.mem_map]
  constructor
  · intro inside
    exact ⟨start + place, inside, Nat.add_sub_cancel_left start place⟩
  · rintro ⟨original, inside, rfl⟩
    rwa [Nat.add_sub_cancel' (behind original inside)]

theorem DifferAt.extract_eq (differ : DifferAt places first second) (start : Nat) {stop : Nat}
    (behind : ∀ place ∈ places, stop ≤ place) : second.extract start stop = first.extract start stop := by
  apply List.ext_getElem?
  intro place
  rw [getElem?_extract, getElem?_extract]
  split
  · by_contra different
    have inside := (differ.differ_iff _).mp (Ne.symm different)
    have bound := behind _ inside
    omega
  · rfl

theorem differAt_set {data : Bytes} {place : Nat} {byte : UInt8} (inside : place < data.length)
    (other : data[place]? ≠ some byte) : DifferAt [place] data (data.set place byte) := by
  refine ⟨List.length_set, ?_⟩
  intro further
  rw [List.mem_singleton]
  by_cases here : further = place
  · rw [here, List.getElem?_set_self inside]
    exact iff_of_true other rfl
  · rw [List.getElem?_set_ne (Ne.symm here)]
    exact iff_of_false (fun different => different rfl) here

theorem differAt_exchange {data : Bytes} {place other : Nat} {byte otherByte : UInt8} (here : data[place]? = some byte)
    (there : data[other]? = some otherByte) (different : byte ≠ otherByte) :
    DifferAt [place, other] data ((data.set place otherByte).set other byte) := by
  have inside : place < data.length := (List.getElem?_eq_some_iff.mp here).1
  have otherInside : other < data.length := (List.getElem?_eq_some_iff.mp there).1
  refine ⟨by rw [List.length_set, List.length_set], ?_⟩
  intro further
  rw [List.mem_cons, List.mem_singleton]
  by_cases second : further = other
  · rw [second, List.getElem?_set_self (by rwa [List.length_set]), there]
    refine iff_of_true ?_ (Or.inr rfl)
    rw [Ne, Option.some.injEq]
    exact Ne.symm different
  rw [List.getElem?_set_ne (Ne.symm second)]
  by_cases first : further = place
  · rw [first, List.getElem?_set_self inside, here]
    refine iff_of_true ?_ (Or.inl rfl)
    rwa [Ne, Option.some.injEq]
  · rw [List.getElem?_set_ne (Ne.symm first)]
    exact iff_of_false (fun different => different rfl) (not_or.mpr ⟨first, second⟩)

end Bytes

namespace Proofs.CorruptionDetection
open Checksum

def change (first second : Bytes) (place : Nat) : ℤ :=
  (first.getD place 0).toNat - (second.getD place 0).toNat

section Change
variable {first second : Bytes} {places : List Nat} {place : Nat}

theorem change_bounds (first second : Bytes) (place : Nat) :
    -255 ≤ change first second place ∧ change first second place ≤ 255 := by
  have firstBound := (first.getD place 0).toNat_lt
  have secondBound := (second.getD place 0).toNat_lt
  unfold change
  omega

theorem change_eq_zero (differ : Bytes.DifferAt places first second) (outside : place ∉ places) :
    change first second place = 0 := by
  have same : first[place]? = second[place]? := by
    by_contra different
    exact outside ((differ.differ_iff place).mp different)
  rw [change, List.getD_eq_getElem?_getD, List.getD_eq_getElem?_getD, same, Int.sub_self]

theorem place_lt (differ : Bytes.DifferAt places first second) (inside : place ∈ places) : place < first.length := by
  have different := (differ.differ_iff place).mpr inside
  by_contra beyond
  apply different
  rw [List.getElem?_eq_none (by omega), List.getElem?_eq_none (by rw [differ.sameLength]; omega)]

theorem change_ne_zero (differ : Bytes.DifferAt places first second) (inside : place ∈ places) :
    change first second place ≠ 0 := by
  have bound := place_lt differ inside
  have otherBound : place < second.length := by rwa [differ.sameLength]
  have different := (differ.differ_iff place).mpr inside
  rw [List.getElem?_eq_getElem bound, List.getElem?_eq_getElem otherBound, Ne, Option.some.injEq] at different
  intro none
  rw [change, List.getD_eq_getElem _ _ bound, List.getD_eq_getElem _ _ otherBound] at none
  exact different (UInt8.toNat_inj.mp (by omega))

end Change

/-- The sums of a region, from nothing on. -/
abbrev fed (region : Bytes) : Sums :=
  (Sums.ofSeed 0).feedAll region

theorem fed_low (region : Bytes) :
    (fed region).low = ∑ place ∈ Finset.range region.length, (region.getD place 0).toNat := by
  rw [fed, ChecksumForm.feedAll_low, ← Fin.sum_univ_eq_sum_range fun place => (region.getD place 0).toNat]
  have start : (Sums.ofSeed 0).low = 0 := rfl
  rw [start, Nat.zero_add]
  apply Finset.sum_congr rfl
  intro place _
  rw [List.getD_eq_getElem _ _ place.isLt]
  rfl

theorem fed_high (region : Bytes) :
    (fed region).high =
      ∑ place ∈ Finset.range region.length, (region.length - place) * (region.getD place 0).toNat := by
  rw [fed, ChecksumForm.feedAll_high,
    ← Fin.sum_univ_eq_sum_range fun place => (region.length - place) * (region.getD place 0).toNat]
  have start : Sums.ofSeed 0 = ⟨0, 0⟩ := rfl
  simp only [start, Nat.mul_zero, Nat.zero_add]
  apply Finset.sum_congr rfl
  intro place _
  rw [List.getD_eq_getElem _ _ place.isLt]
  rfl

/-- The checksum of a region that is not empty holds its two sums, both reduced. -/
theorem compute_eq_word {region : Bytes} (present : region ≠ []) : compute region = (fed region).reduce.word := by
  rw [compute, if_neg (by rwa [List.isEmpty_iff]), ChecksumForm.resume_of_reduced (by decide)]

/-- Equal checksums are those of congruent sums. -/
theorem congruent_of_compute_eq {first second : Bytes} (present : first ≠ []) (otherPresent : second ≠ [])
    (same : compute first = compute second) : ChecksumForm.Congruent (fed first) (fed second) := by
  rw [compute_eq_word present, compute_eq_word otherPresent] at same
  have fits (sums : Sums) : sums.reduce.low < halfCount := Nat.lt_trans (Nat.mod_lt _ (by decide)) (by decide)
  constructor
  · have halves := congrArg (· % halfCount) same
    rwa [ChecksumForm.word_low (fits _), ChecksumForm.word_low (fits _)] at halves
  · have halves := congrArg (· / halfCount) same
    rwa [ChecksumForm.word_high (fits _), ChecksumForm.word_high (fits _)] at halves

/-- Equal checksums of regions of one length leave no difference in either sum, modulo the base. -/
theorem dvd_of_compute_eq {first second : Bytes} (present : first ≠ []) (sameLength : second.length = first.length)
    (same : compute first = compute second) :
    (base : ℤ) ∣ ∑ place ∈ Finset.range first.length, change first second place ∧
      (base : ℤ) ∣ ∑ place ∈ Finset.range first.length, ((first.length : ℤ) - place) * change first second place := by
  have otherPresent : second ≠ [] := by
    rw [← List.length_pos_iff] at *
    omega
  obtain ⟨low, high⟩ := congruent_of_compute_eq present otherPresent same
  constructor
  · have divides := low.symm.dvd
    rw [fed_low, fed_low, sameLength] at divides
    push_cast at divides
    rwa [← Finset.sum_sub_distrib] at divides
  · have divides := high.symm.dvd
    rw [fed_high, fed_high, sameLength] at divides
    push_cast at divides
    rw [← Finset.sum_sub_distrib] at divides
    convert divides using 2 with place member
    have bound := (Finset.mem_range.mp member).le
    rw [change, Nat.cast_sub bound, mul_sub]

theorem compute_ne_of_one {first second : Bytes} {place : Nat} (differ : Bytes.DifferAt [place] first second) :
    compute first ≠ compute second := by
  intro same
  have inside : place < first.length := place_lt differ (List.mem_singleton_self place)
  have present : first ≠ [] := List.ne_nil_of_length_pos (by omega)
  obtain ⟨low, -⟩ := dvd_of_compute_eq present differ.sameLength same
  rw [Finset.sum_eq_single_of_mem place (Finset.mem_range.mpr inside)
    fun other _ elsewhere => change_eq_zero differ (by simpa using elsewhere)] at low
  have bounds := change_bounds first second place
  have changed := change_ne_zero differ (List.mem_singleton_self place)
  simp only [base] at low
  omega

theorem prime_base : Prime (base : ℤ) := by
  apply Nat.prime_iff_prime_int.mp
  unfold base
  norm_num

theorem compute_ne_of_two {first second : Bytes} {place other : Nat} (apart : ¬ (base : ℤ) ∣ (place : ℤ) - other)
    (differ : Bytes.DifferAt [place, other] first second) : compute first ≠ compute second := by
  intro same
  have inside : place < first.length := place_lt differ (by simp)
  have otherInside : other < first.length := place_lt differ (by simp)
  have present : first ≠ [] := List.ne_nil_of_length_pos (by omega)
  have distinct : place ≠ other := by
    rintro rfl
    exact apart (by simp)
  have total (weight : Nat → ℤ) :
      ∑ further ∈ Finset.range first.length, weight further * change first second further =
        weight place * change first second place + weight other * change first second other := by
    apply Finset.sum_eq_add_of_mem _ _ (Finset.mem_range.mpr inside) (Finset.mem_range.mpr otherInside) distinct
    intro further _ elsewhere
    rw [change_eq_zero differ (by simpa using elsewhere), mul_zero]
  obtain ⟨low, high⟩ := dvd_of_compute_eq present differ.sameLength same
  rw [total] at high
  have plain := total fun _ => 1
  simp only [one_mul] at plain
  rw [plain] at low
  have bounds := change_bounds first second place
  have otherBounds := change_bounds first second other
  have changed := change_ne_zero differ (List.mem_cons_self : place ∈ [place, other])
  -- what cancels in the low sum is left in the high sum as often as the places are apart
  have cancels : change first second other = -change first second place := by
    simp only [base] at low
    omega
  have distance : (base : ℤ) ∣ ((other : ℤ) - place) * change first second place := by
    convert high using 1
    rw [cancels]
    ring
  rcases prime_base.dvd_or_dvd distance with far | small
  · exact apart (by rwa [dvd_sub_comm] at far)
  · simp only [base] at small
    omega

end Proofs.CorruptionDetection

namespace Cache
open Checksum Proofs.CorruptionDetection
variable {layout : Layout} {buffer damaged : Bytes}

/-- One byte behind the header is another, or two are whose distance is no multiple of the base; all else is the same. -/
inductive Damaged (layout : Layout) (buffer damaged : Bytes) : Prop where
  | one {place : Nat} (behind : layout.headerSize ≤ place) (differ : Bytes.DifferAt [place] buffer damaged)
  | two {place other : Nat} (behind : layout.headerSize ≤ place) (otherBehind : layout.headerSize ≤ other)
    (apart : ¬ (65521 : ℤ) ∣ (place : ℤ) - other) (differ : Bytes.DifferAt [place, other] buffer damaged)

theorem Damaged.compute_ne (damage : Damaged layout buffer damaged) :
    compute (region layout buffer) ≠ compute (region layout damaged) := by
  cases damage with
  | one behind differ => exact compute_ne_of_one (differ.drop (by simpa using behind))
  | two behind otherBehind apart differ =>
    refine compute_ne_of_two ?_ (differ.drop (by simp [behind, otherBehind]))
    rw [Nat.cast_sub behind, Nat.cast_sub otherBehind, sub_sub_sub_cancel_right]
    exact apart

/-- Damage behind the header is none to the stored checksum. -/
theorem Damaged.header_eq (damage : Damaged layout buffer damaged) :
    damaged.length = buffer.length ∧
      Header.word layout damaged .checksum = Header.word layout buffer .checksum := by
  have kept {places : List Nat} (differ : Bytes.DifferAt places buffer damaged)
      (behind : ∀ place ∈ places, layout.headerSize ≤ place) :
      Header.word layout damaged .checksum = Header.word layout buffer .checksum := by
    have window := differ.extract_eq (Field.offset .checksum) fun place inside =>
      Nat.le_trans layout.unalignedSize_le_headerSize (behind place inside)
    rw [Header.word_eq, Header.word_eq]
    exact congrArg layout.order.decode window
  cases damage with
  | one behind differ => exact ⟨differ.sameLength, kept differ (by simpa using behind)⟩
  | two behind otherBehind apart differ => exact ⟨differ.sameLength, kept differ (by simp [behind, otherBehind])⟩

theorem Damaged.reports (damage : Damaged layout buffer damaged) (agrees : Reports layout buffer .agrees) :
    Reports layout damaged .differs := by
  obtain ⟨fits, stored⟩ := reports_iff.mp agrees
  obtain ⟨sameLength, sameWord⟩ := damage.header_eq
  refine reports_iff.mpr ⟨by rwa [sameLength], if_neg ?_⟩
  rw [sameWord]
  split at stored
  next same => exact fun again => damage.compute_ne (same.symm.trans again)
  next => cases stored

/-- Damage of one byte, or of two, does not go unnoticed if the checksum was good. So no byte of the region can be
changed, and no two different ones less than the base apart exchanged. -/
theorem damage_reported (agrees : Reports layout buffer .agrees) :
    (∀ damaged, Damaged layout buffer damaged → Reports layout damaged .differs) ∧
      (∀ place byte, layout.headerSize ≤ place → place < buffer.length → buffer[place]? ≠ some byte →
        Reports layout (buffer.set place byte) .differs) ∧
      ∀ place other byte otherByte, layout.headerSize ≤ place → place < other → other - place < 65521 →
        buffer[place]? = some byte → buffer[other]? = some otherByte → byte ≠ otherByte →
        Reports layout ((buffer.set place otherByte).set other byte) .differs := by
  refine ⟨fun damaged damage => damage.reports agrees, ?_, ?_⟩
  · intro place byte behind inside different
    exact Damaged.reports (.one behind (Bytes.differAt_set inside different)) agrees
  · intro place other byte otherByte behind before near here there different
    refine Damaged.reports (.two behind (by omega) ?_ (Bytes.differAt_exchange here there different)) agrees
    omega

/-- Two bytes behind the smaller header, and their checksum. -/
def sealedPair : Bytes :=
  List.replicate 24 0 ++ [3, 0, 4, 0] ++ [1, 2]

theorem damage_reported_pair :
    Reports ⟨.w32, .little, .whole⟩ sealedPair .agrees ∧
      Reports ⟨.w32, .little, .whole⟩ ((sealedPair.set 28 2).set 29 1) .differs := by
  have agrees : Reports ⟨.w32, .little, .whole⟩ sealedPair .agrees := reports_iff.mpr (by decide)
  exact ⟨agrees, (damage_reported agrees).2.2 28 29 1 2 (by decide) (by decide) (by decide) rfl rfl (by decide)⟩

end Cache

end CacheSeal
