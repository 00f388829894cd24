import CacheSeal.Proofs.CorruptionDetection

/-! A cache judged under the wrong pointer width. The narrow header takes the padding of the wide one into the region. A
few bytes in front of a region are too little to vanish from the low sum, so they go unnoticed only as zeros; and alone
they never have the checksum of nothing. -/

namespace CacheSeal

namespace Proofs.PointerWidths
open Checksum ChecksumForm CorruptionDetection

theorem feedAll_low_eq_iff {sums : Sums} {data : Bytes} :
    (sums.feedAll data).low = sums.low ↔ ∀ byte ∈ data, byte = 0 := by
  rw [feedAll_low, Nat.add_eq_left, Finset.sum_eq_zero_iff, List.forall_mem_iff_getElem]
  constructor
  · intro zeros place inside
    exact UInt8.toNat_inj.mp (zeros ⟨place, inside⟩ (Finset.mem_univ _))
  · intro zeros place _
    exact congrArg UInt8.toNat (zeros place place.isLt)

theorem fed_zeros {padding : Bytes} (zeros : ∀ byte ∈ padding, byte = 0) : fed padding = .ofSeed 0 := by
  induction padding with
  | nil => rfl
  | cons byte rest ih =>
    obtain ⟨rfl, others⟩ := List.forall_mem_cons.mp zeros
    exact ih others

theorem fed_low_lt {padding : Bytes} (few : padding.length ≤ 256) : (fed padding).low < base := by
  have bound : (fed padding).low ≤ _ := feedAll_low_le (.ofSeed 0) padding
  have start : (Sums.ofSeed 0).low = 0 := rfl
  simp only [base] at *
  omega

/-- The last byte adds the whole low sum to the high one, and no byte adds more. -/
theorem fed_high_bounds {data : Bytes} (present : data ≠ []) :
    (fed data).low ≤ (fed data).high ∧ (fed data).high ≤ data.length * (fed data).low := by
  constructor
  · obtain ⟨before, last, rfl⟩ := (List.eq_nil_or_concat data).resolve_left present
    rw [List.concat_eq_append, fed, feedAll_append]
    exact Nat.le_add_left _ _
  · rw [fed_low, fed_high, Finset.mul_sum]
    apply Finset.sum_le_sum
    intro place _
    exact Nat.mul_le_mul_right _ (Nat.sub_le _ _)

/-- Up to 256 bytes in front of a region go unnoticed just if all are zero. -/
theorem compute_append_iff {padding payload : Bytes} (few : padding.length ≤ 256) (present : payload ≠ []) :
    compute (padding ++ payload) = compute payload ↔ ∀ byte ∈ padding, byte = 0 := by
  have whole : padding ++ payload ≠ [] := List.append_ne_nil_of_right_ne_nil padding present
  have joined : fed (padding ++ payload) = (fed padding).feedAll payload := feedAll_append _ _ _
  constructor
  · intro same
    have low := (congruent_of_compute_eq whole present same).1
    rw [joined, feedAll_low (fed padding), feedAll_low (.ofSeed 0) payload] at low
    have vanishes : (fed padding).low ≡ (Sums.ofSeed 0).low [MOD base] := low.add_right_cancel' _
    exact feedAll_low_eq_iff.mp (vanishes.eq_of_lt_of_lt (fed_low_lt few) (by decide))
  · intro zeros
    rw [compute_eq_word whole, compute_eq_word present, joined, fed_zeros zeros]

theorem compute_ne_ofNothing {padding : Bytes} (few : padding.length ≤ 256) (present : padding ≠ []) :
    compute padding ≠ ofNothing := by
  intro same
  rw [compute_eq_word present] at same
  have lowFits := fed_low_lt few
  obtain ⟨atLeast, atMost⟩ := fed_high_bounds present
  have reduced : (fed padding).reduce.low = (fed padding).low := Nat.mod_eq_of_lt lowFits
  have fits : (fed padding).reduce.low < halfCount := by
    rw [reduced]
    exact Nat.lt_trans lowFits (by decide)
  have low := congrArg (· % halfCount) same
  have high := congrArg (· / halfCount) same
  rw [word_low fits, reduced] at low
  rw [word_high fits] at high
  -- a low sum of one is a single one among zeros, which the high sum counts at most 256 times
  change (fed padding).low = 1 at low
  change (fed padding).high % base = 0 at high
  rw [low] at atLeast atMost
  simp only [base] at high
  omega

end Proofs.PointerWidths

namespace Cache
open Checksum Proofs.PointerWidths
variable {order : ByteOrder} {spelling otherSpelling : WidthSpelling} {buffer : Bytes}

theorem headerSize_narrow (order : ByteOrder) (spelling : WidthSpelling) :
    Layout.headerSize ⟨.w32, order, spelling⟩ = 28 :=
  Layout.headerSize_eq _

theorem headerSize_wide (order : ByteOrder) (spelling : WidthSpelling) :
    Layout.headerSize ⟨.w64, order, spelling⟩ = 32 :=
  Layout.headerSize_eq _

/-- The bytes that only the wide header has. -/
def padding (buffer : Bytes) : Bytes :=
  buffer.extract 28 32

theorem region_narrow :
    region ⟨.w32, order, spelling⟩ buffer = padding buffer ++ region ⟨.w64, order, otherSpelling⟩ buffer := by
  have behind : buffer.drop 32 = (buffer.drop 28).drop 4 := by rw [List.drop_drop]
  rw [region, region, headerSize_narrow, headerSize_wide, padding, List.extract_eq_take_drop, behind]
  exact (List.take_append_drop 4 _).symm

theorem length_padding (fits : 32 ≤ buffer.length) : (padding buffer).length = 4 :=
  Bytes.length_extract fits

theorem computed_eq_iff (order : ByteOrder) (spelling otherSpelling : WidthSpelling) (longer : 32 < buffer.length) :
    compute (region ⟨.w32, order, spelling⟩ buffer) = compute (region ⟨.w64, order, otherSpelling⟩ buffer) ↔
      padding buffer = List.replicate 4 0 := by
  have four := length_padding longer.le
  have present : region ⟨.w64, order, otherSpelling⟩ buffer ≠ [] := by
    rw [region, headerSize_wide, ← List.length_pos_iff, List.length_drop]
    omega
  rw [region_narrow, compute_append_iff (by omega) present, List.eq_replicate_iff]
  exact (and_iff_right four).symm

theorem computed_ne (order : ByteOrder) (spelling otherSpelling : WidthSpelling) (bare : buffer.length = 32) :
    compute (region ⟨.w32, order, spelling⟩ buffer) ≠ compute (region ⟨.w64, order, otherSpelling⟩ buffer) := by
  have four := length_padding bare.ge
  have nothing : region ⟨.w64, order, otherSpelling⟩ buffer = [] := by
    rw [region, headerSize_wide, List.drop_eq_nil_of_le bare.le]
  rw [region_narrow, nothing, List.append_nil]
  exact compute_ne_ofNothing (by omega) (List.ne_nil_of_length_pos (by omega))

/-- A buffer that holds the wider header is judged under either width. Without a region behind it the two checksums
differ; with one they are the same just if the padding is zero, and then so are the verdict and what a rehash makes. -/
theorem widths_agree_iff (order : ByteOrder) (spelling otherSpelling : WidthSpelling) (fits : 32 ≤ buffer.length) :
    ∃ narrow wide, validate ⟨.w32, order, spelling⟩ buffer = .ok narrow ∧
      validate ⟨.w64, order, otherSpelling⟩ buffer = .ok wide ∧
      (buffer.length = 32 → narrow.computed ≠ wide.computed) ∧
      (32 < buffer.length → (narrow.computed = wide.computed ↔ buffer.extract 28 32 = [0, 0, 0, 0])) ∧
      (narrow.computed = wide.computed → narrow.verdict = wide.verdict ∧
        ∃ first second, rehash ⟨.w32, order, spelling⟩ buffer = .ok first ∧
          rehash ⟨.w64, order, otherSpelling⟩ buffer = .ok second ∧ first.data = second.data) := by
  have narrowFits : Layout.headerSize ⟨.w32, order, spelling⟩ ≤ buffer.length := by
    rw [headerSize_narrow]
    omega
  have wideFits : Layout.headerSize ⟨.w64, order, otherSpelling⟩ ≤ buffer.length := by
    rwa [headerSize_wide]
  refine ⟨_, _, validate_ok narrowFits, validate_ok wideFits, ?_, ?_, ?_⟩
  · intro bare same
    exact computed_ne order spelling otherSpelling bare (Int.ofNat.inj same)
  · intro longer
    rw [Nat.cast_inj]
    exact computed_eq_iff order spelling otherSpelling longer
  · intro same
    have computed := Int.ofNat.inj same
    obtain ⟨_, first⟩ := rehash_ok narrowFits
    obtain ⟨_, second⟩ := rehash_ok wideFits
    refine ⟨?_, _, _, first, second, ?_⟩
    · simp only [computed]
      rfl
    · simp only [checksumBytes, computed]

/-- A wide header without anything in it, and one byte behind it. -/
def barePadded : Bytes :=
  List.replicate 32 0 ++ [1]

theorem widths_agree_on_zeros :
    32 ≤ barePadded.length ∧ ∃ narrow wide, validate ⟨.w32, .big, .whole⟩ barePadded = .ok narrow ∧
      validate ⟨.w64, .big, .whole⟩ barePadded = .ok wide ∧ narrow.computed = wide.computed ∧
      narrow.verdict = wide.verdict := by
  have fits : 32 ≤ barePadded.length := by decide
  obtain ⟨narrow, wide, first, second, -, zeros, same⟩ := widths_agree_iff .big .whole .whole fits
  have computed := (zeros (by decide)).mpr rfl
  exact ⟨fits, narrow, wide, first, second, computed, (same computed).1⟩

end Cache

end CacheSeal
