import CacheSeal.Proofs.CacheOperations

/-! What a rehash is to a validation. A checksum is good in one way only: its four bytes are those of the region's
checksum, which no byte of the header enters. So a rehash has no choice, and it changes something just if the checksum
was not good before. -/

namespace CacheSeal.Cache
variable {layout : Layout} {buffer other : Bytes}

theorem region_of_agreeOutside {start stop : Nat} (agree : Bytes.AgreeOutside start stop buffer other)
    (before : stop ≤ layout.headerSize) : region layout other = region layout buffer :=
  agree.drop_eq before

theorem rehashed_iff {result : Rehash} (rehashed : rehash layout buffer = .ok result) :
    Bytes.AgreeOutside 24 28 buffer other ∧ Reports layout other .agrees ↔ other = result.data := by
  obtain ⟨fits, -⟩ := rehash_data rehashed
  rw [Rehash.data_eq_iff rehashed]
  apply and_congr_right
  intro agree
  rw [reports_agrees_iff (agree.sameLength ▸ fits), checksumBytes, checksumBytes,
    region_of_agreeOutside agree layout.unalignedSize_le_headerSize]

theorem Rehash.isChanged_iff {result : Rehash} (rehashed : rehash layout buffer = .ok result) :
    result.isChanged = true ↔ Reports layout buffer .differs := by
  obtain ⟨fits, -⟩ := rehash_data rehashed
  obtain ⟨notices, done⟩ := rehash_ok fits
  cases done.symm.trans rehashed
  rw [reports_differs_iff fits, Ne, ← word_checksum_iff fits]
  simp [Rehash.isChanged]

theorem Rehash.data_ne_iff {result : Rehash} (rehashed : rehash layout buffer = .ok result) :
    result.data ≠ buffer ↔ Reports layout buffer .differs := by
  obtain ⟨fits, -⟩ := rehash_data rehashed
  rw [reports_differs_iff fits, ne_comm, Ne, Rehash.data_eq_iff rehashed,
    and_iff_right (Bytes.agreeOutside_refl 24 28 buffer)]

/-- A good checksum is written once more. -/
theorem rehash_of_agrees (agrees : Reports layout buffer .agrees) :
    ∃ result, rehash layout buffer = .ok result ∧ result.data = buffer ∧ result.isChanged = false := by
  obtain ⟨fits, -⟩ := reports_iff.mp agrees
  have good : ¬ Reports layout buffer .differs := by
    rw [reports_differs_iff fits, not_not, ← reports_agrees_iff fits]
    exact agrees
  obtain ⟨notices, done⟩ := rehash_ok fits
  refine ⟨_, done, ?_, ?_⟩
  · by_contra different
    exact good ((Rehash.data_ne_iff done).mp different)
  · rw [Bool.eq_false_iff]
    intro changed
    exact good ((Rehash.isChanged_iff done).mp changed)

/-- A rehash makes the only buffer with a good checksum that has all other bytes of the old one. It tells of a change
just if it makes one, which is if the old checksum was not good, so a second rehash makes none; and the checksums that
it tells of are those that a validation does. -/
theorem rehash_unique (fits : layout.headerSize ≤ buffer.length) :
    ∃ result validation, rehash layout buffer = .ok result ∧ validate layout buffer = .ok validation ∧
      (∀ other, Bytes.AgreeOutside 24 28 buffer other ∧ Reports layout other .agrees ↔ other = result.data) ∧
      (result.isChanged = true ↔ validation.verdict = .differs) ∧
      (result.data ≠ buffer ↔ validation.verdict = .differs) ∧
      result.previous = validation.header.checksum ∧ result.new = validation.computed ∧
      ∃ again, rehash layout result.data = .ok again ∧ again.data = result.data ∧ again.isChanged = false := by
  obtain ⟨notices, rehashed⟩ := rehash_ok fits
  have validated := validate_ok fits
  have reported (validation : Validation) (told : validate layout buffer = .ok validation) :
      Reports layout buffer .differs ↔ validation.verdict = .differs := by
    simp [Reports, told]
  refine ⟨_, _, rehashed, validated, fun other => rehashed_iff rehashed, ?_, ?_, rfl, rfl, ?_⟩
  · rw [Rehash.isChanged_iff rehashed, reported _ validated]
  · rw [Rehash.data_ne_iff rehashed, reported _ validated]
  · exact rehash_of_agrees ((rehashed_iff rehashed).mpr rfl).2

/-- One byte behind a wide header, and a checksum that is not its own. -/
def staleCache : Bytes :=
  List.replicate 24 0 ++ [0, 0, 0, 9] ++ List.replicate 4 0 ++ [2]

def freshCache : Bytes :=
  staleCache.splice 24 [0, 2, 0, 2]

theorem rehash_unique_stale :
    Layout.headerSize ⟨.w64, .big, .whole⟩ ≤ staleCache.length ∧
      ∃ result, rehash ⟨.w64, .big, .whole⟩ staleCache = .ok result ∧ result.isChanged = true ∧
        freshCache = result.data := by
  have fits : Layout.headerSize ⟨.w64, .big, .whole⟩ ≤ staleCache.length := by decide
  obtain ⟨result, validation, rehashed, validated, only, changed, -⟩ := rehash_unique fits
  cases (validate_ok fits).symm.trans validated
  have window : (24 : Nat) + [(0 : UInt8), 2, 0, 2].length = 28 := rfl
  have agree := ((Bytes.eq_splice_iff window (by decide)).mp (rfl : freshCache = staleCache.splice 24 [0, 2, 0, 2])).1
  exact ⟨fits, result, rehashed, changed.mpr (by decide), (only freshCache).mp ⟨agree, reports_iff.mpr (by decide)⟩⟩

end CacheSeal.Cache
