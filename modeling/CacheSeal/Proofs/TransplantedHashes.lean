import CacheSeal.Proofs.RehashedCaches

/-! What a transplant is in bytes. Reading the three hashes of the donor and writing them one by one copies a window of
twelve bytes, in whichever order words are stored; all that a validation looks at lies behind that window. -/

namespace CacheSeal

namespace Cache
variable {layout : Layout} {buffer donor : Bytes} {result : Transplant}

/-- The hashes are the same just if their bytes are. -/
theorem hashes_eq_iff (fits : layout.headerSize ≤ buffer.length) (donorFits : layout.headerSize ≤ donor.length) :
    (∀ field ∈ Field.transplanted, Header.word layout buffer field = Header.word layout donor field) ↔
      buffer.extract 4 16 = donor.extract 4 16 := by
  have room := Layout.fields_fit fits
  have donorRoom := Layout.fields_fit donorFits
  have word (field : Field) : Header.word layout buffer field = Header.word layout donor field ↔
      buffer.extract field.offset (field.offset + Field.wordSize) =
        donor.extract field.offset (field.offset + Field.wordSize) := by
    rw [Header.word_eq_iff (Header.field_inside fits field) (Header.word_lt layout (Header.field_inside donorFits field)),
      Header.encode_word layout (Header.field_inside donorFits field)]
  rw [Bytes.extract_eq_extract_iff 4 8 16 (by omega) (by omega) (by omega) (by omega),
    Bytes.extract_eq_extract_iff 8 12 16 (by omega) (by omega) (by omega) (by omega)]
  simp only [Field.transplanted, List.forall_mem_cons, word]
  simp [Field.offset, Field.index, Field.wordSize]

theorem transplant_error_iff (layout : Layout) (buffer donor : Bytes) (error : Header.Truncated) :
    transplant layout buffer donor = .error error ↔
      buffer.length < layout.headerSize ∧ error = ⟨buffer.length, layout.headerSize⟩ ∨
      layout.headerSize ≤ buffer.length ∧ donor.length < layout.headerSize ∧
        error = ⟨donor.length, layout.headerSize⟩ := by
  by_cases fits : layout.headerSize ≤ buffer.length
  · by_cases donorFits : layout.headerSize ≤ donor.length
    · simp [transplant_ok fits donorFits, Nat.not_lt.mpr fits, Nat.not_lt.mpr donorFits]
    · simp [transplant_donor_error fits (Nat.lt_of_not_le donorFits), fits, Nat.lt_of_not_le donorFits, eq_comm]
  · simp [transplant_error (Nat.lt_of_not_le fits), fits, Nat.lt_of_not_le fits, eq_comm]

theorem Transplant.isChanged_iff (transplanted : transplant layout buffer donor = .ok result) :
    result.isChanged = true ↔ result.data ≠ buffer := by
  obtain ⟨fits, donorFits, -⟩ := transplant_data transplanted
  rw [ne_comm, Ne, Transplant.data_eq_iff transplanted, and_iff_right (Bytes.agreeOutside_refl 4 16 buffer),
    ← hashes_eq_iff fits donorFits]
  cases (transplant_ok fits donorFits).symm.trans transplanted
  simp [Transplant.isChanged]

/-- Only what stands from the checksum on enters a verdict. -/
theorem validate_of_agreeOutside {other : Bytes} {start stop : Nat} (agree : Bytes.AgreeOutside start stop buffer other)
    (before : stop ≤ Field.offset .checksum) (fits : layout.headerSize ≤ buffer.length) :
    ∃ first second, validate layout buffer = .ok first ∧ validate layout other = .ok second ∧
      second.computed = first.computed ∧ second.header.checksum = first.header.checksum ∧
      second.verdict = first.verdict := by
  have inHeader : Field.offset .checksum ≤ layout.headerSize :=
    Nat.le_trans (by decide) layout.unalignedSize_le_headerSize
  have computed := region_of_agreeOutside agree (Nat.le_trans before inHeader)
  have stored : Header.word layout other .checksum = Header.word layout buffer .checksum :=
    Header.word_of_agreeOutside agree (Or.inr before)
  refine ⟨_, _, validate_ok fits, validate_ok (agree.sameLength ▸ fits), ?_, ?_, ?_⟩
  · rw [computed]
  · exact congrArg Int.ofNat stored
  · rw [stored, computed]

/-- The hashes of a header, by their fields. -/
def hashes (header : Header) : List (Field × Int) :=
  [(.versionHash, header.versionHash), (.sourceHash, header.sourceHash), (.flagHash, header.flagHash)]

/-- What a transplant has done that went well. -/
structure Grafted (layout : Layout) (buffer donor : Bytes) (result : Transplant) : Prop where
  kept : Bytes.AgreeOutside 4 16 buffer result.data
  copied : result.data.extract 4 16 = donor.extract 4 16
  /-- Neither the order of bytes nor any other byte of the donor has a part in it. -/
  only : ∀ order other, layout.headerSize ≤ other.length → other.extract 4 16 = donor.extract 4 16 →
    ∃ same, transplant { layout with order } buffer other = .ok same ∧ same.data = result.data
  judged : ∃ first second, validate layout buffer = .ok first ∧ validate layout result.data = .ok second ∧
    second.computed = first.computed ∧ second.header.checksum = first.header.checksum ∧ second.verdict = first.verdict
  told : ∃ header source, Header.read layout buffer = .ok header ∧ Header.read layout donor = .ok source ∧
    result.previous = hashes header ∧ result.transplanted = hashes source
  changed : result.isChanged = true ↔ result.data ≠ buffer
  undone : ∃ restored, transplant layout result.data buffer = .ok restored ∧ restored.data = buffer

/-- A transplant fails just if the buffer or the donor is too short, and the buffer is judged first. Else it copies the
bytes of the hashes and nothing more, leaves the verdict as it was, tells a change just if it makes one, and can be undone
with the old buffer as donor. -/
theorem transplant_outcome (layout : Layout) (buffer donor : Bytes) :
    (∀ error, transplant layout buffer donor = .error error ↔
      buffer.length < layout.headerSize ∧ error = ⟨buffer.length, layout.headerSize⟩ ∨
      layout.headerSize ≤ buffer.length ∧ donor.length < layout.headerSize ∧
        error = ⟨donor.length, layout.headerSize⟩) ∧
    ∀ result, transplant layout buffer donor = .ok result → Grafted layout buffer donor result := by
  refine ⟨transplant_error_iff layout buffer donor, ?_⟩
  intro result transplanted
  obtain ⟨fits, donorFits, written⟩ := transplant_data transplanted
  obtain ⟨kept, copied⟩ := (Transplant.data_eq_iff transplanted).mp rfl
  have resultFits : layout.headerSize ≤ result.data.length := kept.sameLength ▸ fits
  refine ⟨kept, copied, ?_, ?_, ?_, Transplant.isChanged_iff transplanted, ?_⟩
  · intro order other otherFits sameHashes
    have same : Layout.headerSize { layout with order } = layout.headerSize := rfl
    refine ⟨_, transplant_ok (same ▸ fits) (same ▸ otherFits), ?_⟩
    rw [written, ← sameHashes]
  · exact validate_of_agreeOutside kept (by decide) fits
  · refine ⟨_, _, Header.read_ok fits, Header.read_ok donorFits, ?_⟩
    cases (transplant_ok fits donorFits).symm.trans transplanted
    exact ⟨rfl, rfl⟩
  · have back := transplant_ok resultFits fits
    refine ⟨_, back, ?_⟩
    exact ((Transplant.data_eq_iff back).mpr ⟨kept.symm, rfl⟩).symm

def uniformCache : Bytes :=
  List.replicate 28 1

def countingCache : Bytes :=
  (List.range 32).map UInt8.ofNat

theorem transplant_outcome_counting :
    ∃ result, transplant ⟨.w32, .big, .whole⟩ uniformCache countingCache = .ok result ∧ result.isChanged = true ∧
      result.data = List.replicate 4 1 ++ [4, 5, 6, 7, 8, 9, 10, 11, 12, 13, 14, 15] ++ List.replicate 12 1 ∧
      Grafted ⟨.w32, .big, .whole⟩ uniformCache countingCache result := by
  have fits : Layout.headerSize ⟨.w32, .big, .whole⟩ ≤ uniformCache.length := by decide
  have donorFits : Layout.headerSize ⟨.w32, .big, .whole⟩ ≤ countingCache.length := by decide
  have transplanted := transplant_ok fits donorFits
  have grafted := (transplant_outcome ⟨.w32, .big, .whole⟩ uniformCache countingCache).2 _ transplanted
  exact ⟨_, transplanted, grafted.changed.mpr (by decide), rfl, grafted⟩

end Cache

end CacheSeal
