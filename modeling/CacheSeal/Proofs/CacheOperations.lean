import CacheSeal.Cache.Rehash
import CacheSeal.Cache.Transplant
import CacheSeal.Cache.Validation
import CacheSeal.Proofs.ChecksumForm
import CacheSeal.Proofs.HeaderBytes

/-! What the operations come to in bytes. Each succeeds exactly on buffers that hold a header, and writes one window of
it: a rehash the four bytes of the checksum, a transplant the twelve bytes of the hashes. -/

namespace CacheSeal.Cache
variable {layout : Layout} {buffer donor : Bytes}

/-- The bytes that the checksum of a buffer is stored as. -/
def checksumBytes (layout : Layout) (buffer : Bytes) : Bytes :=
  layout.order.encode (Checksum.compute (region layout buffer))

theorem length_checksumBytes (layout : Layout) (buffer : Bytes) : (checksumBytes layout buffer).length = 4 :=
  layout.order.length_encode _

theorem rehash_ok (fits : layout.headerSize ≤ buffer.length) :
    ∃ notices, rehash layout buffer = .ok
      ⟨buffer.splice 24 (checksumBytes layout buffer), Header.word layout buffer .checksum,
        Checksum.compute (region layout buffer), notices⟩ := by
  have small : Checksum.compute (region layout buffer) < Word.count := Proofs.ChecksumForm.compute_lt _
  have written : Header.put layout .checksum (Checksum.compute (region layout buffer)) buffer =
      buffer.splice 24 (checksumBytes layout buffer) := by
    rw [Header.put, Word.ofInt_natCast small]
    rfl
  simp only [rehash, Header.read_ok fits, Header.write_ok fits, written, bind, Except.bind, pure, Except.pure]
  exact ⟨_, rfl⟩

theorem rehash_error (short : buffer.length < layout.headerSize) :
    rehash layout buffer = .error ⟨buffer.length, layout.headerSize⟩ := by
  rw [rehash, Header.read_error short]
  rfl

/-- A rehash that ends well has written the checksum and nothing else. -/
theorem rehash_data {result : Rehash} (ended : rehash layout buffer = .ok result) :
    layout.headerSize ≤ buffer.length ∧ result.data = buffer.splice 24 (checksumBytes layout buffer) := by
  by_cases fits : layout.headerSize ≤ buffer.length
  · obtain ⟨notices, done⟩ := rehash_ok fits
    cases done.symm.trans ended
    exact ⟨fits, rfl⟩
  · cases (rehash_error (Nat.lt_of_not_le fits)).symm.trans ended

theorem Rehash.data_eq_iff {result : Rehash} (ended : rehash layout buffer = .ok result) {data : Bytes} :
    data = result.data ↔ Bytes.AgreeOutside 24 28 buffer data ∧ data.extract 24 28 = checksumBytes layout buffer := by
  obtain ⟨fits, written⟩ := rehash_data ended
  rw [written, Bytes.eq_splice_iff (by rw [length_checksumBytes]) (Layout.fields_fit fits)]

theorem validate_ok (fits : layout.headerSize ≤ buffer.length) :
    validate layout buffer = .ok {
      header := .ofFields fun field => Header.word layout buffer field
      computed := Checksum.compute (region layout buffer)
      verdict :=
        if Header.word layout buffer .checksum = Checksum.compute (region layout buffer) then .agrees else .differs
      headerSize := layout.headerSize
      fileSize := buffer.length
      layout } := by
  rw [validate, Header.read_ok fits]
  simp only [bind, Except.bind, pure, Except.pure, Header.ofFields, Nat.cast_inj]

theorem validate_error (short : buffer.length < layout.headerSize) :
    validate layout buffer = .error ⟨buffer.length, layout.headerSize⟩ := by
  rw [validate, Header.read_error short]
  rfl

/-- There is a report on the buffer, with this verdict. -/
def Reports (layout : Layout) (buffer : Bytes) (verdict : Verdict) : Prop :=
  ∃ validation, validate layout buffer = .ok validation ∧ validation.verdict = verdict

theorem reports_iff {verdict : Verdict} :
    Reports layout buffer verdict ↔ layout.headerSize ≤ buffer.length ∧
      (if Header.word layout buffer .checksum = Checksum.compute (region layout buffer) then .agrees else .differs) =
        verdict := by
  constructor
  · intro reports
    obtain ⟨validation, ran, same⟩ := reports
    by_cases fits : layout.headerSize ≤ buffer.length
    · rw [validate_ok fits] at ran
      cases ran
      exact ⟨fits, same⟩
    · rw [validate_error (Nat.lt_of_not_le fits)] at ran
      cases ran
  · intro stored
    obtain ⟨fits, same⟩ := stored
    exact ⟨_, validate_ok fits, same⟩

theorem word_checksum_iff (fits : layout.headerSize ≤ buffer.length) :
    Header.word layout buffer .checksum = Checksum.compute (region layout buffer) ↔
      buffer.extract 24 28 = checksumBytes layout buffer :=
  Header.word_eq_iff (Header.field_inside fits .checksum) (Proofs.ChecksumForm.compute_lt _)

theorem reports_agrees_iff (fits : layout.headerSize ≤ buffer.length) :
    Reports layout buffer .agrees ↔ buffer.extract 24 28 = checksumBytes layout buffer := by
  rw [reports_iff, ← word_checksum_iff fits]
  simp [fits]

theorem reports_differs_iff (fits : layout.headerSize ≤ buffer.length) :
    Reports layout buffer .differs ↔ buffer.extract 24 28 ≠ checksumBytes layout buffer := by
  rw [reports_iff, Ne, ← word_checksum_iff fits]
  simp [fits]

/-- The three hashes are copied one by one, and come to one window of twelve bytes. -/
theorem put_hashes (layout : Layout) (fits : layout.headerSize ≤ buffer.length)
    (donorFits : layout.headerSize ≤ donor.length) :
    Field.transplanted.foldl (fun data field => Header.put layout field (Header.word layout donor field) data) buffer =
      buffer.splice 4 (donor.extract 4 16) := by
  have room := Layout.fields_fit fits
  have donorRoom := Layout.fields_fit donorFits
  have copied (field : Field) := Header.put_word layout field (Header.field_inside donorFits field)
  simp only [Field.transplanted, List.foldl_cons, List.foldl_nil, copied]
  change ((buffer.splice 4 (donor.extract 4 8)).splice 8 (donor.extract 8 12)).splice 12 (donor.extract 12 16) = _
  rw [Bytes.splice_extract_next 4 8 12 (by omega) (by omega) (by omega) (by omega),
    Bytes.splice_extract_next 4 12 16 (by omega) (by omega) (by omega) (by omega)]

theorem transplant_ok (fits : layout.headerSize ≤ buffer.length) (donorFits : layout.headerSize ≤ donor.length) :
    transplant layout buffer donor = .ok
      ⟨buffer.splice 4 (donor.extract 4 16),
        Field.transplanted.map fun field => (field, (Header.word layout buffer field : Int)),
        Field.transplanted.map fun field => (field, (Header.word layout donor field : Int))⟩ := by
  rw [transplant, Header.read_ok fits, Header.read_ok donorFits]
  simp only [bind, Except.bind, pure, Except.pure, Header.get_ofFields, put_hashes layout fits donorFits]

theorem transplant_error (short : buffer.length < layout.headerSize) :
    transplant layout buffer donor = .error ⟨buffer.length, layout.headerSize⟩ := by
  rw [transplant, Header.read_error short]
  rfl

theorem transplant_donor_error (fits : layout.headerSize ≤ buffer.length) (short : donor.length < layout.headerSize) :
    transplant layout buffer donor = .error ⟨donor.length, layout.headerSize⟩ := by
  rw [transplant, Header.read_ok fits, Header.read_error short]
  rfl

/-- A transplant that ends well has written the hashes and nothing else. -/
theorem transplant_data {result : Transplant} (ended : transplant layout buffer donor = .ok result) :
    layout.headerSize ≤ buffer.length ∧ layout.headerSize ≤ donor.length ∧
      result.data = buffer.splice 4 (donor.extract 4 16) := by
  by_cases fits : layout.headerSize ≤ buffer.length
  · by_cases donorFits : layout.headerSize ≤ donor.length
    · cases (transplant_ok fits donorFits).symm.trans ended
      exact ⟨fits, donorFits, rfl⟩
    · cases (transplant_donor_error fits (Nat.lt_of_not_le donorFits)).symm.trans ended
  · cases (transplant_error (Nat.lt_of_not_le fits)).symm.trans ended

theorem Transplant.data_eq_iff {result : Transplant} (ended : transplant layout buffer donor = .ok result) {data : Bytes} :
    data = result.data ↔ Bytes.AgreeOutside 4 16 buffer data ∧ data.extract 4 16 = donor.extract 4 16 := by
  obtain ⟨fits, donorFits, written⟩ := transplant_data ended
  have room := Layout.fields_fit fits
  have donorRoom := Layout.fields_fit donorFits
  have piece : (donor.extract 4 16).length = 12 := Bytes.length_extract (by omega)
  rw [written, Bytes.eq_splice_iff (by rw [piece]) (by omega)]

theorem transplant_length {result : Transplant} (ended : transplant layout buffer donor = .ok result) :
    result.data.length = buffer.length := by
  obtain ⟨kept, -⟩ := (Transplant.data_eq_iff ended).mp rfl
  exact kept.sameLength

theorem short_of_validate {error : Header.Truncated} (failed : validate layout buffer = .error error) :
    buffer.length < layout.headerSize := by
  by_contra long
  cases (validate_ok (Nat.not_lt.mp long)).symm.trans failed

theorem short_of_rehash {error : Header.Truncated} (failed : rehash layout buffer = .error error) :
    buffer.length < layout.headerSize := by
  by_contra long
  obtain ⟨notices, done⟩ := rehash_ok (Nat.not_lt.mp long)
  cases done.symm.trans failed

theorem short_of_transplant {error : Header.Truncated} (failed : transplant layout buffer donor = .error error) :
    buffer.length < layout.headerSize ∨ donor.length < layout.headerSize := by
  by_contra long
  rw [not_or] at long
  cases (transplant_ok (Nat.not_lt.mp long.1) (Nat.not_lt.mp long.2)).symm.trans failed

end CacheSeal.Cache
