import CacheSeal.Proofs.CacheOperations
import CacheSeal.Proofs.HeaderWindows
import Mathlib.Tactic.Ext

/-! The format of a cache as the assembly of its parts: seven words, the padding of the header and the payload. Taking a
buffer apart and putting the parts together are inverse to each other, so each buffer that holds a header has parts of
its own, and nothing of it is in none of them. -/

namespace CacheSeal.Cache
variable {layout : Layout} {buffer : Bytes}

/-- What a cache is assembled from. -/
@[ext]
structure Parts (layout : Layout) where
  word : Field → Nat
  padding : Bytes
  payload : Bytes
  word_lt : ∀ field, word field < Word.count
  length_padding : padding.length = layout.headerSize - Layout.unalignedSize

namespace Parts

/-- The words in the order of bytes of the layout, then the padding, then the payload. -/
def assemble (parts : Parts layout) : Bytes :=
  Header.join (fun field => layout.order.encode (parts.word field)) (parts.padding ++ parts.payload)

variable (parts : Parts layout)

theorem length_assemble : parts.assemble.length = layout.headerSize + parts.payload.length := by
  have aligned := layout.unalignedSize_le_headerSize
  have gap := parts.length_padding
  rw [assemble, Header.length_join fun field => layout.order.length_encode _, List.length_append]
  omega

theorem headerSize_le_length_assemble : layout.headerSize ≤ parts.assemble.length := by
  rw [length_assemble]
  exact Nat.le_add_right _ _

theorem word_assemble (field : Field) : Header.word layout parts.assemble field = parts.word field := by
  have windows := Header.window_join (fun field => layout.order.length_encode (parts.word field))
    (parts.padding ++ parts.payload)
  have decoded : Header.word layout parts.assemble field =
      layout.order.decode (Header.window parts.assemble field) := Header.word_eq layout parts.assemble field
  rw [decoded, assemble, windows, layout.order.decode_encode (parts.word_lt field)]

theorem drop_assemble : parts.assemble.drop Layout.unalignedSize = parts.padding ++ parts.payload :=
  Header.drop_join (fun field => layout.order.length_encode (parts.word field)) _

theorem padding_assemble : parts.assemble.extract Layout.unalignedSize layout.headerSize = parts.padding := by
  rw [List.extract_eq_take_drop, drop_assemble]
  exact List.take_left' parts.length_padding

theorem region_assemble : region layout parts.assemble = parts.payload := by
  have split := Nat.add_sub_of_le layout.unalignedSize_le_headerSize
  rw [region, ← split, ← List.drop_drop, drop_assemble]
  exact List.drop_left' parts.length_padding

theorem read_assemble : Header.read layout parts.assemble = .ok (.ofFields fun field => parts.word field) := by
  rw [Header.read_ok parts.headerSize_le_length_assemble]
  simp only [word_assemble]

end Parts

/-- A buffer that holds a header, taken apart. -/
def partsOf (fits : layout.headerSize ≤ buffer.length) : Parts layout where
  word := Header.word layout buffer
  padding := buffer.extract Layout.unalignedSize layout.headerSize
  payload := region layout buffer
  word_lt field := Header.word_lt layout (Header.field_inside fits field)
  length_padding := Bytes.length_extract fits

theorem assemble_partsOf (fits : layout.headerSize ≤ buffer.length) : (partsOf fits).assemble = buffer := by
  have windows : (fun field => layout.order.encode (Header.word layout buffer field)) = Header.window buffer :=
    funext fun field => Header.encode_word layout (Header.field_inside fits field)
  have behind : buffer.extract Layout.unalignedSize layout.headerSize ++ region layout buffer =
      buffer.drop Layout.unalignedSize := by
    have split := Nat.add_sub_of_le layout.unalignedSize_le_headerSize
    rw [List.extract_eq_take_drop, region]
    nth_rewrite 2 [← split]
    rw [← List.drop_drop, List.take_append_drop]
  change Header.join (fun field => layout.order.encode (Header.word layout buffer field))
    (buffer.extract Layout.unalignedSize layout.headerSize ++ region layout buffer) = buffer
  rw [windows, behind, Header.join_window]

theorem partsOf_assemble (parts : Parts layout) (fits : layout.headerSize ≤ parts.assemble.length) :
    partsOf fits = parts :=
  Parts.ext (funext parts.word_assemble) parts.padding_assemble parts.region_assemble

/-- A validation of what was assembled goes by the word in place of the checksum and by the payload. -/
theorem validate_assemble (parts : Parts layout) : ∃ validation, validate layout parts.assemble = .ok validation ∧
    (validation.verdict = .agrees ↔ parts.word .checksum = Checksum.compute parts.payload) := by
  refine ⟨_, validate_ok parts.headerSize_le_length_assemble, ?_⟩
  dsimp only
  rw [parts.word_assemble, parts.region_assemble]
  by_cases good : parts.word .checksum = Checksum.compute parts.payload
  · rw [if_pos good]
    exact iff_of_true rfl good
  · rw [if_neg good]
    exact iff_of_false nofun good

/-- The format is decoded exactly. Of what is assembled the words are read and the payload is the region, and it is valid
just if the word of the checksum is that of the payload, whatever else is in it; and a buffer that holds a header is the
assembly of what is read of it, of its padding and its region, and of no other parts. -/
theorem assembly_unique (layout : Layout) :
    (∀ parts : Parts layout,
      Header.read layout parts.assemble = .ok (.ofFields fun field => parts.word field) ∧
      region layout parts.assemble = parts.payload ∧
      ∃ validation, validate layout parts.assemble = .ok validation ∧
        (validation.verdict = .agrees ↔ parts.word .checksum = Checksum.compute parts.payload)) ∧
    ∀ buffer : Bytes, layout.headerSize ≤ buffer.length → ∃ header parts,
      Header.read layout buffer = .ok header ∧ (∀ field, (parts.word field : Int) = header.get field) ∧
      parts.padding = buffer.extract 28 layout.headerSize ∧ parts.payload = region layout buffer ∧
      ∀ other : Parts layout, other.assemble = buffer ↔ other = parts := by
  constructor
  · intro parts
    exact ⟨parts.read_assemble, parts.region_assemble, validate_assemble parts⟩
  · intro buffer fits
    have words (field : Field) := Header.get_ofFields (fun field => (Header.word layout buffer field : Int)) field
    refine ⟨_, partsOf fits, Header.read_ok fits, fun field => (words field).symm, rfl, rfl, ?_⟩
    intro other
    constructor
    · rintro rfl
      exact (partsOf_assemble other fits).symm
    · rintro rfl
      exact assemble_partsOf fits

/-- A cache whose header counts from one and declares more than there is. -/
def numberedParts : Parts ⟨.w64, .big, .whole⟩ where
  word field := if field = .checksum then 0x00020002 else field.index + 1
  padding := [0xaa, 0xbb, 0xcc, 0xdd]
  payload := [2]
  word_lt field := by cases field <;> decide
  length_padding := rfl

theorem assembly_unique_numbered :
    Layout.headerSize ⟨.w64, .big, .whole⟩ ≤ numberedParts.assemble.length ∧
      numberedParts.assemble = [0, 0, 0, 1, 0, 0, 0, 2, 0, 0, 0, 3, 0, 0, 0, 4, 0, 0, 0, 5, 0, 0, 0, 6, 0, 2, 0, 2,
        0xaa, 0xbb, 0xcc, 0xdd, 2] ∧
      (∃ validation, validate ⟨.w64, .big, .whole⟩ numberedParts.assemble = .ok validation ∧
        validation.verdict = .agrees) ∧
      ∃ header parts, Header.read ⟨.w64, .big, .whole⟩ numberedParts.assemble = .ok header ∧
        (∀ field, (parts.word field : Int) = header.get field) ∧ numberedParts = parts := by
  have fits := numberedParts.headerSize_le_length_assemble
  obtain ⟨assembled, taken⟩ := assembly_unique ⟨.w64, .big, .whole⟩
  obtain ⟨-, -, validation, validated, valid⟩ := assembled numberedParts
  obtain ⟨header, parts, told, words, -, -, only⟩ := taken _ fits
  exact ⟨fits, by decide, ⟨validation, validated, valid.mpr (by decide)⟩, header, parts, told, words, (only _).mp rfl⟩

end CacheSeal.Cache
