import CacheSeal.Proofs.CacheOperations
import CacheSeal.Proofs.HexWords
import CacheSeal.Report.Record

/-! What programs may rely on in a report. The schema that reports are published with names every member and what it
may hold; each report on a cache passes it, since the words of a header and its checksum are 32 bits whatever the cache
holds. Its members also agree with each other, of which the schema says nothing. -/

namespace CacheSeal

namespace Json

/-- The value of a member. -/
def get? (name : String) : Json → Option Json
  | object members => members.lookup (.ofString name)
  | _ => none

theorem get?_of_mem {members : List (Text × Json)} (distinct : (members.map Prod.fst).Nodup) {name : String}
    {item : Json} (inside : (Text.ofString name, item) ∈ members) : (object members).get? name = some item := by
  obtain ⟨before, behind, rfl⟩ := List.append_of_mem inside
  refine List.lookup_eq_some_iff.mpr ⟨before, behind, rfl, ?_⟩
  intro member early
  rw [List.map_append, List.map_cons, List.nodup_append] at distinct
  obtain ⟨-, -, apart⟩ := distinct
  simpa using (apart member.1 (List.mem_map_of_mem early) (Text.ofString name) List.mem_cons_self).symm

/-- A test that documents pass or fail. -/
abbrev Schema := Json → Bool

namespace Schema

def text : Schema
  | .str _ => true
  | _ => false

def nothing : Schema
  | .null => true
  | _ => false

def anyOf (schemas : List Schema) : Schema :=
  fun json => schemas.any fun schema => schema json

/-- A whole number within bounds, written without a point. -/
def integer (least : Int) (greatest : Option Int) : Schema
  | .int value => least ≤ value && greatest.all fun bound => value ≤ bound
  | _ => false

def numbers (values : List Int) : Schema
  | .int value => values.contains value
  | _ => false

def words (names : List String) : Schema
  | .str value => (names.map Text.ofString).contains value
  | _ => false

/-- A text of as many characters as there are choices, each of them one of its own choice. -/
def spelled (choices : List String) : Schema
  | .str value =>
    value.length = choices.length && (value.zip choices).all fun pair => (Text.ofString pair.2).contains pair.1
  | _ => false

/-- An object with each of these members and no others. -/
def closed (properties : List (String × Schema)) : Schema
  | .object members =>
    (members.map Prod.fst).isPerm (properties.map fun property => .ofString property.1) &&
      properties.all fun property => ((object members).get? property.1).any property.2
  | _ => false

theorem integer_iff {least value : Int} {greatest : Option Int} :
    integer least greatest (.int value) = true ↔ least ≤ value ∧ ∀ bound ∈ greatest, value ≤ bound := by
  cases greatest <;> simp [integer]

theorem words_iff {names : List String} {value : Text} :
    words names (.str value) = true ↔ value ∈ names.map Text.ofString := by
  simp [words]

/-- Members that come in the order of the schema are judged one by one. -/
theorem closed_iff {members : List (Text × Json)} {properties : List (String × Schema)}
    (distinct : (properties.map fun property => Text.ofString property.1).Nodup)
    (named : members.map Prod.fst = properties.map fun property => .ofString property.1) :
    closed properties (.object members) = true ↔
      List.Forall₂ (fun member property => property.2 member.2 = true) members properties := by
  have sameLength : members.length = properties.length := by
    simpa using congrArg List.length named
  have found (index : Nat) (bound : index < members.length) (otherBound : index < properties.length) :
      (object members).get? properties[index].1 = some members[index].2 := by
    apply get?_of_mem (named ▸ distinct)
    have name : members[index].1 = .ofString properties[index].1 := by
      simpa [bound, otherBound] using congrArg (·[index]?) named
    rw [← name]
    exact List.getElem_mem bound
  rw [closed, Bool.and_eq_true, List.isPerm_iff, named, List.all_eq_true, List.forall₂_iff_get,
    and_iff_right (List.Perm.refl _), and_iff_right sameLength, List.forall_mem_iff_getElem]
  constructor
  · intro all index bound otherBound
    simpa [found index bound otherBound] using all index otherBound
  · intro all index otherBound
    have bound : index < members.length := sameLength ▸ otherBound
    simpa [found index bound otherBound] using all index bound otherBound

end Schema

end Json

namespace Report
open Json (Schema)

/-- An unsigned word of 32 bits. -/
def unsigned : Schema :=
  .integer 0 (some 4294967295)

/-- Eight digits of upper case behind the mark of the base. -/
def hexWord : Schema :=
  .spelled ("0" :: "x" :: List.replicate 8 "0123456789ABCDEF")

def headerSchema : Schema :=
  .closed (["magic_number", "version_hash", "source_hash", "flag_hash", "num_reservations", "payload_length",
    "checksum"].map fun name => (name, unsigned))

/-- The schema that reports are published with. -/
def schema : Schema :=
  .closed [
    ("schema_version", .text),
    ("path", .anyOf [.text, .nothing]),
    ("pointer_width", .numbers [32, 64]),
    ("byte_order", .words ["little", "big"]),
    ("header_size", .integer 28 none),
    ("file_size", .integer 0 none),
    ("header", headerSchema),
    ("computed_checksum", unsigned),
    ("checksum_hex", hexWord),
    ("verdict", .words ["Match", "Mismatch"])]

variable {path : Option Text} {report : Cache.Validation}

/-- A number that 32 bits without a sign hold. -/
def IsWord (value : Int) : Prop :=
  0 ≤ value ∧ value < 2 ^ 32

theorem unsigned_iff {value : Int} : unsigned (.int value) = true ↔ IsWord value := by
  rw [unsigned, Schema.integer_iff, IsWord]
  simp only [Option.mem_some_iff, forall_eq']
  omega

theorem hexWord_of_spells {value : Nat} {shown : List Char} {places : List Nat}
    (spells : Hex.Spells .upper value shown places) (eight : places.length = 8) :
    hexWord (.str (.ofChars ('0' :: 'x' :: shown))) = true := by
  have digit : ∀ place < 16, CodePoint.ofChar (Hex.digit .upper place) ∈ Text.ofString "0123456789ABCDEF" := by decide
  have written : Text.ofChars ('0' :: 'x' :: shown) =
      CodePoint.ofChar '0' :: CodePoint.ofChar 'x' :: places.map fun place => .ofChar (Hex.digit .upper place) := by
    rw [spells.shown_eq, Text.ofChars, List.map_cons, List.map_cons, List.map_map]
    rfl
  rw [hexWord, Schema.spelled, written, Bool.and_eq_true, List.all_eq_true]
  refine ⟨by simp [eight], ?_⟩
  simp only [List.zip_cons_cons, List.forall_mem_cons]
  refine ⟨by decide, by decide, ?_⟩
  intro pair inside
  obtain ⟨point, choice⟩ := List.of_mem_zip inside
  obtain ⟨place, member, same⟩ := List.mem_map.mp point
  rw [List.eq_of_mem_replicate choice, ← same, List.contains_iff_mem]
  exact digit place (spells.small place member)

/-- A word is shown as the schema wants it, and is read as what it is. -/
theorem hexWord_word {value : Int} (small : IsWord value) :
    hexWord (.string (Hex.word value)) = true ∧ Numeral.read? 16 (Hex.word value).toList = some value := by
  obtain ⟨value, rfl⟩ := Int.eq_ofNat_of_zero_le small.1
  have fits : value < 16 ^ (7 + 1) := by
    have bound := small.2
    omega
  obtain ⟨places, spells, eight⟩ := Hex.spells_padded .upper fits
  have shown : (Hex.word value).toList = '0' :: 'x' :: Hex.padded .upper 8 value := String.toList_ofList
  rw [Json.string, Text.ofString, shown]
  exact ⟨hexWord_of_spells spells eight, spells.read (List.ne_nil_of_length_pos (by omega))⟩

theorem headerSchema_iff {header : Header} :
    headerSchema (headerRecord header) = true ↔ ∀ field, IsWord (header.get field) := by
  rw [headerSchema, headerRecord, Schema.closed_iff (by decide) rfl]
  simp only [Field.all, List.map_cons, List.map_nil, Json.member, List.forall₂_cons, List.Forall₂.nil, and_true,
    unsigned_iff]
  constructor
  · rintro ⟨magic, version, source, flag, count, length, checksum⟩ field
    cases field <;> assumption
  · intro words
    exact ⟨words _, words _, words _, words _, words _, words _, words _⟩

theorem numbers_widthRecord_iff {layout : Layout} :
    Schema.numbers [32, 64] (widthRecord layout) = true ↔ layout.spelling = .whole := by
  obtain ⟨width, order, spelling⟩ := layout
  cases spelling <;> cases width <;> simp [widthRecord, Schema.numbers, PointerWidth.bits]

/-- A report passes the schema just if its numbers are words and its verdict is one of the two. -/
theorem schema_record_iff :
    schema (record path report) = true ↔
      report.layout.spelling = .whole ∧ 28 ≤ report.headerSize ∧ 0 ≤ report.fileSize ∧
      (∀ field, IsWord (report.header.get field)) ∧ IsWord report.computed ∧
      (report.verdict.name = "Match" ∨ report.verdict.name = "Mismatch") := by
  have orderPasses : Schema.words ["little", "big"] (.string report.layout.order.name) = true := by
    cases report.layout.order <;> rfl
  unfold schema record
  rw [Schema.closed_iff (by decide) rfl]
  simp only [Json.member, List.forall₂_cons, List.Forall₂.nil, and_true, unsigned_iff, headerSchema_iff, Schema.integer_iff,
    numbers_widthRecord_iff, orderPasses]
  constructor
  · rintro ⟨-, -, whole, -, ⟨header, -⟩, ⟨file, -⟩, fields, computed, -, verdict⟩
    exact ⟨whole, header, file, fields, computed, by simpa using Schema.words_iff.mp verdict⟩
  · rintro ⟨whole, header, file, fields, computed, verdict⟩
    refine ⟨rfl, ?_, whole, trivial, ⟨header, by simp⟩, ⟨file, by simp⟩, fields, computed, (hexWord_word computed).1,
      Schema.words_iff.mpr (by simpa using verdict)⟩
    cases path <;> rfl

theorem isWord_compute (data : Bytes) : IsWord (Checksum.compute data) := by
  have bound := Proofs.ChecksumForm.compute_lt data
  constructor <;> omega

theorem isWord_word {layout : Layout} {buffer : Bytes} (fits : layout.headerSize ≤ buffer.length) (field : Field) :
    IsWord (Header.word layout buffer field) := by
  have bound := Header.word_lt layout (Header.field_inside fits field)
  unfold Word.count at bound
  constructor <;> omega

/-- Every report on a cache passes the schema, given a width without a point. It tells the size of the cache, the
checksum in two ways that agree, and a match just if that is the checksum in the header. -/
theorem report_conforms {layout : Layout} {buffer : Bytes} (path : Option Text) (whole : layout.spelling = .whole)
    (fits : layout.headerSize ≤ buffer.length) :
    ∃ validation digits, Cache.validate layout buffer = .ok validation ∧
      schema (record path validation) = true ∧
      (record path validation).get? "file_size" = some (.int buffer.length) ∧
      (record path validation).get? "computed_checksum" = some (.int validation.computed) ∧
      (record path validation).get? "checksum_hex" = some (.str (.ofChars digits)) ∧
      Numeral.read? 16 digits = some validation.computed ∧
      ((record path validation).get? "verdict" = some (.string "Match") ↔
        ((record path validation).get? "header").bind (Json.get? "checksum") =
          (record path validation).get? "computed_checksum") := by
  have computed := isWord_compute (Cache.region layout buffer)
  have verdict : (if Header.word layout buffer .checksum = Checksum.compute (Cache.region layout buffer) then
      Cache.Verdict.agrees else .differs).name = Text.ofString "Match" ↔
        Header.word layout buffer .checksum = Checksum.compute (Cache.region layout buffer) := by
    split
    next same => exact iff_of_true rfl same
    next other => exact iff_of_false (by decide) other
  refine ⟨_, (Hex.word (Checksum.compute (Cache.region layout buffer))).toList, Cache.validate_ok fits, ?_, rfl, rfl, rfl,
    (hexWord_word computed).2, ?_⟩
  · rw [schema_record_iff]
    refine ⟨whole, ?_, Int.natCast_nonneg _, ?_, computed, ?_⟩
    · exact Int.ofNat_le.mpr layout.unalignedSize_le_headerSize
    · intro field
      rw [Header.get_ofFields]
      exact isWord_word fits field
    · split
      · exact Or.inl rfl
      · exact Or.inr rfl
  · change some (Json.str _) = some (Json.str _) ↔ some (Json.int (Nat.cast _)) = some (Json.int (Nat.cast _))
    rw [Option.some_inj, Option.some_inj, Json.str.injEq, Json.int.injEq, Nat.cast_inj]
    exact verdict

/-- A cache of one byte, and its checksum in front of it. -/
def tenCache : Bytes :=
  List.replicate 24 0 ++ [0, 10, 0, 10] ++ [10]

theorem report_conforms_ten :
    Layout.spelling ⟨.w32, .big, .whole⟩ = .whole ∧ Layout.headerSize ⟨.w32, .big, .whole⟩ ≤ tenCache.length ∧
      ∃ validation digits, Cache.validate ⟨.w32, .big, .whole⟩ tenCache = .ok validation ∧
        schema (record none validation) = true ∧
        (record none validation).get? "checksum_hex" = some (.str (.ofChars digits)) ∧
        Numeral.read? 16 digits = some 0x000a000a ∧
        (record none validation).get? "verdict" = some (.string "Match") := by
  have whole : Layout.spelling ⟨.w32, .big, .whole⟩ = .whole := rfl
  have fits : Layout.headerSize ⟨.w32, .big, .whole⟩ ≤ tenCache.length := by decide
  obtain ⟨validation, digits, validated, passes, -, -, shown, read, verdict⟩ := report_conforms none whole fits
  refine ⟨whole, fits, validation, digits, validated, passes, shown, ?_, verdict.mpr ?_⟩
  · cases (Cache.validate_ok fits).symm.trans validated
    exact read
  · cases (Cache.validate_ok fits).symm.trans validated
    rfl

end Report

end CacheSeal
