import CacheSeal.Proofs.FailingRuns
import CacheSeal.Proofs.HeaderWindows

/-! Fields as places to read and to write. A write in place either ends well, and then just the four bytes of its field
are new, or it leaves the buffer as it was. Since the windows of a buffer change as a function does that is changed at one
argument, so do the words that are read of it. -/

namespace CacheSeal

theorem Field.ofName?_eq_some_iff {name : Text} {field : Field} :
    ofName? name = some field ↔ name = Text.ofString field.name := by
  constructor
  · intro found
    unfold ofName? at found
    have named := List.find?_some found
    exact (of_decide_eq_true named).symm
  · rintro rfl
    cases field <;> rfl

theorem Field.ofName?_name (field : Field) : ofName? (.ofString field.name) = some field :=
  ofName?_eq_some_iff.mpr rfl

theorem Field.ofName?_eq_none_iff {name : Text} :
    ofName? name = none ↔ ∀ field : Field, name ≠ Text.ofString field.name := by
  rw [Option.eq_none_iff_forall_ne_some]
  exact forall_congr' fun field => not_congr ofName?_eq_some_iff

theorem Word.ofInt_lt (value : Int) : Word.ofInt value < Word.count := by
  simp only [Word.ofInt, Word.count]
  omega

theorem Word.cast_ofInt (value : Int) : (Word.ofInt value : Int) = value % 0x100000000 := by
  simp only [Word.ofInt, Word.count]
  omega

namespace Header
open Proofs.FailingRuns
variable {layout : Layout} {buffer : Bytes} {field another : Field}

/-- The words behind a write. -/
theorem word_put (inside : Layout.unalignedSize ≤ buffer.length) (field : Field) (value : Int) :
    word layout (put layout field value buffer) = Function.update (word layout buffer) field (Word.ofInt value) := by
  have decoded (data : Bytes) : word layout data = layout.order.decode ∘ window data :=
    funext fun place => word_eq layout data place
  rw [decoded, decoded, window_put inside, Function.comp_update, layout.order.decode_encode (Word.ofInt_lt value)]

theorem put_put (inside : Layout.unalignedSize ≤ buffer.length) (field : Field) (value next : Int) :
    put layout field next (put layout field value buffer) = put layout field next buffer := by
  have still : Layout.unalignedSize ≤ (put layout field value buffer).length := by rwa [length_put inside]
  apply eq_of_windows
  · rw [window_put still, window_put inside, window_put inside, Function.update_idem]
  · rw [drop_put still, drop_put inside, drop_put inside]

theorem put_comm (inside : Layout.unalignedSize ≤ buffer.length) (distinct : field ≠ another) (value next : Int) :
    put layout another next (put layout field value buffer) = put layout field value (put layout another next buffer) := by
  have first : Layout.unalignedSize ≤ (put layout field value buffer).length := by rwa [length_put inside]
  have second : Layout.unalignedSize ≤ (put layout another next buffer).length := by rwa [length_put inside]
  apply eq_of_windows
  · rw [window_put first, window_put inside, window_put second, window_put inside, Function.update_comm distinct]
  · rw [drop_put first, drop_put inside, drop_put second, drop_put inside]

theorem put_word_self (inside : Layout.unalignedSize ≤ buffer.length) (field : Field) :
    put layout field (word layout buffer field) buffer = buffer := by
  have within := Nat.le_trans field.offset_add_le inside
  apply eq_of_windows
  · rw [window_put inside, Word.ofInt_natCast (word_lt layout within), encode_word layout within]
    exact Function.update_eq_self field (window buffer)
  · exact drop_put inside field _

/-- Overwriting a named field in place: the buffer is a state, so what a write that fails leaves of it can be seen. -/
def overwrite (layout : Layout) (name : Text) (value : Int) : ExceptT WriteError (StateM Bytes) Unit := do
  match require layout (← MonadState.get) with
  | .error error => throw (.truncated error)
  | .ok () =>
    match Field.ofName? name with
    | some field => modify (put layout field value)
    | none => throw (.unknownField name)

/-- In place or not, a write comes to the same, and nothing is written that does not succeed. -/
theorem overwrite_run (layout : Layout) (name : Text) (value : Int) (buffer : Bytes) :
    (overwrite layout name value).run buffer =
      match writeNamed layout name value buffer with
      | .ok after => (.ok (), after)
      | .error error => (.error error, buffer) := by
  unfold overwrite writeNamed
  rw [run_bind, run_get]
  dsimp only
  cases require layout buffer with
  | error error => rfl
  | ok _ =>
    cases Field.ofName? name with
    | none => rfl
    | some field => rfl

theorem overwrite_short (short : buffer.length < layout.headerSize) (name : Text) (value : Int) :
    (overwrite layout name value).run buffer = (.error (.truncated ⟨buffer.length, layout.headerSize⟩), buffer) := by
  rw [overwrite_run, writeNamed, require_error short]

theorem overwrite_unknown (fits : layout.headerSize ≤ buffer.length) {name : Text} (unknown : Field.ofName? name = none)
    (value : Int) : (overwrite layout name value).run buffer = (.error (.unknownField name), buffer) := by
  rw [overwrite_run, writeNamed, require_ok fits]
  dsimp only
  rw [unknown]

theorem overwrite_known (fits : layout.headerSize ≤ buffer.length) {name : Text} (known : Field.ofName? name = some field)
    (value : Int) : (overwrite layout name value).run buffer = (.ok (), put layout field value buffer) := by
  rw [overwrite_run, writeNamed, require_ok fits]
  dsimp only
  rw [known]

/-- What a write to a field has done: only its bytes may be new, and what is read then is new at the field alone. -/
structure Overwritten (layout : Layout) (field : Field) (value : Int) (before after : Bytes) : Prop where
  kept : Bytes.AgreeOutside field.offset (field.offset + Field.wordSize) before after
  told : ∃ old new, read layout before = .ok old ∧ read layout after = .ok new ∧ new.get field = value % 0x100000000 ∧
    ∀ other, other ≠ field → new.get other = old.get other

theorem overwritten_put (fits : layout.headerSize ≤ buffer.length) (field : Field) (value : Int) :
    Overwritten layout field value buffer (put layout field value buffer) := by
  have inside := Nat.le_trans layout.unalignedSize_le_headerSize fits
  have still : layout.headerSize ≤ (put layout field value buffer).length := by rwa [length_put inside]
  refine ⟨put_agreeOutside inside field value, _, _, read_ok fits, read_ok still, ?_, ?_⟩
  · rw [get_ofFields, word_put inside, Function.update_self, Word.cast_ofInt]
  · intro other distinct
    rw [get_ofFields, get_ofFields, word_put inside, Function.update_of_ne distinct]

/-- How a write to a named field ends: the buffer is judged before the name, and what fails for either leaves the buffer
as it was. -/
structure Concluded (layout : Layout) (name : Text) (value : Int) (before : Bytes)
    (outcome : Except WriteError Unit × Bytes) : Prop where
  truncated : ∀ error, outcome.1 = .error (.truncated error) ↔
    before.length < layout.headerSize ∧ error = ⟨before.length, layout.headerSize⟩
  unknown : ∀ other, outcome.1 = .error (.unknownField other) ↔
    layout.headerSize ≤ before.length ∧ (∀ field : Field, name ≠ .ofString field.name) ∧ other = name
  unchanged : ∀ error, outcome.1 = .error error → outcome.2 = before
  written : outcome.1 = .ok () → ∃ field : Field, name = .ofString field.name ∧
    Overwritten layout field value before outcome.2

theorem concluded_overwrite (layout : Layout) (name : Text) (value : Int) (buffer : Bytes) :
    Concluded layout name value buffer ((overwrite layout name value).run buffer) := by
  rcases Nat.lt_or_ge buffer.length layout.headerSize with short | fits
  · rw [overwrite_short short]
    refine ⟨?_, ?_, fun _ _ => rfl, nofun⟩
    · simp [short, eq_comm]
    · simp [Nat.not_le.mpr short]
  · cases named : Field.ofName? name with
    | none =>
      rw [overwrite_unknown fits named]
      refine ⟨?_, ?_, fun _ _ => rfl, nofun⟩
      · simp [Nat.not_lt.mpr fits]
      · simp [fits, Field.ofName?_eq_none_iff.mp named, eq_comm]
    | some field =>
      rw [overwrite_known fits named]
      have known := Field.ofName?_eq_some_iff.mp named
      refine ⟨?_, ?_, nofun, fun _ => ⟨field, known, overwritten_put fits field value⟩⟩
      · simp [Nat.not_lt.mpr fits]
      · intro other
        simp only [reduceCtorEq, false_iff]
        rintro ⟨-, unknown, -⟩
        exact unknown field known

theorem fits_put (fits : layout.headerSize ≤ buffer.length) (field : Field) (value : Int) :
    layout.headerSize ≤ (put layout field value buffer).length := by
  rwa [length_put (Nat.le_trans layout.unalignedSize_le_headerSize fits)]

/-- Of two writes to one field only the later counts. -/
theorem overwrite_overwrite (layout : Layout) (name : Text) (value next : Int) :
    (do overwrite layout name value; overwrite layout name next) = overwrite layout name next := by
  funext buffer
  change (overwrite layout name value >>= fun _ => overwrite layout name next).run buffer =
    (overwrite layout name next).run buffer
  rw [run_bind]
  rcases Nat.lt_or_ge buffer.length layout.headerSize with short | fits
  · rw [overwrite_short short, overwrite_short short]
  · cases named : Field.ofName? name with
    | none => rw [overwrite_unknown fits named, overwrite_unknown fits named]
    | some field =>
      have inside := Nat.le_trans layout.unalignedSize_le_headerSize fits
      rw [overwrite_known fits named, overwrite_known fits named]
      dsimp only
      rw [overwrite_known (fits_put fits field value) named, put_put inside]

/-- Writes to different fields do not meet. -/
theorem overwrite_comm (layout : Layout) (distinct : field ≠ another) (value next : Int) :
    (do overwrite layout field.name value; overwrite layout another.name next) =
      (do overwrite layout another.name next; overwrite layout field.name value) := by
  funext buffer
  change (overwrite layout field.name value >>= fun _ => overwrite layout another.name next).run buffer =
    (overwrite layout another.name next >>= fun _ => overwrite layout field.name value).run buffer
  rw [run_bind, run_bind]
  rcases Nat.lt_or_ge buffer.length layout.headerSize with short | fits
  · rw [overwrite_short short, overwrite_short short]
  · have inside := Nat.le_trans layout.unalignedSize_le_headerSize fits
    rw [overwrite_known fits field.ofName?_name, overwrite_known fits another.ofName?_name]
    dsimp only
    rw [overwrite_known (fits_put fits field value) another.ofName?_name,
      overwrite_known (fits_put fits another next) field.ofName?_name, put_comm inside distinct]

theorem overwrite_read {header : Header} (told : read layout buffer = .ok header) (field : Field) :
    (overwrite layout field.name (header.get field)).run buffer = (.ok (), buffer) := by
  rcases Nat.lt_or_ge buffer.length layout.headerSize with short | fits
  · cases (read_error short).symm.trans told
  · cases (read_ok fits).symm.trans told
    rw [overwrite_known fits field.ofName?_name, get_ofFields,
      put_word_self (Nat.le_trans layout.unalignedSize_le_headerSize fits)]

/-- A field can be written and read like a variable of its own. A write fails just for a short buffer, or for a name that
no field has, and then leaves the buffer alone; else what is read afterwards is new at the field only, and no byte of
another place is. A second write to a field undoes the first, writes to two fields may change places, and to write what was
read changes nothing. -/
theorem fields_lawful (layout : Layout) (buffer : Bytes) (name : Text) (value next : Int) :
    (overwrite layout name value).run buffer = (match writeNamed layout name value buffer with
      | .ok after => (.ok (), after)
      | .error error => (.error error, buffer)) ∧
    Concluded layout name value buffer ((overwrite layout name value).run buffer) ∧
    (do overwrite layout name value; overwrite layout name next) = overwrite layout name next ∧
    (∀ field another : Field, field ≠ another →
      (do overwrite layout field.name value; overwrite layout another.name next) =
        (do overwrite layout another.name next; overwrite layout field.name value)) ∧
    (∀ header, read layout buffer = .ok header → ∀ field : Field,
      (overwrite layout field.name (header.get field)).run buffer = (.ok (), buffer)) :=
  ⟨overwrite_run layout name value buffer, concluded_overwrite layout name value buffer,
    overwrite_overwrite layout name value next, fun _ _ distinct => overwrite_comm layout distinct value next,
    fun _ told field => overwrite_read told field⟩

def counting : Bytes :=
  (List.range 33).map UInt8.ofNat

/-- A negative number is kept as the word that it is congruent to. -/
theorem fields_lawful_counting :
    let layout : Layout := ⟨.w64, .big, .whole⟩
    Field.flagHash ≠ Field.checksum ∧
      ((do overwrite layout Field.flagHash.name (-1); overwrite layout Field.checksum.name 7) =
        (do overwrite layout Field.checksum.name 7; overwrite layout Field.flagHash.name (-1))) ∧
      ∃ header after, read layout counting = .ok header ∧ header.flagHash = 0x0c0d0e0f ∧
        (overwrite layout Field.flagHash.name header.flagHash).run counting = (.ok (), counting) ∧
        (overwrite layout Field.flagHash.name (-1)).run counting = (.ok (), after) ∧
        Overwritten layout .flagHash (-1) counting after := by
  intro layout
  obtain ⟨-, concluded, -, swaps, kept⟩ := fields_lawful layout counting Field.flagHash.name (-1) 7
  have fits : layout.headerSize ≤ counting.length := by decide
  have told := read_ok fits
  have written := overwrite_known fits Field.flagHash.ofName?_name (-1)
  rw [written] at concluded
  obtain ⟨field, named, changed⟩ := concluded.written rfl
  obtain rfl : field = .flagHash := by
    have found := Field.ofName?_eq_some_iff.mpr named
    exact Option.some.inj (found.symm.trans Field.flagHash.ofName?_name)
  have distinct : Field.flagHash ≠ Field.checksum := by decide
  exact ⟨distinct, swaps _ _ distinct, _, _, told, by decide, kept _ told .flagHash, written, changed⟩

end Header

end CacheSeal
