import CacheSeal.Json.Printer
import CacheSeal.Json.Reader
import CacheSeal.Proofs.HexWords

/-! Texts between the quotes of a document. Every code point is read again from what is written of it, those beyond the
basic plane from the two halves of a pair; a half on its own would be joined to the next, and no such half is in a text of
characters. -/

namespace CacheSeal

/-- The text is of characters, none of which is a surrogate. -/
def Text.Scalar (text : Text) : Prop :=
  ∀ point ∈ text, point.val < 0xd800 ∨ 0xe000 ≤ point.val

theorem Text.scalar_ofString (text : String) : (Text.ofString text).Scalar := by
  intro point member
  obtain ⟨c, -, rfl⟩ := List.mem_map.mp member
  exact c.valid.imp_right fun above => above.1

namespace Json

/-- What is written for a unit is read as that unit. -/
theorem unitEscape_eq {unit : Nat} (fits : unit < 0x10000) : ∃ a b c d bound, unitEscape unit = ['\\', 'u', a, b, c, d] ∧
    unit? a b c d = some ⟨unit, bound⟩ := by
  obtain ⟨places, ⟨written, small, total⟩, length⟩ := Hex.spells_padded .lower (show unit < 16 ^ (3 + 1) from fits)
  obtain ⟨a, b, c, d, rfl⟩ : ∃ a b c d, places = [a, b, c, d] := by
    match places, length with
    | [a, b, c, d], _ => exact ⟨a, b, c, d, rfl⟩
  simp only [List.forall_mem_cons] at small
  obtain ⟨smallA, smallB, smallC, smallD, -⟩ := small
  have value : (a * 16 + b) * 256 + c * 16 + d = unit := by
    rw [← total]
    simp only [Numeral.magnitude, List.foldl_cons, List.foldl_nil]
    omega
  refine ⟨_, _, _, _, by omega, congrArg ('\\' :: 'u' :: ·) written, ?_⟩
  simp only [unit?, Hex.value?_digit .lower smallA, Hex.value?_digit .lower smallB, Hex.value?_digit .lower smallC,
    Hex.value?_digit .lower smallD]
  simp [value]
  omega

/-- The ways to write a code point. -/
inductive Written (point : CodePoint) : List Char → Prop where
  | mark {c meant : Char} (read : escape? c = some meant) (same : CodePoint.ofChar meant = point) :
    Written point ['\\', c]
  | plain {c : Char} (noQuote : c ≠ '"') (noStroke : c ≠ '\\') (shown : ¬ c < ' ') (ascii : c.toNat < 128)
    (same : CodePoint.ofChar c = point) : Written point [c]
  | unit (fits : point.val < 0x10000) : Written point (unitEscape point.val)
  | pair (beyond : 0x10000 ≤ point.val) : Written point
    (unitEscape (0xd800 + (point.val - 0x10000) / 0x400) ++ unitEscape (0xdc00 + (point.val - 0x10000) % 0x400))

theorem written_escapedPoint (point : CodePoint) : Written point (escapedPoint point) := by
  have named (code : Nat) {c meant : Char} (same : point.val = code) (read : escape? c = some meant)
      (is : (CodePoint.ofChar meant).val = code) : Written point ['\\', c] :=
    .mark read (Fin.ext (is.trans same.symm))
  unfold escapedPoint
  dsimp only
  split
  next same => exact named 0x22 same rfl rfl
  split
  next same => exact named 0x5c same rfl rfl
  split
  next same => exact named 0x0a same rfl rfl
  split
  next same => exact named 0x0d same rfl rfl
  split
  next same => exact named 0x09 same rfl rfl
  split
  next same => exact named 0x0c same rfl rfl
  split
  next same => exact named 0x08 same rfl rfl
  split
  next noQuote noStroke _ _ _ _ _ shown =>
    have valid : point.val.isValidChar := Or.inl (by omega)
    have code : (Char.ofNat point.val).toNat = point.val := by rw [Char.ofNat, dif_pos valid]; rfl
    refine .plain ?_ ?_ ?_ (by omega) (Fin.ext code)
    · intro same
      exact noQuote (by rw [← code, same]; rfl)
    · intro same
      exact noStroke (by rw [← code, same]; rfl)
    · intro below
      have low : (Char.ofNat point.val).toNat < 0x20 := UInt32.lt_iff_toNat_lt.mp below
      omega
  split
  next fits => exact .unit fits
  next beyond => exact .pair (Nat.le_of_not_lt beyond)

/-- The characters are of ASCII. -/
def Ascii (chars : List Char) : Prop :=
  ∀ c ∈ chars, c.toNat < 128

instance (chars : List Char) : Decidable (Ascii chars) :=
  List.decidableBAll (fun c : Char => c.toNat < 128) chars

theorem Ascii.append {chars rest : List Char} (ascii : Ascii chars) (restAscii : Ascii rest) : Ascii (chars ++ rest) :=
  List.forall_mem_append.mpr ⟨ascii, restAscii⟩

theorem ascii_unitEscape {unit : Nat} (fits : unit < 0x10000) : Ascii (unitEscape unit) := by
  obtain ⟨places, spells, -⟩ := Hex.spells_padded .lower (show unit < 16 ^ (3 + 1) from fits)
  refine List.forall_mem_cons.mpr ⟨by decide, List.forall_mem_cons.mpr ⟨by decide, ?_⟩⟩
  rw [spells.shown_eq, List.forall_mem_map]
  exact fun place member => (Numeral.digit_plain .lower (spells.small place member)).2.1

theorem Written.ascii {point : CodePoint} {chars : List Char} (written : Written point chars) : Ascii chars := by
  have bound := point.isLt
  cases written with
  | @mark c meant read =>
    have letter : c.toNat < 128 := by
      unfold escape? at read
      split at read <;> first | decide | cases read
    exact List.forall_mem_cons.mpr ⟨by decide, List.forall_mem_singleton.mpr letter⟩
  | plain _ _ _ ascii => exact List.forall_mem_singleton.mpr ascii
  | unit fits => exact ascii_unitEscape fits
  | pair beyond => exact (ascii_unitEscape (by omega)).append (ascii_unitEscape (by omega))

theorem ascii_textChars (text : Text) : Ascii (textChars text) := by
  have escaped : Ascii (text.flatMap escapedPoint) := by
    rw [Ascii, List.forall_mem_flatMap]
    exact fun point _ => (written_escapedPoint point).ascii
  exact List.forall_mem_cons.mpr ⟨by decide, escaped.append (List.forall_mem_singleton.mpr (by decide))⟩

theorem joinUnit_of_scalar {unit : CodePoint} (scalar : unit.val < 0xd800 ∨ 0xdc00 ≤ unit.val) (escapedNext : Bool)
    (text : Text) : joinUnit unit escapedNext text = unit :: text := by
  cases text with
  | nil => rfl
  | cons next rest =>
    rw [joinUnit, if_neg]
    omega

/-- The halves of a pair are joined to the code point of which they are the halves. -/
theorem joinUnit_halves {point : CodePoint} (beyond : 0x10000 ≤ point.val) {highBound lowBound} (text : Text) :
    joinUnit ⟨0xd800 + (point.val - 0x10000) / 0x400, highBound⟩ true
      (⟨0xdc00 + (point.val - 0x10000) % 0x400, lowBound⟩ :: text) = point :: text := by
  have bound := point.isLt
  have code : 0x10000 + (0xd800 + (point.val - 0x10000) / 0x400 - 0xd800) * 0x400 +
      (0xdc00 + (point.val - 0x10000) % 0x400 - 0xdc00) = point.val := by omega
  rw [joinUnit, if_pos (by simp only [true_and]; omega)]
  simp only [code, dif_pos bound]

theorem textBody_unit {unit : Nat} (fits : unit < 0x10000) {rest left : List Char} {text : Text}
    (read : textBody rest = some (text, left)) : ∃ bound, textBody (unitEscape unit ++ rest) =
      some (joinUnit ⟨unit, bound⟩ (startsEscaped rest) text, left) := by
  obtain ⟨a, b, c, d, bound, written, same⟩ := unitEscape_eq fits
  refine ⟨bound, ?_⟩
  rw [written]
  simp [textBody, same, read]

/-- A text of characters is read from what is written of it. -/
theorem textBody_escaped {text : Text} (scalar : text.Scalar) (tail : List Char) :
    textBody (text.flatMap escapedPoint ++ '"' :: tail) = some (text, tail) := by
  induction text with
  | nil => rfl
  | cons point text ih =>
    obtain ⟨first, others⟩ := List.forall_mem_cons.mp scalar
    rw [List.flatMap_cons, List.append_assoc]
    have rest := ih others
    have written := written_escapedPoint point
    generalize text.flatMap escapedPoint ++ '"' :: tail = chars at rest
    generalize escapedPoint point = shown at written
    cases written with
    | @mark c meant read same =>
      have noUnit : c ≠ 'u' := by
        rintro rfl
        cases read
      simp [textBody, noUnit, read, rest, same]
    | plain noQuote noStroke shown ascii same => simp [textBody, noStroke, shown, rest, same]
    | unit fits =>
      obtain ⟨bound, read⟩ := textBody_unit fits rest
      rw [read, joinUnit_of_scalar]
      exact first.imp_right fun high => Nat.le_trans (by decide) high
    | pair beyond =>
      have bound := point.isLt
      obtain ⟨lowBound, low⟩ := textBody_unit (show 0xdc00 + (point.val - 0x10000) % 0x400 < 0x10000 by omega) rest
      rw [joinUnit_of_scalar (.inr (Nat.le_add_right _ _))] at low
      obtain ⟨highBound, high⟩ := textBody_unit (show 0xd800 + (point.val - 0x10000) / 0x400 < 0x10000 by omega) low
      have escaped : startsEscaped (unitEscape (0xdc00 + (point.val - 0x10000) % 0x400) ++ chars) = true := rfl
      rw [List.append_assoc, high, escaped, joinUnit_halves beyond]

end Json

end CacheSeal
