import CacheSeal.Text.Quoted
import Mathlib.Data.List.Basic

/-! Texts between quotes. A plain character is shown as it is, so a text of plain characters is. -/

namespace CacheSeal

theorem CodePoint.isPrintable_of_ascii {point : CodePoint} (low : 0x20 ≤ point.val) (high : point.val ≤ 0x7e) :
    point.isPrintable = true := by
  have apart : ∀ range ∈ unprintableRanges, range.2 < 0x20 ∨ 0x7e < range.1 := by decide +kernel
  rw [isPrintable, Bool.not_eq_true', List.any_eq_false]
  intro range member
  have outside := apart range member
  simp only [Bool.and_eq_true, decide_eq_true_eq, not_and]
  omega

theorem CodePoint.toChar?_ofChar (c : Char) : (ofChar c).toChar? = some c := by
  have valid : (ofChar c).val.isValidChar := c.valid
  rw [toChar?, if_pos valid]
  exact congrArg some (Char.ofNat_toNat c)

/-- A character that a quoted text shows as it is. -/
def Text.isPlain (c : Char) : Bool :=
  ' ' ≤ c && c ≤ '~' && c ≠ '\'' && c ≠ '\\'

theorem Text.quotedPoint_of_plain {c : Char} (plain : isPlain c = true) : quotedPoint '\'' (.ofChar c) = [c] := by
  simp only [isPlain, Bool.and_eq_true, decide_eq_true_eq] at plain
  obtain ⟨⟨⟨low, high⟩, noQuote⟩, noStroke⟩ := plain
  have printable : (CodePoint.ofChar c).isPrintable = true := CodePoint.isPrintable_of_ascii low high
  have noTab : c ≠ '\t' := fun same => absurd low (by rw [same]; decide)
  have noFeed : c ≠ '\n' := fun same => absurd low (by rw [same]; decide)
  have noReturn : c ≠ '\r' := fun same => absurd low (by rw [same]; decide)
  simp [quotedPoint, CodePoint.toChar?_ofChar, *]

/-- A text of plain characters is shown between single quotes as it is. -/
theorem quoted_of_plain {text : String} (plain : text.toList.all Text.isPlain = true) : quoted text = s!"'{text}'" := by
  rw [List.all_eq_true] at plain
  have unquoted : (Text.ofString text).contains (.ofChar '\'') = false := by
    rw [List.contains_eq_mem, decide_eq_false_iff_not, Text.ofString, Text.ofChars, List.mem_map]
    rintro ⟨c, member, same⟩
    have excluded := plain c member
    rw [CodePoint.ofChar_inj.mp same] at excluded
    cases excluded
  have shown : (Text.ofString text).flatMap (Text.quotedPoint '\'') = text.toList := by
    rw [Text.ofString, Text.ofChars, List.flatMap_map,
      List.flatMap_congr fun c member => Text.quotedPoint_of_plain (plain c member)]
    exact List.flatMap_singleton' _
  rw [quoted, Text.quoted, Text.quoteMark, unquoted]
  simp only [Bool.false_and, Bool.false_eq_true, if_false, shown]
  apply String.toList_inj.mp
  simp [toString]

end CacheSeal
