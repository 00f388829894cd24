import CacheSeal.Proofs.EscapedTexts
import CacheSeal.Proofs.JsonDrafts

/-! Documents are written in ASCII, whatever is in their texts, so that a character is a byte. -/

namespace CacheSeal

theorem toList_loop (bytes : ByteArray) (place : Nat) (taken : List UInt8) :
    ByteArray.toList.loop bytes place taken = taken.reverse ++ bytes.data.toList.drop place := by
  fun_induction ByteArray.toList.loop bytes place taken with
  | case1 place taken inside ih =>
    have within : place < bytes.data.toList.length := inside
    rw [ih, List.drop_eq_getElem_cons within]
    simp [ByteArray.get!, inside]
  | case2 place taken outside =>
    have beyond : bytes.data.toList.length ≤ place := Nat.le_of_not_lt outside
    rw [List.drop_eq_nil_of_le beyond, List.append_nil]

theorem toList_toUTF8 (text : String) : text.toUTF8.toList = text.toList.flatMap String.utf8EncodeChar := by
  have encoded : text.toUTF8 = (text.toList.flatMap String.utf8EncodeChar).toByteArray :=
    congrArg String.toByteArray (String.ofList_toList (s := text)).symm
  rw [encoded, ByteArray.toList, toList_loop, List.toList_data_toByteArray]
  rfl

namespace Json

/-- A character of ASCII is one byte. -/
theorem Ascii.bytes {text : String} (ascii : Ascii text.toList) :
    text.toUTF8.toList.map UInt8.toNat = text.toList.map Char.toNat := by
  have single : ∀ c ∈ text.toList, (String.utf8EncodeChar c).map UInt8.toNat = [c.toNat] := by
    intro c member
    have low : c.val.toNat ≤ 0x7f := Nat.le_of_lt_succ (ascii c member)
    have byte : c.val.toNat % 256 = c.val.toNat := Nat.mod_eq_of_lt (by omega)
    rw [String.utf8EncodeChar, if_pos low, List.map_singleton, UInt8.toNat_ofNat', byte]
    rfl
  rw [toList_toUTF8, List.map_flatMap, List.flatMap_congr single, List.map_eq_flatMap]

theorem Ascii.byte_lt {text : String} (ascii : Ascii text.toList) : ∀ byte ∈ text.toUTF8.toList, byte.toNat < 128 := by
  intro byte inside
  have code : byte.toNat ∈ text.toUTF8.toList.map UInt8.toNat := List.mem_map_of_mem inside
  rw [ascii.bytes] at code
  obtain ⟨c, member, same⟩ := List.mem_map.mp code
  exact same ▸ ascii c member

theorem ascii_digits {chars : List Char} (digits : ∀ c ∈ chars, c.isDigit = true) : Ascii chars := by
  intro c member
  have digit := digits c member
  simp only [Char.isDigit, Bool.and_eq_true, decide_eq_true_eq] at digit
  have high : c.toNat ≤ '9'.toNat := UInt32.le_iff_toNat_le.mp digit.2
  exact Nat.lt_of_le_of_lt high (by decide)

theorem ascii_wholeDigits (value : Nat) : Ascii (Decimal.wholeDigits value) :=
  ascii_digits fun _ member => Nat.isDigit_of_mem_toDigits (by decide) (by decide) member

theorem ascii_int (value : Int) : Ascii (toString value).toList := by
  change Ascii value.repr.toList
  rw [Int.repr_eq_if]
  split
  · rw [Nat.repr_eq_ofList_toDigits, String.toList_ofList]
    exact ascii_wholeDigits _
  · rw [Nat.repr_eq_ofList_toDigits, String.toList_append, @String.toList_ofList (Nat.toDigits _ _)]
    exact Ascii.append (by decide) (ascii_wholeDigits _)

open Decimal in
theorem ascii_decimal (style : Notation) (decimal : Decimal) : Ascii (style.write decimal) := by
  have zeros (count : Nat) : Ascii (List.replicate count '0') := by
    intro c member
    rw [List.eq_of_mem_replicate member]
    decide
  have digits := ascii_wholeDigits decimal.digits
  have part {chars : List Char} (among : chars.Sublist (wholeDigits decimal.digits)) : Ascii chars :=
    fun c member => digits c (among.subset member)
  have mark {c : Char} {chars : List Char} (plain : Ascii [c]) (rest : Ascii chars) : Ascii (c :: chars) :=
    plain.append rest
  unfold Notation.write
  dsimp only
  split
  · split
    · exact mark (by decide) (mark (by decide) ((zeros _).append digits))
    · split
      · exact (digits.append (zeros _)).append (by decide)
      · exact (part (List.take_sublist _ _)).append (mark (by decide) (part (List.drop_sublist _ _)))
  · refine (part (List.take_sublist _ _)).append ?_ |>.append (mark (by decide) ?_)
    · split
      · exact nofun
      · exact mark (by decide) (part (List.drop_sublist _ _))
    · unfold exponentText
      dsimp only
      split
      · exact mark (by decide) ((zeros _).append (ascii_wholeDigits _))
      · exact mark (by decide) ((zeros _).append (ascii_wholeDigits _))

theorem ascii_float (value : Float) : Ascii (Decimal.write floatWords value).toList := by
  let double := Double.ofFloat value
  have magnitude : Ascii (if !double.isFinite then floatWords.infinity.toList
      else if double.isZero then ['0', '.', '0'] else Decimal.standard.write (Decimal.Binary.ofDouble double).shortest) := by
    split
    · exact (by decide : Ascii ['I', 'n', 'f', 'i', 'n', 'i', 't', 'y'])
    · split
      · exact (by decide : Ascii ['0', '.', '0'])
      · exact ascii_decimal _ _
  unfold Decimal.write
  dsimp only
  split
  · exact (by decide : Ascii ['N', 'a', 'N'])
  · rw [String.toList_ofList]
    split
    · exact Ascii.append (by decide : Ascii ['-']) magnitude
    · exact magnitude

theorem ascii_indent (level : Nat) : Ascii (indent level) := by
  refine List.forall_mem_cons.mpr ⟨by decide, fun c member => ?_⟩
  rw [List.eq_of_mem_replicate member]
  decide

theorem ascii_intercalate {mark : List Char} (plain : Ascii mark) {parts : List (List Char)}
    (each : ∀ part ∈ parts, Ascii part) : Ascii (mark.intercalate parts) := by
  induction parts with
  | nil => exact nofun
  | cons part parts ih =>
    obtain ⟨first, others⟩ := List.forall_mem_cons.mp each
    cases parts with
    | nil => rwa [List.intercalate_singleton]
    | cons next parts =>
      rw [List.intercalate_cons_cons]
      exact (first.append plain).append (ih others)

theorem ascii_enclosed {opening closing : Char} (brackets : Ascii [opening, closing]) (level : Nat)
    {parts : List (List Char)} (each : ∀ part ∈ parts, Ascii part) : Ascii (enclosed opening closing level parts) := by
  obtain ⟨opens, closes⟩ := List.forall_mem_cons.mp brackets
  have line (mark : Char) (plain : mark.toNat < 128) : Ascii (mark :: indent (level + 1)) :=
    List.forall_mem_cons.mpr ⟨plain, ascii_indent _⟩
  cases parts with
  | nil => exact brackets
  | cons part parts =>
    have lines := (line opening opens).append (ascii_intercalate (line ',' (by decide)) each)
    exact (lines.append (ascii_indent level)).append closes

theorem ascii_text (json : Json) (level : Nat) : Ascii (json.text level) := by
  induction json using memberwise generalizing level with
  | null => exact (by decide : Ascii ['n', 'u', 'l', 'l'])
  | bool value =>
    cases value with
    | true => exact (by decide : Ascii ['t', 'r', 'u', 'e'])
    | false => exact (by decide : Ascii ['f', 'a', 'l', 's', 'e'])
  | int value => exact ascii_int value
  | float value => exact ascii_float value
  | str value => exact ascii_textChars value
  | list items ih =>
    rw [text_list]
    refine ascii_enclosed (by decide) level ?_
    rw [List.forall_mem_map]
    exact fun item member => ih item member (level + 1)
  | object members ih =>
    rw [text_object]
    refine ascii_enclosed (by decide) level ?_
    rw [List.forall_mem_map]
    intro member inside
    have named : Ascii (textChars member.1 ++ [':', ' ']) := (ascii_textChars member.1).append (by decide)
    exact named.append (ih member ((perm_sortMembers members).mem_iff.mp inside) (level + 1))
  | foreign kind => exact nofun

end Json

end CacheSeal
