import CacheSeal.Report.Text
import CacheSeal.Proofs.FailingRuns
import CacheSeal.Proofs.FieldAccess
import CacheSeal.Proofs.HexWords
import Mathlib.Data.List.Forall2

/-! What reports for people tell. Every number in them is read again from its place: no value runs into a label or a
neighbouring line, whatever its size and sign. So texts that are the same tell the same, and color adds nothing to them. -/

namespace CacheSeal

namespace Text

/-- The text is of characters that take a place of their own in a line. -/
def Visible (text : Text) : Prop :=
  ∀ point ∈ text, 0x20 ≤ point.val ∧ point.val ≤ 0x7e

def isVisible (c : Char) : Bool :=
  ' ' ≤ c && c ≤ '~'

theorem ofString_append (left right : String) : ofString (left ++ right) = ofString left ++ ofString right := by
  rw [ofString, String.toList_append, ofChars, List.map_append]
  rfl

theorem visible_ofString {text : String} (visible : text.toList.all isVisible = true) : (ofString text).Visible := by
  rw [Visible, ofString, ofChars, List.forall_mem_map]
  intro c member
  have between := List.all_eq_true.mp visible c member
  simp only [isVisible, Bool.and_eq_true, decide_eq_true_eq] at between
  exact between

theorem Visible.append {text rest : Text} (visible : text.Visible) (restVisible : rest.Visible) : (text ++ rest).Visible :=
  List.forall_mem_append.mpr ⟨visible, restVisible⟩

theorem Visible.unbroken {text : Text} (visible : text.Visible) : CodePoint.ofChar '\n' ∉ text :=
  fun member => absurd (visible _ member).1 (by decide)

/-- Nothing in the text starts a control sequence. -/
theorem Visible.clear {text : Text} (visible : text.Visible) : ∀ point ∈ text, point.val ≠ 0x1b := by
  intro point member
  have low := (visible point member).1
  omega

end Text

theorem Header.get_inj {header other : Header} :
    (∀ field ∈ Field.all, header.get field = other.get field) ↔ header = other := by
  cases header
  cases other
  simp [Field.all, get]

namespace Proofs.FailingRuns
variable {ε α β : Type} {act : α → Except ε β} {items : List α}

theorem mapM_ok_iff {results : List β} :
    items.mapM act = .ok results ↔ List.Forall₂ (fun item result => act item = .ok result) items results := by
  induction items generalizing results with
  | nil => simp [pure, Except.pure, eq_comm]
  | cons item items ih =>
    simp only [List.mapM_cons, bind_ok_iff, ih, List.forall₂_cons_left_iff]
    constructor
    · rintro ⟨result, done, rest, further, ⟨⟩⟩
      exact ⟨result, rest, done, further, rfl⟩
    · rintro ⟨result, rest, done, further, rfl⟩
      exact ⟨result, done, rest, further, rfl⟩

theorem mapM_ok_of_each (each : ∀ item ∈ items, ∃ result, act item = .ok result) :
    ∃ results, items.mapM act = .ok results := by
  induction items with
  | nil => exact ⟨[], rfl⟩
  | cons item items ih =>
    obtain ⟨first, others⟩ := List.forall_mem_cons.mp each
    obtain ⟨result, done⟩ := first
    obtain ⟨results, further⟩ := ih others
    exact ⟨result :: results, mapM_ok_iff.mpr (.cons done (mapM_ok_iff.mp further))⟩

end Proofs.FailingRuns

namespace Report
open Text Proofs.FailingRuns
variable {label : String} {value other : Int} {style : Style} {report first second : Cache.Validation}

section Visible

theorem isVisible_of_isDigit {c : Char} (digit : c.isDigit = true) : isVisible c = true := by
  simp only [Char.isDigit, isVisible, Bool.and_eq_true, decide_eq_true_eq] at *
  exact ⟨Char.le_def.mpr (UInt32.le_trans (by decide) digit.1), Char.le_def.mpr (UInt32.le_trans digit.2 (by decide))⟩

/-- The characters of a word are its mark, a sign and digits. -/
theorem isVisible_word : ∀ c ∈ (Hex.word value).toList, isVisible c = true ∧ c ≠ '>' := by
  obtain ⟨places, shown, spells, -, written⟩ := Hex.toList_word value
  have digit : ∀ place < 16, isVisible (Hex.digit .upper place) = true ∧ Hex.digit .upper place ≠ '>' := by decide
  have digits : ∀ c ∈ shown, isVisible c = true ∧ c ≠ '>' := by
    rw [spells.shown_eq, List.forall_mem_map]
    exact fun place member => digit place (spells.small place member)
  rw [written]
  refine List.forall_mem_cons.mpr ⟨by decide, List.forall_mem_cons.mpr ⟨by decide, ?_⟩⟩
  split
  · exact List.forall_mem_cons.mpr ⟨by decide, digits⟩
  · exact digits

theorem isVisible_toString : (toString value).toList.all isVisible = true := by
  obtain ⟨places, shown, writes, written⟩ := Numeral.toList_toString value
  rw [written, List.all_eq_true]
  split
  · exact List.forall_mem_cons.mpr ⟨by decide, fun c member => isVisible_of_isDigit (writes.isDigit member)⟩
  · exact fun c member => isVisible_of_isDigit (writes.isDigit member)

theorem visible_word (value : Int) : (Text.ofString (Hex.word value)).Visible :=
  visible_ofString (List.all_eq_true.mpr fun c member => (isVisible_word c member).1)

theorem visible_label (field : Field) : (Text.ofString (padded field.label)).Visible := by
  refine visible_ofString ?_
  cases field <;> decide

theorem visible_hexLine (visible : (Text.ofString (padded label)).Visible) : (hexLine label value).Visible :=
  visible.append (visible_word value)

/-- A line with a number in decimal digits. -/
def decimalLine (label : String) (value : Int) : Text :=
  Text.ofString (padded label) ++ Text.ofString (toString value)

theorem visible_decimalLine (visible : (Text.ofString (padded label)).Visible) : (decimalLine label value).Visible :=
  visible.append (visible_ofString isVisible_toString)

end Visible

section Lines

theorem hexLine_inj : hexLine label value = hexLine label other ↔ value = other := by
  rw [hexLine, hexLine, List.append_cancel_left_eq, Text.ofString_inj, Hex.word_inj]

theorem decimalLine_inj : decimalLine label value = decimalLine label other ↔ value = other := by
  rw [decimalLine, decimalLine, List.append_cancel_left_eq, Text.ofString_inj]
  constructor
  · intro same
    have read := Numeral.whole?_toString value
    rw [same, Numeral.whole?_toString] at read
    exact (Option.some.inj read).symm
  · exact congrArg toString

/-- The lines are found again in the text. -/
theorem joinLines_inj {lines others : List Text} (present : lines ≠ []) (otherPresent : others ≠ [])
    (unbroken : ∀ line ∈ lines, CodePoint.ofChar '\n' ∉ line)
    (otherUnbroken : ∀ line ∈ others, CodePoint.ofChar '\n' ∉ line) :
    joinLines lines = joinLines others ↔ lines = others := by
  have found {lines : List Text} (present : lines ≠ []) (unbroken : ∀ line ∈ lines, CodePoint.ofChar '\n' ∉ line) :
      (joinLines lines).splitOn (CodePoint.ofChar '\n') = lines :=
    List.splitOn_intercalate _ unbroken present
  constructor
  · intro same
    rw [← found present unbroken, same, found otherPresent otherUnbroken]
  · exact congrArg joinLines

end Lines

section Validations

/-- The verdict is one that a comparison gives. -/
def Given (verdict : Cache.Verdict) : Prop :=
  verdict = .agrees ∨ verdict = .differs

/-- Both sizes have few enough digits to be told. -/
def SizesWritten (report : Cache.Validation) : Prop :=
  Numeral.isWritten report.headerSize = true ∧ Numeral.isWritten report.fileSize = true

/-- The lines of a validation above its verdict. -/
def numberLines (verbose : Bool) (report : Cache.Validation) : List Text :=
  (Field.all.map fun field => hexLine field.label (report.header.get field)) ++
    (hexLine "Actual Checksum:" report.computed ::
      if verbose then [decimalLine "HeaderSize:" report.headerSize, decimalLine "FileSize:" report.fileSize] else [])

def verdictLine (word : Text) : Text :=
  Text.ofString "Result: " ++ word

theorem sizeLine_ok_iff {line : Text} :
    sizeLine label value = .ok line ↔ Numeral.isWritten value = true ∧ decimalLine label value = line := by
  rw [sizeLine, decimalLine]
  split
  next fits => simp [fits]
  next beyond => simp [beyond]

theorem sizeLines_ok_iff {verbose : Bool} {lines : List Text} : sizeLines verbose report = .ok lines ↔
    (verbose = true → SizesWritten report) ∧
      (if verbose then [decimalLine "HeaderSize:" report.headerSize, decimalLine "FileSize:" report.fileSize] else []) =
        lines := by
  cases verbose with
  | false => simp [sizeLines, pure, Except.pure]
  | true =>
    simp only [sizeLines, if_true, bind_ok_iff, sizeLine_ok_iff, SizesWritten, true_implies]
    constructor
    · rintro ⟨_, ⟨header, rfl⟩, _, ⟨file, rfl⟩, ⟨⟩⟩
      exact ⟨⟨header, file⟩, rfl⟩
    · rintro ⟨⟨header, file⟩, rfl⟩
      exact ⟨_, ⟨header, rfl⟩, _, ⟨file, rfl⟩, rfl⟩

/-- A validation can be told if its verdict has a word and its sizes, where they are told, can be written. -/
theorem validation_ok_iff {text : Text} : validation style report = .ok text ↔
    (style.verbose = true → SizesWritten report) ∧ ∃ word, verdictText style.color report.verdict = .ok word ∧
      text = joinLines (numberLines style.verbose report ++ [[]] ++ [verdictLine word]) := by
  simp only [validation, bind_ok_iff, sizeLines_ok_iff, mapError_ok_iff]
  constructor
  · rintro ⟨_, ⟨sizes, rfl⟩, word, judged, ⟨⟩⟩
    refine ⟨sizes, word, judged, ?_⟩
    simp only [numberLines, verdictLine, List.append_assoc, List.cons_append]
    rfl
  · rintro ⟨sizes, word, judged, rfl⟩
    refine ⟨_, ⟨sizes, rfl⟩, word, judged, ?_⟩
    simp only [numberLines, verdictLine, List.append_assoc, List.cons_append]
    rfl

theorem visible_numberLines (verbose : Bool) (report : Cache.Validation) :
    ∀ line ∈ numberLines verbose report, line.Visible := by
  simp only [numberLines, List.forall_mem_append, List.forall_mem_map, List.forall_mem_cons]
  refine ⟨fun field _ => visible_hexLine (visible_label field), visible_hexLine (visible_ofString (by decide)), ?_⟩
  split
  · simp only [List.forall_mem_cons]
    exact ⟨visible_decimalLine (visible_ofString (by decide)), visible_decimalLine (visible_ofString (by decide)), nofun⟩
  · nofun

theorem numberLines_inj {verbose : Bool} : numberLines verbose first = numberLines verbose second ↔
    first.header = second.header ∧ first.computed = second.computed ∧
      (verbose = true → first.headerSize = second.headerSize ∧ first.fileSize = second.fileSize) := by
  rw [numberLines, numberLines, List.append_eq_append_iff_of_size_eq_left (by simp), List.map_inj_left, List.cons.injEq,
    hexLine_inj]
  simp only [hexLine_inj, Header.get_inj]
  cases verbose <;> simp [decimalLine_inj]

theorem verdictText_given (color : Bool) {verdict : Cache.Verdict} (given : Given verdict) :
    ∃ word, verdictText color verdict = .ok word ∧ CodePoint.ofChar '\n' ∉ word := by
  obtain rfl | rfl := given <;> cases color <;> exact ⟨_, rfl, by decide⟩

theorem verdictText_inj {color : Bool} {verdict other : Cache.Verdict} (given : Given verdict) (otherGiven : Given other)
    (same : verdictText color verdict = verdictText color other) : verdict = other := by
  revert same
  obtain rfl | rfl := given <;> obtain rfl | rfl := otherGiven <;> cases color <;> decide

/-- Validations with a verdict can be told, unless a size that is to be told cannot be written. -/
theorem validation_told_iff (style : Style) (given : Given report.verdict) :
    (∃ text, validation style report = .ok text) ↔ (style.verbose = true → SizesWritten report) := by
  obtain ⟨word, judged, -⟩ := verdictText_given style.color given
  constructor
  · rintro ⟨text, told⟩
    exact (validation_ok_iff.mp told).1
  · intro sizes
    exact ⟨_, validation_ok_iff.mpr ⟨sizes, word, judged, rfl⟩⟩

/-- Texts of the same style are the same just if they tell the same. -/
theorem validation_inj {text other : Text} (firstGiven : Given first.verdict) (secondGiven : Given second.verdict)
    (told : validation style first = .ok text) (alsoTold : validation style second = .ok other) :
    text = other ↔ first.header = second.header ∧ first.computed = second.computed ∧ first.verdict = second.verdict ∧
      (style.verbose = true → first.headerSize = second.headerSize ∧ first.fileSize = second.fileSize) := by
  obtain ⟨-, word, judged, rfl⟩ := validation_ok_iff.mp told
  obtain ⟨-, otherWord, otherJudged, rfl⟩ := validation_ok_iff.mp alsoTold
  have single {verdict : Cache.Verdict} {word : Text} (given : Given verdict)
      (judged : verdictText style.color verdict = .ok word) : CodePoint.ofChar '\n' ∉ word := by
    obtain ⟨_, same, unbroken⟩ := verdictText_given style.color given
    cases same.symm.trans judged
    exact unbroken
  have words : word = otherWord ↔ first.verdict = second.verdict := by
    constructor
    · rintro rfl
      exact verdictText_inj firstGiven secondGiven (judged.trans otherJudged.symm)
    · intro same
      rw [same, otherJudged] at judged
      exact (Except.ok.inj judged).symm
  have last : [verdictLine word] = [verdictLine otherWord] ↔ first.verdict = second.verdict := by simp [verdictLine, words]
  have lines (report : Cache.Validation) {word : Text} (unbroken : CodePoint.ofChar '\n' ∉ word) :
      ∀ line ∈ numberLines style.verbose report ++ [[]] ++ [verdictLine word], CodePoint.ofChar '\n' ∉ line := by
    simp only [List.forall_mem_append, List.forall_mem_singleton]
    refine ⟨⟨fun line member => (visible_numberLines _ report line member).unbroken, by simp⟩, ?_⟩
    rw [verdictLine, List.mem_append, not_or]
    exact ⟨by decide, unbroken⟩
  rw [joinLines_inj (by simp) (by simp) (lines first (single firstGiven judged))
    (lines second (single secondGiven otherJudged))]
  rw [List.append_eq_append_iff_of_size_eq_right (by simp), List.append_eq_append_iff_of_size_eq_right (by simp),
    numberLines_inj, last]
  constructor
  · rintro ⟨⟨⟨header, computed, sizes⟩, -⟩, verdict⟩
    exact ⟨header, computed, verdict, sizes⟩
  · rintro ⟨header, computed, verdict, sizes⟩
    exact ⟨⟨⟨header, computed, sizes⟩, rfl⟩, verdict⟩

end Validations

section Codes

/-- What of a control sequence has been read. -/
inductive Reading where
  | none
  | escape
  | code

/-- What a terminal shows of a text. A control sequence starts with an escape and a bracket, and its letter ends it. -/
def shown : Reading → Text → Text
  | _, [] => []
  | .none, point :: rest => if point.val = 0x1b then shown .escape rest else point :: shown .none rest
  | .escape, point :: rest => if point.val = 0x5b then shown .code rest else shown .none rest
  | .code, point :: rest => if 0x40 ≤ point.val ∧ point.val ≤ 0x7e then shown .none rest else shown .code rest

def withoutCodes (text : Text) : Text :=
  shown .none text

theorem withoutCodes_append {text rest : Text} (clear : ∀ point ∈ text, point.val ≠ 0x1b) :
    withoutCodes (text ++ rest) = text ++ withoutCodes rest := by
  induction text with
  | nil => rfl
  | cons point text ih =>
    obtain ⟨first, others⟩ := List.forall_mem_cons.mp clear
    rw [List.cons_append, withoutCodes, shown, if_neg first]
    exact congrArg (point :: ·) (ih others)

theorem withoutCodes_verdict {verdict : Cache.Verdict} (given : Given verdict) :
    ∃ word, verdictText true verdict = .ok word ∧ withoutCodes word = verdict.name := by
  obtain rfl | rfl := given <;> exact ⟨_, rfl, by decide⟩

/-- Color is all that the codes add. -/
theorem validation_withoutCodes {verbose : Bool} (given : Given report.verdict)
    (sizes : verbose = true → SizesWritten report) :
    ∃ colored plain, validation ⟨true, verbose⟩ report = .ok colored ∧ validation ⟨false, verbose⟩ report = .ok plain ∧
      withoutCodes colored = plain := by
  obtain ⟨word, judged, bare⟩ := withoutCodes_verdict given
  refine ⟨_, _, validation_ok_iff.mpr ⟨sizes, word, judged, rfl⟩, validation_ok_iff.mpr ⟨sizes, _, rfl, rfl⟩, ?_⟩
  have clear : ∀ point ∈ (numberLines verbose report ++ [[]]).flatMap (· ++ Text.ofString "\n"), point.val ≠ 0x1b := by
    rw [List.forall_mem_flatMap]
    intro line member
    refine List.forall_mem_append.mpr ⟨?_, List.forall_mem_singleton.mpr (by decide)⟩
    obtain numbers | empty := List.mem_append.mp member
    · exact (visible_numberLines verbose report line numbers).clear
    · rw [List.mem_singleton.mp empty]
      exact nofun
  have label : Text.Visible (Text.ofString "Result: ") := visible_ofString (by decide)
  rw [joinLines, joinLines, Text.intercalate_concat, Text.intercalate_concat, withoutCodes_append clear, verdictLine,
    withoutCodes_append label.clear, bare]
  rfl

end Codes

section Rehashes

/-- A word with text around it. -/
def framed (front : String) (value : Int) (back : String) : Text :=
  Text.ofString front ++ (Text.ofString (Hex.word value) ++ Text.ofString back)

theorem framed_inj {front back : String} : framed front value back = framed front other back ↔ value = other := by
  rw [framed, framed, List.append_cancel_left_eq, List.append_cancel_right_eq, Text.ofString_inj, Hex.word_inj]

theorem visible_framed {front back : String} (frontVisible : front.toList.all isVisible = true)
    (backVisible : back.toList.all isVisible = true) : (framed front value back).Visible :=
  (visible_ofString frontVisible).append ((visible_word value).append (visible_ofString backVisible))

theorem rehash_verbose (previous new : Int) : rehash true previous new =
    joinLines [framed "Previous checksum value " previous ".", framed "New checksum value " new " written."] := by
  simp only [rehash, framed, ← ofString_append]
  rfl

theorem rehash_inj {previous new otherPrevious otherNew : Int} :
    rehash true previous new = rehash true otherPrevious otherNew ↔ previous = otherPrevious ∧ new = otherNew := by
  have unbroken (previous new : Int) :
      ∀ line ∈ [framed "Previous checksum value " previous ".", framed "New checksum value " new " written."],
        CodePoint.ofChar '\n' ∉ line := by
    simp only [List.forall_mem_cons]
    exact ⟨(visible_framed (by decide) (by decide)).unbroken, (visible_framed (by decide) (by decide)).unbroken, nofun⟩
  rw [rehash_verbose, rehash_verbose, joinLines_inj (by simp) (by simp) (unbroken _ _) (unbroken _ _), List.cons.injEq,
    List.singleton_inj, framed_inj, framed_inj]

end Rehashes

section Transplants

/-- All fields have labels of their own, which reach as far. -/
theorem padded_label_inj {field other : Field} : padded field.label = padded other.label ↔ field = other := by
  have apart : ∀ field ∈ Field.all, ∀ other ∈ Field.all, padded field.label = padded other.label → field = other := by decide
  exact ⟨apart field (by cases field <;> decide) other (by cases other <;> decide),
    congrArg fun field : Field => padded field.label⟩

def movedLine (field : Field) (before value : Int) : Text :=
  Text.ofString (padded field.label) ++
    ((Text.ofString (Hex.word before) ++ Text.ofString " -") ++ CodePoint.ofChar '>' :: framed " " value "")

theorem movedLine_inj {field otherField : Field} {before otherBefore : Int} :
    movedLine field before value = movedLine otherField otherBefore other ↔
      field = otherField ∧ before = otherBefore ∧ value = other := by
  have length (field : Field) : (Text.ofString (padded field.label)).length = labelWidth := by cases field <;> decide
  have noMark (value : Int) : CodePoint.ofChar '>' ∉ Text.ofString (Hex.word value) := by
    rw [Text.ofString, Text.ofChars, List.mem_map]
    rintro ⟨c, member, same⟩
    exact (isVisible_word c member).2 (CodePoint.ofChar_inj.mp same)
  rw [movedLine, movedLine, List.append_eq_append_iff_of_size_eq_left (by rw [length, length]), Text.ofString_inj,
    padded_label_inj, List.append_cons_inj_of_notMem]
  · rw [List.append_cancel_right_eq, Text.ofString_inj, Hex.word_inj, framed_inj, eq_self, true_and]
  · rw [List.mem_append, not_or]
    exact ⟨noMark _, by decide⟩
  · simp only [framed, List.mem_append, not_or]
    exact ⟨by decide, noMark _, by decide⟩

theorem transplantLine_ok_iff {previous : NamedValues} {entry : Text × Int} {line : Text} :
    transplantLine previous entry = .ok line ↔ ∃ field before, Field.ofName? entry.1 = some field ∧
      previous.get? entry.1 = some before ∧ line = movedLine field before entry.2 := by
  obtain ⟨name, value⟩ := entry
  have written (field : Field) (before : Int) : (Text.ofString (padded field.label) ++ Text.ofString (Hex.word before) ++
      Text.ofString " -> " ++ Text.ofString (Hex.word value) : Text) = movedLine field before value := by
    simp only [movedLine, framed, List.append_assoc]
    rw [show Text.ofString "" = [] from rfl, List.append_nil]
    rfl
  simp only [transplantLine]
  cases Field.ofName? name with
  | none => simp [throw, throwThe, MonadExceptOf.throw]
  | some field =>
    cases previous.get? name with
    | none => simp [throw, throwThe, MonadExceptOf.throw]
    | some before => simp [pure, Except.pure, ← written, eq_comm]

/-- The names are those of the hashes, in some order. -/
def OverHashes (values : NamedValues) : Prop :=
  (values.map (·.1)).Perm (Field.transplanted.map fun field => Text.ofString field.name)

theorem OverHashes.get?_isSome {values : NamedValues} (hashed : OverHashes values) {name : Text} :
    (values.get? name).isSome = true ↔ ∃ field ∈ Field.transplanted, Text.ofString field.name = name := by
  rw [← List.mem_map, ← hashed.mem_iff, NamedValues.get?, List.lookup_isSome_iff, List.mem_map]
  simp only [beq_iff_eq, eq_comm (a := name)]

theorem NamedValues.put_of_absent {values : NamedValues} {name : Text} (absent : name ∉ values.map (·.1)) (value : Int) :
    values.put name value = values ++ [(name, value)] := by
  induction values with
  | nil => rfl
  | cons entry rest ih =>
    rw [List.map_cons, List.mem_cons, not_or] at absent
    rw [put, if_neg (Ne.symm absent.1), ih absent.2, List.cons_append]

/-- Values under different names are put as they come. -/
theorem NamedValues.ofPairs_eq {pairs : List (Text × Int)} (distinct : (pairs.map (·.1)).Nodup) : ofPairs pairs = pairs := by
  suffices added : ∀ values : NamedValues, ((values ++ pairs).map (·.1)).Nodup →
      pairs.foldl (fun values pair => values.put pair.1 pair.2) values = values ++ pairs from added [] distinct
  clear distinct
  induction pairs with
  | nil => intro values _; exact (List.append_nil values).symm
  | cons pair rest ih =>
    intro values apart
    have absent : pair.1 ∉ values.map (·.1) := by
      rw [List.map_append, List.nodup_append] at apart
      exact fun among => apart.2.2 _ among _ List.mem_cons_self rfl
    rw [List.foldl_cons, put_of_absent absent, ih, List.append_assoc]
    · rfl
    · rwa [List.append_assoc]

theorem overHashes_names (value : Field → Int) :
    OverHashes (names (Field.transplanted.map fun field => (field, value field))) := by
  have named : ((Field.transplanted.map fun field => (field, value field)).map fun entry =>
      (Text.ofString entry.1.name, entry.2)).map (·.1) = Field.transplanted.map fun field => Text.ofString field.name := by
    simp only [List.map_map, Function.comp_def]
  rw [OverHashes, names, NamedValues.ofPairs_eq, named]
  rw [named]
  decide

theorem visible_movedLine {field : Field} {before : Int} : (movedLine field before value).Visible := by
  have mark : Visible [CodePoint.ofChar '>'] := visible_ofString (by decide : ">".toList.all isVisible = true)
  exact (visible_label field).append (((visible_word before).append (visible_ofString (by decide))).append
    (mark.append (visible_framed (by decide) (by decide))))

/-- What is told of the entries, each in a line of its own. -/
abbrev Told (previous transplanted : NamedValues) (lines : List Text) : Prop :=
  List.Forall₂ (fun entry line => transplantLine previous entry = .ok line) transplanted lines

theorem Told.unbroken {previous transplanted : NamedValues} {lines : List Text} (told : Told previous transplanted lines) :
    ∀ line ∈ lines, CodePoint.ofChar '\n' ∉ line := by
  induction told with
  | nil => nofun
  | cons first _ ih =>
    obtain ⟨field, before, -, -, rfl⟩ := transplantLine_ok_iff.mp first
    exact List.forall_mem_cons.mpr ⟨visible_movedLine.unbroken, ih⟩

theorem Told.inj {previous otherPrevious transplanted otherTransplanted : NamedValues} {lines : List Text}
    (told : Told previous transplanted lines) (otherTold : Told otherPrevious otherTransplanted lines) :
    transplanted = otherTransplanted ∧ ∀ entry ∈ transplanted, previous.get? entry.1 = otherPrevious.get? entry.1 := by
  induction told generalizing otherTransplanted with
  | nil =>
    cases otherTold
    exact ⟨rfl, nofun⟩
  | @cons entry _ _ _ first _ ih =>
    cases otherTold with
    | @cons otherEntry _ _ _ otherFirst otherRest =>
      obtain ⟨same, befores⟩ := ih otherRest
      obtain ⟨field, before, named, found, rfl⟩ := transplantLine_ok_iff.mp first
      obtain ⟨otherField, otherBefore, otherNamed, otherFound, line⟩ := transplantLine_ok_iff.mp otherFirst
      obtain ⟨rfl, rfl, value⟩ := movedLine_inj.mp line
      have name := (Field.ofName?_eq_some_iff.mp named).trans (Field.ofName?_eq_some_iff.mp otherNamed).symm
      refine ⟨List.cons_eq_cons.mpr ⟨Prod.ext name value, same⟩, List.forall_mem_cons.mpr ⟨?_, befores⟩⟩
      rw [found, name, otherFound]

theorem transplant_ok {previous transplanted : NamedValues} (overPrevious : OverHashes previous)
    (hashed : OverHashes transplanted) :
    ∃ lines, lines ≠ [] ∧ Told previous transplanted lines ∧ transplant previous transplanted = .ok (joinLines lines) := by
  have each : ∀ entry ∈ transplanted, ∃ line, transplantLine previous entry = .ok line := by
    intro entry member
    obtain ⟨field, among, named⟩ := List.mem_map.mp (hashed.mem_iff.mp (List.mem_map_of_mem member))
    obtain ⟨before, found⟩ := Option.isSome_iff_exists.mp (overPrevious.get?_isSome.mpr ⟨field, among, named⟩)
    exact ⟨_, transplantLine_ok_iff.mpr ⟨field, before, Field.ofName?_eq_some_iff.mpr named.symm, found, rfl⟩⟩
  obtain ⟨lines, made⟩ := mapM_ok_of_each each
  have told : Told previous transplanted lines := mapM_ok_iff.mp made
  refine ⟨lines, ?_, told, ?_⟩
  · rintro rfl
    have three := hashed.length_eq
    rw [List.length_map, told.length_eq] at three
    cases three
  · rw [transplant, made]
    rfl

/-- What a transplant has moved can be told. -/
theorem transplant_told {layout : Layout} {buffer donor : Bytes} {result : Cache.Transplant}
    (transplanted : Cache.transplant layout buffer donor = .ok result) :
    ∃ text, transplant (names result.previous) (names result.transplanted) = .ok text := by
  simp only [Cache.transplant, bind_ok_iff] at transplanted
  obtain ⟨target, -, source, -, ⟨⟩⟩ := transplanted
  obtain ⟨lines, -, -, made⟩ := transplant_ok (overHashes_names target.get) (overHashes_names source.get)
  exact ⟨_, made⟩

/-- Transplants of the hashes can be told, and texts are the same just if they tell the same. -/
theorem transplant_inj {previous transplanted otherPrevious otherTransplanted : NamedValues}
    (overPrevious : OverHashes previous) (hashed : OverHashes transplanted) (otherOverPrevious : OverHashes otherPrevious)
    (otherOver : OverHashes otherTransplanted) : ∃ text other, transplant previous transplanted = .ok text ∧
      transplant otherPrevious otherTransplanted = .ok other ∧
      (text = other ↔ transplanted = otherTransplanted ∧ ∀ name, previous.get? name = otherPrevious.get? name) := by
  obtain ⟨lines, present, told, made⟩ := transplant_ok overPrevious hashed
  obtain ⟨otherLines, otherPresent, otherTold, otherMade⟩ := transplant_ok otherOverPrevious otherOver
  refine ⟨_, _, made, otherMade, ?_⟩
  constructor
  · intro same
    obtain rfl := (joinLines_inj present otherPresent told.unbroken otherTold.unbroken).mp same
    obtain ⟨rfl, befores⟩ := told.inj otherTold
    refine ⟨rfl, fun name => ?_⟩
    by_cases among : name ∈ transplanted.map (·.1)
    · obtain ⟨entry, member, rfl⟩ := List.mem_map.mp among
      exact befores entry member
    · have absent {values : NamedValues} (overHashes : OverHashes values) : values.get? name = none := by
        rw [← Option.not_isSome_iff_eq_none, overHashes.get?_isSome, ← List.mem_map, ← hashed.mem_iff]
        exact among
      rw [absent overPrevious, absent otherOverPrevious]
  · rintro ⟨rfl, befores⟩
    have lineSame : transplantLine previous = transplantLine otherPrevious := by
      funext entry
      simp only [transplantLine, befores]
    rw [transplant, lineSame] at made
    exact Except.ok.inj (made.symm.trans otherMade)

end Transplants

/-- Nothing is lost in a text. What it is made of is read from it again, whatever the numbers, and it is the same without
its codes as it is without color. All can be told but a size of too many digits. -/
theorem texts_lose_nothing :
    (∀ (style : Style) (report : Cache.Validation), Given report.verdict →
      ((∃ text, validation style report = .ok text) ↔ (style.verbose = true → SizesWritten report))) ∧
    (∀ (style : Style) (first second : Cache.Validation) (text other : Text), Given first.verdict → Given second.verdict →
      validation style first = .ok text → validation style second = .ok other →
        (text = other ↔ first.header = second.header ∧ first.computed = second.computed ∧ first.verdict = second.verdict ∧
          (style.verbose = true → first.headerSize = second.headerSize ∧ first.fileSize = second.fileSize))) ∧
    (∀ (verbose : Bool) (report : Cache.Validation), Given report.verdict → (verbose = true → SizesWritten report) →
      ∃ colored plain, validation ⟨true, verbose⟩ report = .ok colored ∧ validation ⟨false, verbose⟩ report = .ok plain ∧
        withoutCodes colored = plain) ∧
    (∀ previous transplanted otherPrevious otherTransplanted : NamedValues, OverHashes previous → OverHashes transplanted →
      OverHashes otherPrevious → OverHashes otherTransplanted → ∃ text other, transplant previous transplanted = .ok text ∧
        transplant otherPrevious otherTransplanted = .ok other ∧
        (text = other ↔ transplanted = otherTransplanted ∧ ∀ name, previous.get? name = otherPrevious.get? name)) ∧
    ∀ previous new otherPrevious otherNew : Int, rehash true previous new = rehash true otherPrevious otherNew ↔
      previous = otherPrevious ∧ new = otherNew :=
  ⟨fun style _ given => validation_told_iff style given,
    fun _ _ _ _ _ firstGiven secondGiven told alsoTold => validation_inj firstGiven secondGiven told alsoTold,
    fun _ _ given sizes => validation_withoutCodes given sizes,
    fun _ _ _ _ overPrevious hashed otherOverPrevious otherOver =>
      transplant_inj overPrevious hashed otherOverPrevious otherOver,
    fun _ _ _ _ => rehash_inj⟩

/-- A report on a checksum, beyond any word. -/
def reportOn (computed : Int) : Cache.Validation :=
  ⟨⟨2 ^ 40, -1, 0, 1, -(2 ^ 33), 16, 7⟩, computed, .differs, 32, 48, ⟨.w64, .little, .whole⟩⟩

def hashes (flag : Int) : NamedValues :=
  [("flag_hash", flag), ("version_hash", -1), ("source_hash", 2 ^ 32)]

theorem texts_lose_nothing_of_sign : Given (reportOn (-1)).verdict ∧ Given (reportOn (2 ^ 32 - 1)).verdict ∧
    OverHashes (hashes (-1)) ∧ OverHashes (hashes (2 ^ 32 - 1)) ∧
    (∃ text other, validation ⟨true, true⟩ (reportOn (-1)) = .ok text ∧
      validation ⟨true, true⟩ (reportOn (2 ^ 32 - 1)) = .ok other ∧ text ≠ other) ∧
    (∃ colored plain, validation ⟨true, true⟩ (reportOn (-1)) = .ok colored ∧
      validation ⟨false, true⟩ (reportOn (-1)) = .ok plain ∧ withoutCodes colored = plain) ∧
    (∃ text other, transplant (hashes (-1)) (hashes (-1)) = .ok text ∧
      transplant (hashes (2 ^ 32 - 1)) (hashes (-1)) = .ok other ∧ text ≠ other) ∧
    rehash true (-1) 0 ≠ rehash true (2 ^ 32 - 1) 0 := by
  obtain ⟨tells, validations, codes, transplants, rehashes⟩ := texts_lose_nothing
  have given (computed : Int) : Given (reportOn computed).verdict := .inr rfl
  have sizes (computed : Int) : SizesWritten (reportOn computed) :=
    (by decide : Numeral.isWritten 32 = true ∧ Numeral.isWritten 48 = true)
  have hashed (flag : Int) : OverHashes (hashes flag) := by
    change List.Perm [Text.ofString "flag_hash", Text.ofString "version_hash", Text.ofString "source_hash"] _
    decide
  obtain ⟨text, made⟩ := (tells ⟨true, true⟩ _ (given (-1))).mpr fun _ => sizes _
  obtain ⟨other, otherMade⟩ := (tells ⟨true, true⟩ _ (given (2 ^ 32 - 1))).mpr fun _ => sizes _
  obtain ⟨moved, otherMoved, movedMade, otherMovedMade, movedTold⟩ :=
    transplants _ _ _ _ (hashed (-1)) (hashed (-1)) (hashed (2 ^ 32 - 1)) (hashed (-1))
  refine ⟨given _, given _, hashed _, hashed _, ⟨text, other, made, otherMade, ?_⟩, codes true _ (given _) fun _ => sizes _,
    ⟨moved, otherMoved, movedMade, otherMovedMade, ?_⟩, ?_⟩
  · intro same
    cases ((validations _ _ _ _ _ (given _) (given _) made otherMade).mp same).2.1
  · intro same
    cases (movedTold.mp same).2 "flag_hash"
  · intro same
    cases ((rehashes _ _ _ _).mp same).1

end Report

end CacheSeal
