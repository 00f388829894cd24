import CacheSeal.Proofs.EscapedTexts
import CacheSeal.Proofs.JsonDrafts
import CacheSeal.Proofs.WholeNumbers

/-! The text of a document is read as that document. A value ends with its own characters, and a number where no
more of its characters follow; the parts of a list or of an object are read one after the other, whatever blanks stand
between them. Two steps a character are enough, for each step into a list or an object comes after a character of its
own. -/

namespace CacheSeal.Json
variable {steps level : Nat} {tail : List Char}

section Blanks

theorem skipBlanks_append {blanks : List Char} (blank : ∀ c ∈ blanks, c = ' ' ∨ c = '\n') (text : List Char) :
    skipBlanks (blanks ++ text) = skipBlanks text := by
  refine List.dropWhile_append_of_pos fun c member => ?_
  obtain rfl | rfl := blank c member <;> rfl

theorem blank_indent (level : Nat) : ∀ c ∈ indent level, c = ' ' ∨ c = '\n' :=
  List.forall_mem_cons.mpr ⟨.inr rfl, fun _ member => .inl (List.eq_of_mem_replicate member)⟩

/-- The character starts a value: it is no blank, and it closes no bracket. -/
def Starts (c : Char) : Prop :=
  c ∉ [' ', '\t', '\n', '\r', ']', '\x7d']

instance (c : Char) : Decidable (Starts c) :=
  inferInstanceAs (Decidable (c ∉ _))

theorem Starts.ne {c other : Char} (starts : Starts c) (none : ¬ Starts other) : c ≠ other := by
  rintro rfl
  exact none starts

theorem skipBlanks_starts {c : Char} (starts : Starts c) (rest : List Char) : skipBlanks (c :: rest) = c :: rest := by
  refine List.dropWhile_cons_of_neg ?_
  simp [starts.ne (show ¬ Starts ' ' by decide), starts.ne (show ¬ Starts '\t' by decide),
    starts.ne (show ¬ Starts '\n' by decide), starts.ne (show ¬ Starts '\r' by decide)]

theorem valueWithin_blanks {blanks : List Char} (blank : ∀ c ∈ blanks, c = ' ' ∨ c = '\n') (steps : Nat) (text : List Char) :
    valueWithin steps (blanks ++ text) = valueWithin steps text := by
  cases steps with
  | zero => rfl
  | succ steps => rw [valueWithin, valueWithin, skipBlanks_append blank]

end Blanks

/-- What follows a number does not go on with it. -/
def Apart (tail : List Char) : Prop :=
  ∀ c rest, tail = c :: rest → isNumberChar c = false

/-- The characters are read as the part that they stand for, whatever follows them. -/
structure Spells {β : Type} (one : Nat → List Char → Option (β × List Char)) (chars : List Char) (part : β) : Prop where
  starts : ∃ first rest, chars = first :: rest ∧ Starts first
  ends : chars.getLast? ≠ some '\n'
  reads : ∀ steps tail, 2 * chars.length ≤ steps → Apart tail → one steps (chars ++ tail) = some (part, tail)

section Scalars

theorem spells_of_step {chars : List Char} {value : Json}
    (starts : ∃ first rest, chars = first :: rest ∧ Starts first) (ends : chars.getLast? ≠ some '\n')
    (reads : ∀ steps tail, Apart tail → valueWithin (steps + 1) (chars ++ tail) = some (value, tail)) :
    Spells valueWithin chars value := by
  refine ⟨starts, ends, ?_⟩
  intro steps tail enough apart
  obtain ⟨first, rest, rfl, -⟩ := starts
  cases steps with
  | zero => simp at enough
  | succ steps => exact reads steps tail apart

theorem spells_null : Spells valueWithin ['n', 'u', 'l', 'l'] null :=
  spells_of_step ⟨'n', _, rfl, by decide⟩ (by decide) fun steps tail _ => by
    simp [valueWithin, skipBlanks, after?]

theorem spells_true : Spells valueWithin ['t', 'r', 'u', 'e'] (bool true) :=
  spells_of_step ⟨'t', _, rfl, by decide⟩ (by decide) fun steps tail _ => by
    simp [valueWithin, skipBlanks, after?]

theorem spells_false : Spells valueWithin ['f', 'a', 'l', 's', 'e'] (bool false) :=
  spells_of_step ⟨'f', _, rfl, by decide⟩ (by decide) fun steps tail _ => by
    simp [valueWithin, skipBlanks, after?]

theorem starts_textChars (text : Text) : ∃ first rest, textChars text = first :: rest ∧ Starts first :=
  ⟨'"', _, rfl, by decide⟩

theorem spells_str {text : Text} (scalar : text.Scalar) : Spells valueWithin (textChars text) (.str text) := by
  refine spells_of_step (starts_textChars text) ?_ fun steps tail _ => ?_
  · rw [textChars, List.getLast?_concat]
    decide
  · rw [textChars, List.append_assoc, List.singleton_append, List.cons_append, valueWithin]
    simp [skipBlanks, textBody_escaped scalar]

open Numeral in
theorem startsWell_of_writes {value : Nat} {shown : List Char} {places : List Nat} (writes : Writes value shown places) :
    startsWell shown = true := by
  obtain ⟨place, rest, rfl⟩ := List.exists_cons_of_ne_nil writes.present
  obtain ⟨-, digit, zero⟩ := digitChar_plain (writes.small place List.mem_cons_self)
  rw [writes.shown_eq, List.map_cons]
  by_cases leading : place.digitChar = '0'
  · obtain ⟨-, rfl⟩ := List.cons_eq_cons.mp (writes.leads (congrArg some (zero leading)))
    rw [leading]
    rfl
  · simp [startsWell, leading, digit]

/-- What a whole number is written with. -/
def IsWhole (c : Char) : Prop :=
  c.isDigit = true ∨ c = '-'

theorem IsWhole.ne {c : Char} (whole : IsWhole c) (other : Char) (noDigit : other.isDigit = false) (noMinus : other ≠ '-') :
    c ≠ other := by
  rintro rfl
  obtain digit | minus := whole
  · cases digit.symm.trans noDigit
  · exact noMinus minus

/-- A whole number has digits behind its sign, if it has one. -/
theorem toString_whole (value : Int) : ∃ places shown, Numeral.Writes value.natAbs shown places ∧
    ((toString value).toList = shown ∨ (toString value).toList = '-' :: shown) ∧
    ∀ c ∈ (toString value).toList, IsWhole c := by
  obtain ⟨places, shown, writes, written⟩ := Numeral.toList_toString value
  refine ⟨places, shown, writes, ?_, ?_⟩
  · rw [written]
    split
    · exact .inr rfl
    · exact .inl rfl
  · have digits : ∀ c ∈ shown, IsWhole c := fun c member => .inl (writes.isDigit member)
    rw [written]
    split
    · exact List.forall_mem_cons.mpr ⟨.inr rfl, digits⟩
    · exact digits

theorem toString_ne_nil (value : Int) : (toString value).toList ≠ [] := by
  obtain ⟨places, shown, writes, written, -⟩ := toString_whole value
  obtain same | same := written
  · rw [same]
    exact writes.shown_ne_nil
  · rw [same]
    exact List.cons_ne_nil _ _

theorem number?_toString (value : Int) : number? (toString value).toList = some (.int value) := by
  have read := Numeral.whole?_toString value
  obtain ⟨places, shown, writes, written, whole⟩ := toString_whole value
  generalize (toString value).toList = chars at read written whole
  have unsigned : (Numeral.splitSign chars).2 = shown := by
    obtain rfl | rfl := written
    · rw [Numeral.splitSign_of_digits? writes.digits?_eq]
    · rfl
  have ends : endsWell chars = true := by
    have last : chars.getLast? = shown.getLast? := by
      obtain rfl | rfl := written
      · rfl
      · exact List.getLast?_cons_of_ne_nil writes.shown_ne_nil
    have final := List.getLast?_eq_some_getLast writes.shown_ne_nil
    rw [endsWell, last, final]
    exact writes.isDigit (List.getLast_mem _)
  have noPlus : chars.head? ≠ some '+' := by
    intro plus
    exact (whole '+' (List.mem_of_head? plus)).ne '+' rfl (by decide) rfl
  have noPoint : (chars.any fun c => c = '.' || c = 'e' || c = 'E') = false := by
    rw [List.any_eq_false]
    intro c member
    have is := whole c member
    simp [is.ne '.' rfl (by decide), is.ne 'e' rfl (by decide), is.ne 'E' rfl (by decide)]
  simp only [number?, unsigned, startsWell_of_writes writes, ends, noPoint, read]
  simp [noPlus]

theorem IsWhole.isNumberChar {c : Char} (whole : IsWhole c) : isNumberChar c = true := by
  obtain digit | rfl := whole
  · simp [Json.isNumberChar, digit]
  · rfl

theorem IsWhole.starts {c : Char} (whole : IsWhole c) : Starts c := by
  simp [Starts, whole.ne ' ' rfl (by decide), whole.ne '\t' rfl (by decide), whole.ne '\n' rfl (by decide),
    whole.ne '\r' rfl (by decide), whole.ne ']' rfl (by decide), whole.ne '\x7d' rfl (by decide)]

/-- The characters of a number are all taken, and no more. -/
theorem token_append {token : List Char} (number : ∀ c ∈ token, isNumberChar c = true) (apart : Apart tail) :
    (token ++ tail).takeWhile isNumberChar = token ∧ (token ++ tail).dropWhile isNumberChar = tail := by
  rw [List.takeWhile_append_of_pos number, List.dropWhile_append_of_pos number]
  cases tail with
  | nil => simp
  | cons c rest =>
    have other := apart c rest rfl
    simp [other]

theorem valueWithin_int (value : Int) (apart : Apart tail) :
    valueWithin (steps + 1) ((toString value).toList ++ tail) = some (.int value, tail) := by
  have read := number?_toString value
  have present := toString_ne_nil value
  obtain ⟨places, shown, writes, written, whole⟩ := toString_whole value
  generalize (toString value).toList = chars at read present written whole
  -- a minus sign may also stand before the word for infinity, but no digit stands in that
  have noInfinity (word : List Char) : after? ('-' :: 'I' :: word) (chars ++ tail) = none := by
    obtain ⟨digit, rest, rfl⟩ := List.exists_cons_of_ne_nil writes.shown_ne_nil
    have isDigit := writes.isDigit List.mem_cons_self
    have noMinus : '-' ≠ digit := by
      rintro rfl
      cases isDigit
    have noLetter : 'I' ≠ digit := by
      rintro rfl
      cases isDigit
    obtain rfl | rfl := written
    · simp [after?, noMinus]
    · simp [after?, noLetter]
  obtain ⟨taken, left⟩ := token_append (fun c member => (whole c member).isNumberChar) apart
  obtain ⟨first, rest, rfl⟩ := List.exists_cons_of_ne_nil present
  have is := whole first List.mem_cons_self
  simp only [List.cons_append] at taken left noInfinity ⊢
  rw [valueWithin, skipBlanks_starts is.starts]
  have noWord (letter : Char) (word : List Char) (noDigit : letter.isDigit = false) (noMinus : letter ≠ '-') :
      after? (letter :: word) (first :: (rest ++ tail)) = none := by
    rw [after?, if_neg (is.ne letter noDigit noMinus).symm]
  simp [is.ne '"' rfl (by decide), is.ne '[' rfl (by decide), is.ne '\x7b' rfl (by decide), noWord, noInfinity, taken, left,
    read]

theorem spells_int (value : Int) : Spells valueWithin (toString value).toList (.int value) := by
  obtain ⟨-, -, -, -, whole⟩ := toString_whole value
  have present := toString_ne_nil value
  refine spells_of_step ?_ ?_ fun steps tail apart => valueWithin_int value apart
  · obtain ⟨first, rest, same⟩ := List.exists_cons_of_ne_nil present
    exact ⟨first, rest, same, (whole first (same ▸ List.mem_cons_self)).starts⟩
  · intro feed
    exact (whole '\n' (List.mem_of_getLast? feed)).ne '\n' rfl (by decide) rfl

end Scalars

section Brackets
variable {β : Type} {opening closing : Char} {one : Nat → List Char → Option (β × List Char)}
  {many : Nat → List Char → Option (List β × List Char)} {whole : List β → Json}

/-- Between these brackets, parts are read one after the other, and are read as a whole. -/
structure Encloses (opening closing : Char) (one : Nat → List Char → Option (β × List Char))
    (many : Nat → List Char → Option (List β × List Char)) (whole : List β → Json) : Prop where
  starts : Starts opening
  ends : closing ≠ '\n'
  /-- A bracket is no blank. -/
  closes : ∀ tail, skipBlanks (closing :: tail) = closing :: tail
  blanks : ∀ {blanks}, (∀ c ∈ blanks, c = ' ' ∨ c = '\n') → ∀ steps text, one steps (blanks ++ text) = one steps text
  more : ∀ {steps text part rest left parts tail}, one steps text = some (part, rest) → skipBlanks rest = ',' :: left →
    many steps left = some (parts, tail) → many (steps + 1) text = some (part :: parts, tail)
  last : ∀ {steps text part rest tail}, one steps text = some (part, rest) → skipBlanks rest = closing :: tail →
    many (steps + 1) text = some ([part], tail)
  empty : ∀ steps tail, valueWithin (steps + 1) (opening :: closing :: tail) = some (whole [], tail)
  filled : ∀ {steps text first rest parts tail}, skipBlanks text = first :: rest → Starts first →
    many steps text = some (parts, tail) → valueWithin (steps + 1) (opening :: text) = some (whole parts, tail)

theorem apart_comma (text : List Char) : Apart (',' :: text) := by
  rintro _ _ ⟨⟩
  rfl

theorem apart_indent (level : Nat) (text : List Char) : Apart (indent level ++ text) := by
  rintro _ _ ⟨⟩
  rfl

/-- Parts on lines of their own are read up to the closing bracket, given that each is read on its own. -/
theorem reads_lines (encloses : Encloses opening closing one many whole) (level outer : Nat) {chars : List Char}
    {part : β} {texts : List (List Char)} {parts : List β} (first : Spells one chars part)
    (others : List.Forall₂ (Spells one) texts parts) :
    let lines := (',' :: indent level).intercalate (chars :: texts)
    (∃ first rest, lines = first :: rest ∧ Starts first) ∧
      ∀ steps tail, 2 * lines.length + 1 ≤ steps →
        many steps (indent level ++ (lines ++ (indent outer ++ closing :: tail))) = some (part :: parts, tail) := by
  -- on the parts behind the first; the blanks in front of each are those that the part before it left
  induction others generalizing chars part with
  | nil =>
    rw [List.intercalate_singleton]
    refine ⟨first.starts, ?_⟩
    intro steps tail enough
    cases steps with
    | zero => omega
    | succ steps =>
      refine encloses.last ?_ ((skipBlanks_append (blank_indent outer) _).trans (encloses.closes tail))
      rw [encloses.blanks (blank_indent level)]
      exact first.reads steps _ (by omega) (apart_indent outer _)
  | @cons next nextPart texts parts second others ih =>
    obtain ⟨-, reads⟩ := ih second
    rw [List.intercalate_cons_cons]
    constructor
    · obtain ⟨start, rest, rfl, starts⟩ := first.starts
      exact ⟨start, _, rfl, starts⟩
    · intro steps tail enough
      simp only [List.length_append, List.length_cons] at enough
      cases steps with
      | zero => omega
      | succ steps =>
        simp only [List.append_assoc, List.cons_append]
        refine encloses.more ?_ (skipBlanks_starts (by decide) _) (reads steps tail (by omega))
        rw [encloses.blanks (blank_indent level)]
        exact first.reads steps _ (by omega) (apart_comma _)

/-- What stands between brackets is read as a whole, given that each part is read on its own. -/
theorem spells_enclosed (encloses : Encloses opening closing one many whole) (level : Nat) {texts : List (List Char)}
    {parts : List β} (each : List.Forall₂ (Spells one) texts parts) :
    Spells valueWithin (enclosed opening closing level texts) (whole parts) := by
  have last (chars : List Char) : (chars ++ [closing]).getLast? ≠ some '\n' := by
    rw [List.getLast?_concat]
    exact fun same => encloses.ends (Option.some.inj same)
  cases each with
  | nil =>
    exact spells_of_step ⟨_, _, rfl, encloses.starts⟩ (last [opening]) fun steps tail _ => encloses.empty steps tail
  | @cons chars part texts parts first others =>
    obtain ⟨⟨start, rest, lines, starts⟩, reads⟩ := reads_lines encloses (level + 1) level first others
    rw [enclosed_cons, lines]
    refine ⟨⟨opening, _, rfl, encloses.starts⟩, last _, ?_⟩
    intro steps tail enough _
    rw [lines] at reads
    simp only [List.length_append, List.length_cons] at enough reads
    have skipped (more : List Char) : skipBlanks (indent (level + 1) ++ (start :: more)) = start :: more := by
      rw [skipBlanks_append (blank_indent _), skipBlanks_starts starts]
    cases steps with
    | zero => omega
    | succ steps =>
      simp only [List.append_assoc, List.cons_append, List.nil_append] at skipped reads ⊢
      exact encloses.filled (skipped _) starts (reads steps tail (by omega))

end Brackets

/-- What the items of a list are between its brackets. -/
theorem encloses_items : Encloses '[' ']' valueWithin itemsWithin list where
  starts := by decide
  ends := by decide
  closes _ := rfl
  blanks blank steps text := valueWithin_blanks blank steps text
  more read comma others := by simp [itemsWithin, read, comma, others]
  last read bracket := by simp [itemsWithin, read, bracket]
  empty steps tail := by simp [valueWithin, skipBlanks]
  filled {steps text first rest parts tail} skipped starts read := by
    rw [valueWithin, skipBlanks_starts (by decide)]
    simp [skipped, starts.ne (show ¬ Starts ']' by decide), read]

/-- A member of an object, and what follows it. -/
def memberWithin (steps : Nat) (text : List Char) : Option ((Text × Json) × List Char) :=
  match skipBlanks text with
  | '"' :: rest => do
    let (name, rest) ← textBody rest
    match skipBlanks rest with
    | ':' :: rest =>
      let (item, rest) ← valueWithin steps rest
      return ((name, item), rest)
    | _ => none
  | _ => none

/-- A member is a name between quotes, a colon and a value. -/
theorem of_memberWithin {text rest : List Char} {member : Text × Json}
    (read : memberWithin steps text = some (member, rest)) :
    ∃ body named value, skipBlanks text = '"' :: body ∧ textBody body = some (member.1, named) ∧
      skipBlanks named = ':' :: value ∧ valueWithin steps value = some (member.2, rest) := by
  rw [memberWithin] at read
  split at read
  next body opened =>
    obtain ⟨⟨name, named⟩, body_eq, read⟩ := Option.bind_eq_some_iff.mp read
    dsimp only at read
    split at read
    next value colon =>
      obtain ⟨⟨item, left⟩, value_eq, read⟩ := Option.bind_eq_some_iff.mp read
      cases read
      exact ⟨body, named, value, opened, body_eq, colon, value_eq⟩
    next => cases read
  next => cases read

theorem encloses_members : Encloses '\x7b' '\x7d' memberWithin membersWithin object where
  starts := by decide
  ends := by decide
  closes _ := rfl
  blanks blank steps text := by rw [memberWithin, memberWithin, skipBlanks_append blank]
  more read comma others := by
    obtain ⟨body, named, value, opened, name, colon, item⟩ := of_memberWithin read
    simp [membersWithin, opened, name, colon, item, comma, others]
  last read bracket := by
    obtain ⟨body, named, value, opened, name, colon, item⟩ := of_memberWithin read
    simp [membersWithin, opened, name, colon, item, bracket]
  empty steps tail := by simp [valueWithin, skipBlanks]
  filled {steps text first rest parts tail} skipped starts read := by
    rw [valueWithin, skipBlanks_starts (by decide)]
    simp [skipped, starts.ne (show ¬ Starts '\x7d' by decide), read]

theorem spells_member {name : Text} {chars : List Char} {value : Json} (scalar : name.Scalar)
    (spells : Spells valueWithin chars value) : Spells memberWithin (memberText (name, chars)) (name, value) where
  starts := by
    obtain ⟨first, rest, same, starts⟩ := starts_textChars name
    exact ⟨first, rest ++ [':', ' '] ++ chars, by simp [memberText, same], starts⟩
  ends := by
    obtain ⟨first, rest, rfl, -⟩ := spells.starts
    rw [memberText, List.getLast?_append_of_ne_nil _ (List.cons_ne_nil _ _)]
    exact spells.ends
  reads steps tail enough apart := by
    have blank := @valueWithin_blanks [' '] (by simp) steps (chars ++ tail)
    rw [spells.reads steps tail (by simp [memberText] at enough; omega) apart] at blank
    have shown : memberText (name, chars) ++ tail =
        '"' :: (name.flatMap escapedPoint ++ '"' :: ':' :: ' ' :: (chars ++ tail)) := by
      simp [memberText, textChars]
    rw [memberWithin, shown, skipBlanks_starts (by decide)]
    simp only [textBody_escaped scalar, Option.bind_eq_bind, Option.bind_some]
    rw [skipBlanks_starts (by decide)]
    simp only [List.singleton_append] at blank
    simp [blank]

end CacheSeal.Json
