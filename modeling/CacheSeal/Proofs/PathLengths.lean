import CacheSeal.Proofs.FailureReasons

/-! How many bytes a path takes. In its text a slash stands behind every part but the last, so a path takes more than
that to its parent, and of paths that differ in their last parts alone it is these that count. -/

namespace CacheSeal

namespace Name
variable {front back : Text}

/-- How many bytes a name has, if it has any. -/
def size? (name : Text) : Option Nat :=
  (bytes? name).map List.length

theorem size?_append (front back : Text) :
    size? (front ++ back) = (size? front).bind fun first => (size? back).map (first + ·) := by
  unfold size? bytes?
  rw [List.mapM_append]
  cases front.mapM pointBytes? with
  | none => rfl
  | some first => cases back.mapM pointBytes? <;> simp

theorem size?_isSome_append (front back : Text) :
    (size? (front ++ back)).isSome = ((size? front).isSome && (size? back).isSome) := by
  rw [size?_append]
  cases size? front with
  | none => rfl
  | some first => cases size? back <;> rfl

theorem byteCount_eq (name : Text) : byteCount name = (size? name).getD 0 :=
  rfl

theorem byteCount_le_append (named : (size? (front ++ back)).isSome = true) :
    byteCount front ≤ byteCount (front ++ back) := by
  rw [size?_isSome_append, Bool.and_eq_true, Option.isSome_iff_exists, Option.isSome_iff_exists] at named
  obtain ⟨⟨first, frontSize⟩, more, backSize⟩ := named
  rw [byteCount_eq, byteCount_eq, size?_append, frontSize, backSize]
  exact Nat.le_add_right first more

/-- Hexadecimal digits take a byte each. -/
theorem size?_lastDigits (letters : Hex.Letters) (width value : Nat) :
    size? (Text.ofChars (Hex.lastDigits letters width value)) = some width := by
  induction width generalizing value with
  | zero => rfl
  | succ width ih =>
    have digit : ∀ place < 16, size? [CodePoint.ofChar (Hex.digit letters place)] = some 1 := by
      cases letters <;> decide
    rw [Hex.lastDigits, Text.ofChars, List.map_append]
    change size? (Text.ofChars _ ++ [_]) = _
    rw [size?_append, ih, digit _ (Nat.mod_lt value (by decide))]
    rfl

end Name

theorem Path.hasLoneSurrogate_eq (name : Text) : hasLoneSurrogate name = (Name.size? name).isNone := by
  rw [Name.size?, Option.isNone_map]
  rfl

namespace Disk

theorem size?_stagedName (attempt other : Nat) (ending : String) :
    Name.size? (stagedName attempt ending) = Name.size? (stagedName other ending) := by
  simp only [stagedName, Text.ofString, String.toList_ofList, Name.size?_append, Name.size?_lastDigits]

theorem hasNul_stagedName (attempt other : Nat) (ending : String) :
    Path.hasNul (stagedName attempt ending) = Path.hasNul (stagedName other ending) := by
  have digits (value : Nat) : Path.hasNul (Text.ofString (String.ofList (Hex.lastDigits .lower 8 value))) = false := by
    have digit : ∀ place < 16, Hex.digit .lower place ≠ '\x00' := by decide
    rw [Path.hasNul, List.contains_eq_mem, decide_eq_false_iff_not, Text.ofString, String.toList_ofList, Text.ofChars,
      List.mem_map]
    rintro ⟨c, member, nul⟩
    obtain ⟨place, small, rfl⟩ := mem_lastDigits member
    exact digit place small (CodePoint.ofChar_inj.mp nul)
  have split (value : Nat) : Path.hasNul (stagedName value ending) = Path.hasNul (Text.ofString ending) := by
    have front : Path.hasNul (".tmp-" : Text) = false := by decide
    unfold Path.hasNul at *
    rw [stagedName, List.contains_append, List.contains_append, front, digits]
    rfl
  rw [split, split]

end Disk

namespace Path
variable {path : Path} {parts : List Text} {name : Text}

/-- The text of a path up to the name at its end. -/
def lead (anchor : Anchor) (parts : List Text) : Text :=
  anchorText anchor ++ parts.flatMap (· ++ [slash])

/-- The dot that an empty path is written as takes no more than any path may. -/
theorem isTooLong_concat (anchor : Anchor) (parts : List Text) (name : Text) :
    isTooLong ⟨anchor, parts ++ [name]⟩ = decide (pathLimit ≤ Name.byteCount (lead anchor parts ++ name)) := by
  rw [isTooLong, toText, Text.intercalate_concat, ← List.append_assoc]
  dsimp only
  split
  next empty =>
    rw [show lead anchor parts ++ name = [] from List.isEmpty_iff.mp empty]
    rfl
  next => rfl

theorem check_ok_iff : path.check = .ok () ↔
    path.parts.any hasLoneSurrogate = false ∧ path.parts.any hasNul = false ∧ path.isTooLong = false := by
  unfold check
  cases path.parts.any hasLoneSurrogate with
  | true => exact iff_of_false nofun nofun
  | false =>
    cases path.parts.any hasNul with
    | true => exact iff_of_false nofun nofun
    | false =>
      cases path.isTooLong with
      | true => exact iff_of_false nofun nofun
      | false => exact iff_of_true rfl ⟨rfl, rfl, rfl⟩

theorem size?_lead (anchor : Anchor) (named : parts.any hasLoneSurrogate = false) :
    (Name.size? (lead anchor parts)).isSome = true := by
  have joined : (Name.size? (parts.flatMap (· ++ [slash]))).isSome = true := by
    induction parts with
    | nil => rfl
    | cons part rest ih =>
      rw [List.any_cons, Bool.or_eq_false_iff, hasLoneSurrogate_eq, Option.isNone_eq_false_iff] at named
      rw [List.flatMap_cons, Name.size?_isSome_append, Name.size?_isSome_append, named.1, ih named.2]
      rfl
  have front : (Name.size? (anchorText anchor : Text)).isSome = true := by cases anchor <;> decide
  rw [lead, Name.size?_isSome_append, front, joined]
  rfl

/-- What checks a path checks the path to its parent. -/
theorem check_parent (checked : path.check = .ok ()) : path.parent.check = .ok () := by
  obtain ⟨anchor, parts⟩ := path
  obtain ⟨named, clear, short⟩ := check_ok_iff.mp checked
  rcases List.eq_nil_or_concat parts with rfl | ⟨front, name, rfl⟩
  · exact checked
  rw [List.concat_eq_append] at *
  have parent : Path.parent ⟨anchor, front ++ [name]⟩ = ⟨anchor, front⟩ := congrArg (Path.mk anchor) List.dropLast_concat
  rw [List.any_append, Bool.or_eq_false_iff] at named clear
  rw [parent, check_ok_iff]
  refine ⟨named.1, clear.1, ?_⟩
  rcases List.eq_nil_or_concat front with rfl | ⟨front, last, rfl⟩
  · cases anchor <;> decide
  rw [List.concat_eq_append] at *
  rw [isTooLong_concat, decide_eq_false_iff_not, Nat.not_le] at *
  refine Nat.lt_of_le_of_lt ?_ short
  -- the text of the parent is where that of the path starts
  have starts : lead anchor (front ++ [last]) ++ name = (lead anchor front ++ last) ++ ([slash] ++ name) := by
    simp [lead, List.flatMap_append]
  have own : (Name.size? name).isSome = true := by
    simpa [hasLoneSurrogate_eq, Option.isNone_eq_false_iff] using named.2
  have whole : (Name.size? (lead anchor (front ++ [last]) ++ name)).isSome = true := by
    rw [Name.size?_isSome_append, size?_lead anchor named.1, own]
    rfl
  rw [starts] at whole ⊢
  exact Name.byteCount_le_append whole

end Path

namespace Disk

/-- All names that are tried in a directory make paths that are checked alike. -/
theorem check_stagedPath (directory : Path) (attempt other : Nat) (ending : String) :
    (stagedPath directory attempt ending).check = (stagedPath directory other ending).check := by
  simp only [Path.check, stagedPath, List.any_append, List.any_cons, List.any_nil, Path.hasLoneSurrogate_eq,
    Path.isTooLong_concat, Name.byteCount_eq, Name.size?_append, size?_stagedName attempt other,
    hasNul_stagedName attempt other]

end Disk

end CacheSeal
