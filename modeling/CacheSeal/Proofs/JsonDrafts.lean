import CacheSeal.Json.Printer
import Mathlib.Data.List.Basic

/-! The text of a document, and which documents are written to their end. What cannot be written ends the draft
wherever it lies, however much has been written before, and nothing else does; a draft that does not end early is the
text. -/

namespace CacheSeal.Json

/-- Induction on a document, with what holds of the items of a list and of the members of an object. -/
@[elab_as_elim]
theorem memberwise {motive : Json → Prop} (null : motive .null) (bool : ∀ value, motive (.bool value))
    (int : ∀ value, motive (.int value)) (float : ∀ value, motive (.float value)) (str : ∀ value, motive (.str value))
    (list : ∀ items, (∀ item ∈ items, motive item) → motive (.list items))
    (object : ∀ members, (∀ member ∈ members, motive member.2) → motive (.object members))
    (foreign : ∀ kind, motive (.foreign kind)) (json : Json) : motive json :=
  @Json.rec motive (fun items => ∀ item ∈ items, motive item) (fun members => ∀ member ∈ members, motive member.2)
    (fun member => motive member.2) null bool int float str list object foreign nofun
    (fun _ _ first rest => List.forall_mem_cons.mpr ⟨first, rest⟩) nofun
    (fun _ _ first rest => List.forall_mem_cons.mpr ⟨first, rest⟩) (fun _ _ holds => holds) json

theorem perm_insertMember {α : Type} (member : Text × α) (members : List (Text × α)) :
    (insertMember member members).Perm (member :: members) := by
  induction members with
  | nil => exact .refl _
  | cons other rest ih =>
    rw [insertMember]
    split
    · exact .refl _
    · exact (ih.cons other).trans (.swap member other rest)

theorem perm_sortMembers {α : Type} (members : List (Text × α)) : (sortMembers members).Perm members := by
  induction members with
  | nil => exact .refl _
  | cons member rest ih => exact (perm_insertMember member _).trans (ih.cons member)

theorem insertMember_map {α β : Type} (change : α → β) (member : Text × α) (members : List (Text × α)) :
    insertMember (member.1, change member.2) (members.map fun member => (member.1, change member.2)) =
      (insertMember member members).map fun member => (member.1, change member.2) := by
  induction members with
  | nil => rfl
  | cons other rest ih =>
    rw [insertMember, List.map_cons, insertMember]
    split
    · rfl
    · rw [ih, List.map_cons]

/-- The order of members is that of their names, whatever they hold. -/
theorem sortMembers_map {α β : Type} (change : α → β) (members : List (Text × α)) :
    sortMembers (members.map fun member => (member.1, change member.2)) =
      (sortMembers members).map fun member => (member.1, change member.2) := by
  induction members with
  | nil => rfl
  | cons member rest ih =>
    change insertMember _ (sortMembers _) = _
    rw [ih, insertMember_map]
    rfl

/-- Parts between brackets, each on a line of its own, and commas between them. Brackets around nothing stay together. -/
def enclosed (opening closing : Char) (level : Nat) : List (List Char) → List Char
  | [] => [opening, closing]
  | parts => opening :: indent (level + 1) ++ (',' :: indent (level + 1)).intercalate parts ++ indent level ++ [closing]

theorem enclosed_cons (opening closing : Char) (level : Nat) (part : List Char) (parts : List (List Char)) :
    enclosed opening closing level (part :: parts) =
      opening :: indent (level + 1) ++ (',' :: indent (level + 1)).intercalate (part :: parts) ++ indent level ++
        [closing] :=
  rfl

def memberText (member : Text × List Char) : List Char :=
  textChars member.1 ++ [':', ' '] ++ member.2

mutual

/-- The text of a document whose brackets, if it has any, belong to the level. What has no text counts for none. -/
def text (level : Nat) : Json → List Char
  | null => "null".toList
  | bool true => "true".toList
  | bool false => "false".toList
  | int value => (toString value).toList
  | float value => (Decimal.write floatWords value).toList
  | str value => textChars value
  | list items => enclosed '[' ']' level (itemTexts (level + 1) items)
  | object members => enclosed '\x7b' '\x7d' level ((sortMembers (memberTexts (level + 1) members)).map memberText)
  | foreign _ => []

def itemTexts (level : Nat) : List Json → List (List Char)
  | [] => []
  | item :: items => item.text level :: itemTexts level items

def memberTexts (level : Nat) : List (Text × Json) → List (Text × List Char)
  | [] => []
  | (name, item) :: members => (name, item.text level) :: memberTexts level members

end

mutual

/-- All in the document can be written: it holds nothing foreign, no number of too many digits and no container that
lies too deep. -/
def hasText (level : Nat) : Json → Bool
  | int value => Numeral.isWritten value
  | list items => level < maxNesting && haveTexts (level + 1) items
  | object members => level < maxNesting && membersHaveTexts (level + 1) members
  | foreign _ => false
  | _ => true

def haveTexts (level : Nat) : List Json → Bool
  | [] => true
  | item :: items => item.hasText level && haveTexts level items

def membersHaveTexts (level : Nat) : List (Text × Json) → Bool
  | [] => true
  | (_, item) :: members => item.hasText level && membersHaveTexts level members

end

section Containers
variable (level : Nat) (items : List Json) (members : List (Text × Json))

theorem text_list : (list items).text level = enclosed '[' ']' level (items.map (text (level + 1))) := by
  have each : itemTexts (level + 1) items = items.map (text (level + 1)) := by
    induction items with
    | nil => rfl
    | cons item items ih => rw [itemTexts, ih, List.map_cons]
  rw [text, each]

theorem text_object : (object members).text level = enclosed '\x7b' '\x7d' level
    ((sortMembers members).map fun member => memberText (member.1, member.2.text (level + 1))) := by
  have each : memberTexts (level + 1) members = members.map fun member => (member.1, member.2.text (level + 1)) := by
    induction members with
    | nil => rfl
    | cons member members ih => rw [memberTexts, ih, List.map_cons]
  rw [text, each, sortMembers_map (text (level + 1)), List.map_map]
  rfl

theorem hasText_list : (list items).hasText level = (decide (level < maxNesting) && items.all (hasText (level + 1))) := by
  have each : haveTexts (level + 1) items = items.all (hasText (level + 1)) := by
    induction items with
    | nil => rfl
    | cons item items ih => rw [haveTexts, ih, List.all_cons]
  rw [hasText, each]

theorem hasText_object : (object members).hasText level =
    (decide (level < maxNesting) && members.all fun member => member.2.hasText (level + 1)) := by
  have each : membersHaveTexts (level + 1) members = members.all fun member => member.2.hasText (level + 1) := by
    induction members with
    | nil => rfl
    | cons member members ih => rw [membersHaveTexts, ih, List.all_cons]
  rw [hasText, each]

theorem write_list : (list items).write level =
    contained level (bracketed '[' ']' level (items.map fun item => itemPart item (item.write (level + 1)))) := by
  have each : itemParts (level + 1) items = items.map fun item => itemPart item (item.write (level + 1)) := by
    induction items with
    | nil => rfl
    | cons item items ih => rw [itemParts, ih, List.map_cons]
  rw [write, each]

theorem write_object : (object members).write level = contained level (bracketed '\x7b' '\x7d' level
    ((sortMembers (members.map fun member => (member.1, member.2.write (level + 1)))).map memberPart)) := by
  have each : memberWritings (level + 1) members = members.map fun member => (member.1, member.2.write (level + 1)) := by
    induction members with
    | nil => rfl
    | cons member members ih => rw [memberWritings, ih, List.map_cons]
  rw [write, each]

end Containers

/-- If it fits, the writing puts these characters before what follows; if not, it stops for good, whatever follows. -/
structure Puts (writing : Writing) (chars : List Char) (fits : Bool) : Prop where
  whole : fits = true → ∀ rest, writing rest = put chars rest
  stops : fits = false → ∃ begun obstacle, ∀ rest, writing rest = ⟨begun, some obstacle⟩

theorem puts_put (chars : List Char) : Puts (put chars) chars true :=
  ⟨fun _ _ => rfl, nofun⟩

theorem puts_halt (obstacle : Obstacle) (chars : List Char) : Puts (halt obstacle) chars false :=
  ⟨nofun, fun _ => ⟨[], obstacle, fun _ => rfl⟩⟩

section Parts
variable {first second : Writing} {chars more : List Char} {fits further : Bool}

theorem put_put (chars more : List Char) (rest : Draft) : put chars (put more rest) = put (chars ++ more) rest := by
  simp [put]

theorem Puts.before (puts : Puts first chars fits) (following : Puts second more further) :
    Puts (fun rest => first (second rest)) (chars ++ more) (fits && further) := by
  cases fits with
  | false =>
    obtain ⟨begun, obstacle, stopped⟩ := puts.stops rfl
    exact ⟨nofun, fun _ => ⟨begun, obstacle, fun rest => stopped (second rest)⟩⟩
  | true =>
    refine ⟨fun fits rest => ?_, fun stops => ?_⟩
    · rw [puts.whole rfl, following.whole fits, put_put]
    · obtain ⟨begun, obstacle, stopped⟩ := following.stops stops
      exact ⟨chars ++ begun, obstacle, fun rest => by rw [puts.whole rfl, stopped, put]⟩

theorem puts_contained (level : Nat) (puts : Puts first chars fits) :
    Puts (contained level first) chars (decide (level < maxNesting) && fits) := by
  unfold contained
  split
  next shallow => simpa [shallow] using puts
  next deep => simpa [deep] using puts_halt _ chars

variable {α : Type} {part : α → Part} {shown : α → List Char} {whole : α → Bool} {item : α} {items : List α}

theorem puts_onLines (level : Nat) (mark : Char)
    (each : ∀ item' ∈ item :: items, ∀ mark, Puts (part item' mark) (mark ++ shown item') (whole item')) :
    Puts (onLines level mark ((item :: items).map part))
      (mark :: indent level ++ (',' :: indent level).intercalate ((item :: items).map shown))
      ((item :: items).all whole) := by
  induction items generalizing item mark with
  | nil => simpa [onLines] using each item List.mem_cons_self (mark :: indent level)
  | cons next items ih =>
    obtain ⟨first, others⟩ := List.forall_mem_cons.mp each
    have joined : mark :: indent level ++ (',' :: indent level).intercalate ((item :: next :: items).map shown) =
        mark :: indent level ++ shown item ++
          (',' :: indent level ++ (',' :: indent level).intercalate ((next :: items).map shown)) := by
      simp [List.intercalate_cons_cons]
    rw [joined]
    exact (first (mark :: indent level)).before (ih ',' others)

theorem puts_bracketed (opening closing : Char) (level : Nat)
    (each : ∀ item ∈ items, ∀ mark, Puts (part item mark) (mark ++ shown item) (whole item)) :
    Puts (bracketed opening closing level (items.map part)) (enclosed opening closing level (items.map shown))
      (items.all whole) := by
  cases items with
  | nil => exact puts_put [opening, closing]
  | cons item items =>
    have lines := (puts_onLines (level + 1) opening each).before (puts_put (indent level ++ [closing]))
    rw [Bool.and_true, ← List.append_assoc] at lines
    exact lines

end Parts

theorem puts_itemPart {item : Json} {level : Nat} (puts : Puts (item.write level) (item.text level) (item.hasText level))
    (mark : List Char) :
    Puts (itemPart item (item.write level) mark) (mark ++ item.text level) (item.hasText level) := by
  have marked := (puts_put mark).before puts
  rw [Bool.true_and] at marked
  cases item with
  | int value =>
    by_cases fits : Numeral.isWritten value = true
    · have part : itemPart (int value) (write level (int value)) mark =
          fun rest => put mark (write level (int value) rest) := by
        funext rest
        rw [itemPart, if_pos fits]
      exact part ▸ marked
    · have part : itemPart (int value) (write level (int value)) mark = write level (int value) := by
        funext rest
        rw [itemPart, if_neg fits]
      rw [part]
      rw [hasText, Bool.eq_false_iff.mpr fits] at puts ⊢
      exact ⟨nofun, puts.stops⟩
  | _ => exact marked

theorem puts_write (json : Json) (level : Nat) : Puts (json.write level) (json.text level) (json.hasText level) := by
  induction json using memberwise generalizing level with
  | null => exact puts_put _
  | bool value => cases value <;> exact puts_put _
  | int value =>
    rw [write, wholeWriting, hasText]
    split
    next fits => exact fits ▸ puts_put _
    next beyond => exact Bool.eq_false_iff.mpr beyond ▸ puts_halt _ _
  | float value => exact puts_put _
  | str value => exact puts_put _
  | list items ih =>
    rw [write_list, text_list, hasText_list]
    exact puts_contained level (puts_bracketed '[' ']' level fun item inside =>
      puts_itemPart (ih item inside (level + 1)))
  | object members ih =>
    have each : ∀ member ∈ sortMembers members, ∀ mark,
        Puts (memberPart (member.1, member.2.write (level + 1)) mark)
          (mark ++ memberText (member.1, member.2.text (level + 1))) (member.2.hasText (level + 1)) := by
      intro member among mark
      have named := (puts_put (mark ++ textChars member.1 ++ [':', ' '])).before
        (ih member ((perm_sortMembers members).mem_iff.mp among) (level + 1))
      rw [memberText, ← List.append_assoc, ← List.append_assoc]
      exact named
    have all : members.all (fun member => member.2.hasText (level + 1)) =
        (sortMembers members).all fun member => member.2.hasText (level + 1) :=
      (perm_sortMembers members).symm.all_eq
    rw [write_object, text_object, hasText_object, all, sortMembers_map (write (level + 1)), List.map_map]
    exact puts_contained level (puts_bracketed '\x7b' '\x7d' level each)
  | foreign kind => exact puts_halt _ _

/-- A document is printed as its text, or not at all. -/
theorem print_ok_iff {json : Json} {printed : String} :
    json.print = .ok printed ↔ json.hasText 0 = true ∧ printed = String.ofList (json.text 0) := by
  have puts := puts_write json 0
  cases fits : json.hasText 0 with
  | true =>
    rw [print, draft, puts.whole fits]
    simp [put, eq_comm]
  | false =>
    obtain ⟨begun, obstacle, stopped⟩ := puts.stops fits
    simp [print, draft, stopped]

end CacheSeal.Json
