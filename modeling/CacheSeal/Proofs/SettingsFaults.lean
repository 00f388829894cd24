import CacheSeal.Proofs.DocumentMappings
import CacheSeal.Proofs.SettingsResolution
import CacheSeal.Proofs.TextOrder

/-! Which fault of a settings file is told. A file may have several, and its entries stand in some order, but the fault
depends on which entries there are and not on where they stand: names that are no settings come before all values, the
first of them in the order of texts, and the values are judged setting by setting. -/

namespace CacheSeal

theorem Value.checkShowable_of_isKey {key : Value} (scalar : key.isKey = true) :
    key.checkShowable = .ok () ∨ key.checkShowable = .error .hugeNumber := by
  unfold checkShowable
  cases key with
  | int bits =>
    rw [Command.checkWithin_int]
    split
    next => exact .inl rfl
    next => exact .inr rfl
  | list | map | set | pair | listAgain | mapAgain => cases scalar
  | _ => exact .inl rfl

namespace Settings
open Session Proofs.FailingRuns
variable {entries other : Entries} {key : String} {given : Value} {name : Text} {error : Error}

/-- A key has the name, which is that of no setting. -/
def Unknown (entries : Entries) (name : Text) : Prop :=
  ∃ entry ∈ entries, entry.1.name = name ∧ isKey name = false

/-- The setting is there with the value. -/
def Has (entries : Entries) (key : String) (given : Value) : Prop :=
  (.str (.ofString key), given) ∈ entries

/-- The setting is not there, or it has a value of its kind. -/
def Suits {α : Type} (entries : Entries) (key : String) (is : Value → α → Prop) : Prop :=
  ∀ given, Has entries key given → ∃ kind, is given kind

/-- The setting is there with the value, which is not of its kind. -/
def Misfit {α : Type} (entries : Entries) (key : String) (is : Value → α → Prop) (given : Value) : Prop :=
  Has entries key given ∧ ∀ kind, ¬ is given kind

/-- The fault that is told of the entries: the first of the names that are no settings, or without such names the value of
the first setting that does not suit it, by the order of the settings. -/
inductive Fault (entries : Entries) : Error → Prop where
  | unknownKey {name : Text} (unknown : Unknown entries name)
      (first : ∀ other, Unknown entries other → ¬ Text.Before other name) :
      Fault entries (.unknownKey name (suggestion? name))
  | badWidth {given : Value} (known : ∀ name, ¬ Unknown entries name)
      (misfit : Misfit entries "pointer_width" IsWidth given) : Fault entries (.badWidth given)
  | badOrder {given : Value} (known : ∀ name, ¬ Unknown entries name) (width : Suits entries "pointer_width" IsWidth)
      (misfit : Misfit entries "byte_order" IsOrder given) : Fault entries (.badOrder given)
  | badColor {given : Value} (known : ∀ name, ¬ Unknown entries name) (width : Suits entries "pointer_width" IsWidth)
      (order : Suits entries "byte_order" IsOrder) (misfit : Misfit entries "color" IsColor given) :
      Fault entries .badColor

section Names

theorem foldl_smaller_least (names : List Text) (least : Text) : ∃ name, names.foldl smaller (some least) = some name ∧
    name ∈ least :: names ∧ ∀ other ∈ least :: names, name.le other = true := by
  induction names generalizing least with
  | nil =>
    refine ⟨least, rfl, List.mem_singleton_self least, ?_⟩
    rw [List.forall_mem_singleton]
    exact Text.le_refl least
  | cons first rest ih =>
    rw [List.foldl_cons, smaller]
    split
    next below =>
      obtain ⟨name, found, member, bound⟩ := ih least
      obtain ⟨leLeast, leRest⟩ := List.forall_mem_cons.mp bound
      refine ⟨name, found, ?_, ?_⟩
      · exact List.mem_cons.mpr ((List.mem_cons.mp member).imp_right (List.mem_cons_of_mem first))
      · simp only [List.forall_mem_cons]
        exact ⟨leLeast, Text.le_trans leLeast below, leRest⟩
    next above =>
      have below : first.le least = true := (Text.le_total least first).resolve_left above
      obtain ⟨name, found, member, bound⟩ := ih first
      obtain ⟨leFirst, leRest⟩ := List.forall_mem_cons.mp bound
      refine ⟨name, found, List.mem_cons_of_mem least member, ?_⟩
      simp only [List.forall_mem_cons]
      exact ⟨Text.le_trans leFirst below, leFirst, leRest⟩

theorem unknownName?_eq_some_iff : unknownName? entries = some name ↔
    Unknown entries name ∧ ∀ other, Unknown entries other → ¬ Text.Before other name := by
  have listed (name : Text) : name ∈ (entries.map (·.1.name)).filter (!isKey ·) ↔ Unknown entries name := by
    simp only [List.mem_filter, List.mem_map, Unknown, Bool.not_eq_true']
    constructor
    · rintro ⟨⟨entry, member, same⟩, unknown⟩
      exact ⟨entry, member, same, unknown⟩
    · rintro ⟨entry, member, same, unknown⟩
      exact ⟨⟨entry, member, same⟩, unknown⟩
  unfold unknownName?
  simp only [← listed, ← Text.le_iff_not_before]
  cases (entries.map (·.1.name)).filter (!isKey ·) with
  | nil => exact iff_of_false nofun fun least => absurd least.1 List.not_mem_nil
  | cons first rest =>
    obtain ⟨least, found, member, bound⟩ := foldl_smaller_least rest first
    change rest.foldl smaller (some first) = some name ↔ _
    rw [found, Option.some.injEq]
    constructor
    · rintro rfl
      exact ⟨member, bound⟩
    · rintro ⟨also, lower⟩
      exact Text.le_antisymm (bound name also) (lower least member)

theorem checkKeys_error_iff : checkKeys entries = .error error ↔
    ∃ name, unknownName? entries = some name ∧ error = .unknownKey name (suggestion? name) := by
  unfold checkKeys
  cases unknownName? entries <;> simp [eq_comm]

theorem checkKeys_ok_iff_known : checkKeys entries = .ok () ↔ ∀ name, ¬ Unknown entries name := by
  rw [checkKeys_ok_iff]
  constructor
  · rintro known _ ⟨entry, member, rfl, unknown⟩
    rw [known entry member] at unknown
    cases unknown
  · intro known entry member
    rw [← Bool.not_eq_false]
    exact fun unknown => known _ ⟨entry, member, rfl, unknown⟩

/-- The names that are no settings depend on the keys alone. -/
theorem unknown_iff_of_perm (same : (entries.map (·.1)).Perm (other.map (·.1))) :
    Unknown entries name ↔ Unknown other name := by
  have keyed (entries : Entries) :
      Unknown entries name ↔ ∃ key ∈ entries.map (·.1), key.name = name ∧ isKey name = false := by
    simp [Unknown]
  rw [keyed, keyed]
  simp only [same.mem_iff]

theorem checkKeys_eq_of_perm (same : (entries.map (·.1)).Perm (other.map (·.1))) : checkKeys entries = checkKeys other := by
  have least : unknownName? entries = unknownName? other := by
    ext name
    simp only [unknownName?_eq_some_iff, unknown_iff_of_perm same]
  rw [checkKeys, checkKeys, least]

end Names

section Values

theorem isNamed_iff {entry : Value × Value} : isNamed key entry = true ↔ entry.1 = .str (.ofString key) := by
  unfold isNamed
  split
  next name same => simp [same]
  next other => exact iff_of_false nofun fun same => other _ same

/-- No setting is there twice. -/
def Single (entries : Entries) : Prop :=
  ∀ key given item, Has entries key given → Has entries key item → given = item

theorem single_of_areKeys (areKeys : Value.AreKeys (entries.map (·.1))) : Single entries := by
  intro key given item has also
  have same : (Value.str (.ofString key)).sameKey (.str (.ofString key)) = true := by simp [Value.sameKey, Value.whole?]
  unfold Has at has also
  induction entries with
  | nil => cases has
  | cons entry rest ih =>
    obtain ⟨apart, distinct⟩ := List.pairwise_cons.mp areKeys.distinct
    have twice {given : Value} (here : entry.1 = .str (.ofString key)) (later : (.str (.ofString key), given) ∈ rest) :
        False := by
      have other : entry.1.sameKey (.str (.ofString key)) = false := apart _ (List.mem_map_of_mem later)
      rw [here, same] at other
      cases other
    cases has with
    | head =>
      cases also with
      | head => rfl
      | tail _ later => exact (twice rfl later).elim
    | tail _ earlier =>
      cases also with
      | head => exact (twice rfl earlier).elim
      | tail _ later =>
        exact ih ⟨fun key member => areKeys.scalar key (List.mem_cons_of_mem _ member), distinct⟩ earlier later

theorem Single.of_perm (single : Single entries) (same : entries.Perm other) : Single other :=
  fun key given item has also => single key given item (same.mem_iff.mpr has) (same.mem_iff.mpr also)

theorem lookup?_eq_some_iff (single : Single entries) : lookup? entries key = some given ↔ Has entries key given := by
  unfold lookup?
  cases found : entries.find? (isNamed key) with
  | none =>
    refine iff_of_false nofun fun has => ?_
    exact List.find?_eq_none.mp found _ has (isNamed_iff.mpr rfl)
  | some entry =>
    have has : Has entries key entry.2 := by
      unfold Has
      rw [← isNamed_iff.mp (List.find?_some found)]
      exact List.mem_of_find?_eq_some found
    rw [Option.map_some, Option.some.injEq]
    constructor
    · rintro rfl
      exact has
    · exact single _ _ _ has

/-- The check passes the values of a kind, and refuses all others for a fault of its own. -/
structure Judges {α : Type} (check : Value → Except Error Value) (is : Value → α → Prop) (fault : Value → Error) :
    Prop where
  passes : ∀ {given : Value} {kind : α}, is given kind → ∃ value, check given = .ok value
  refuses : ∀ {given : Value}, (∀ kind, ¬ is given kind) → check given = .error (fault given)

theorem checkWidth_judges : Judges checkWidth IsWidth .badWidth where
  passes isWidth := ⟨_, checkWidth_ok_iff.mpr ⟨_, isWidth, rfl⟩⟩
  refuses := by
    intro given misfit
    cases given with
    | int bits =>
      have unnamed : PointerWidth.ofBits? bits = none :=
        Option.eq_none_iff_forall_ne_some.mpr fun width found =>
          misfit width (congrArg Value.int (PointerWidth.ofBits?_eq_some_iff.mp found))
      simp [checkWidth, unnamed]
    | _ => rfl

theorem checkOrder_judges : Judges checkOrder IsOrder .badOrder where
  passes isOrder := ⟨_, checkOrder_ok_iff.mpr ⟨_, isOrder, rfl⟩⟩
  refuses := by
    intro given misfit
    cases given with
    | str name =>
      have unnamed : ByteOrder.ofName? name.strip.lower = none :=
        Option.eq_none_iff_forall_ne_some.mpr fun order found =>
          misfit order ⟨name, rfl, ByteOrder.ofName?_eq_some_iff.mp found⟩
      simp [checkOrder, unnamed]
    | _ => rfl

theorem checkColor_judges : Judges checkColor IsColor fun _ => .badColor where
  passes isColor := ⟨_, checkColor_ok_iff.mpr ⟨_, isColor, rfl⟩⟩
  refuses := by
    intro given misfit
    cases given with
    | bool color => exact absurd rfl (misfit color)
    | _ => rfl

namespace Judges
variable {α : Type} {check : Value → Except Error Value} {is : Value → α → Prop} {fault : Value → Error} {usual : Value}
  {kind : α}

theorem error_iff (judges : Judges check is fault) :
    check given = .error error ↔ (∀ kind, ¬ is given kind) ∧ error = fault given := by
  constructor
  · intro refused
    have misfit (kind : α) (holds : is given kind) : False := by
      obtain ⟨value, passed⟩ := judges.passes holds
      cases refused.symm.trans passed
    exact ⟨misfit, Except.error.inj (refused.symm.trans (judges.refuses misfit))⟩
  · rintro ⟨misfit, rfl⟩
    exact judges.refuses misfit

/-- A setting is refused just if it is there and does not suit; the usual value always suits. -/
theorem valueOf_error_iff (judges : Judges check is fault) (single : Single entries) (suits : is usual kind) :
    check (valueOf entries key usual) = .error error ↔
      ∃ given, Misfit entries key is given ∧ error = fault given := by
  simp only [valueOf_eq, Misfit, ← lookup?_eq_some_iff single, judges.error_iff]
  cases lookup? entries key with
  | none => exact iff_of_false (fun refused => refused.1 kind suits) nofun
  | some given => simp

theorem valueOf_ok_iff (judges : Judges check is fault) (single : Single entries) (suits : is usual kind) :
    (∃ value, check (valueOf entries key usual) = .ok value) ↔ Suits entries key is := by
  constructor
  · rintro ⟨value, passed⟩ given has
    by_contra misfit
    have refused := (judges.valueOf_error_iff single suits).mpr ⟨given, ⟨has, not_exists.mp misfit⟩, rfl⟩
    cases passed.symm.trans refused
  · intro allSuit
    cases judged : check (valueOf entries key usual) with
    | ok value => exact ⟨value, rfl⟩
    | error error =>
      obtain ⟨given, ⟨has, misfit⟩, -⟩ := (judges.valueOf_error_iff single suits).mp judged
      obtain ⟨kind, holds⟩ := allSuit given has
      exact absurd holds (misfit kind)

end Judges

theorem ofValues_error_iff (single : Single entries) : ofValues entries = .error error ↔
    (∃ given, Misfit entries "pointer_width" IsWidth given ∧ error = .badWidth given) ∨
      Suits entries "pointer_width" IsWidth ∧
        ((∃ given, Misfit entries "byte_order" IsOrder given ∧ error = .badOrder given) ∨
          Suits entries "byte_order" IsOrder ∧ ∃ given, Misfit entries "color" IsColor given ∧ error = .badColor) := by
  have usualWidth : IsWidth default.pointerWidth .w64 := rfl
  have usualOrder : IsOrder default.byteOrder .little := ⟨_, rfl, rfl⟩
  have usualColor : IsColor default.color true := rfl
  have made (settings : Settings) : ¬ (pure settings : Except Error Settings) = .error error := nofun
  simp only [ofValues, bind_error_iff, made, and_false, exists_false, or_false, exists_and_right,
    checkWidth_judges.valueOf_error_iff single usualWidth, checkWidth_judges.valueOf_ok_iff single usualWidth,
    checkOrder_judges.valueOf_error_iff single usualOrder, checkOrder_judges.valueOf_ok_iff single usualOrder,
    checkColor_judges.valueOf_error_iff single usualColor]

theorem ofValues_eq_of_perm (single : Single entries) (same : entries.Perm other) : ofValues entries = ofValues other := by
  have found (key : String) : lookup? entries key = lookup? other key := by
    ext given
    rw [lookup?_eq_some_iff single, lookup?_eq_some_iff (single.of_perm same)]
    exact same.mem_iff
  simp only [ofValues, valueOf_eq, found]

end Values

/-- The settings are refused for the fault of their entries, whatever the order of these. -/
theorem ofEntries_error_iff (single : Single entries) : ofEntries entries = .error error ↔ Fault entries error := by
  simp only [ofEntries, bind_error_iff, checkKeys_error_iff, unknownName?_eq_some_iff, ofValues_error_iff single]
  constructor
  · rintro (⟨name, ⟨unknown, first⟩, rfl⟩ | ⟨⟨⟩, checked, rest⟩)
    · exact .unknownKey unknown first
    · have known := checkKeys_ok_iff_known.mp checked
      obtain ⟨given, misfit, rfl⟩ | ⟨width, ⟨given, misfit, rfl⟩ | ⟨order, given, misfit, rfl⟩⟩ := rest
      · exact .badWidth known misfit
      · exact .badOrder known width misfit
      · exact .badColor known width order misfit
  · intro fault
    cases fault with
    | unknownKey unknown first => exact .inl ⟨_, ⟨unknown, first⟩, rfl⟩
    | badWidth known misfit => exact .inr ⟨(), checkKeys_ok_iff_known.mpr known, .inl ⟨_, misfit, rfl⟩⟩
    | badOrder known width misfit =>
      exact .inr ⟨(), checkKeys_ok_iff_known.mpr known, .inr ⟨width, .inl ⟨_, misfit, rfl⟩⟩⟩
    | badColor known width order misfit =>
      exact .inr ⟨(), checkKeys_ok_iff_known.mpr known, .inr ⟨width, .inr ⟨order, _, misfit, rfl⟩⟩⟩

/-- There is but one reason for which scalars cannot be shown, so it does not matter which of them is met first. -/
theorem forM_checkShowable (scalar : ∀ key ∈ entries.map (·.1), key.isKey = true) :
    (entries.forM fun entry => entry.1.checkShowable) = .ok () ∨
      (entries.forM fun entry => entry.1.checkShowable) = .error .hugeNumber := by
  induction entries with
  | nil => exact .inl rfl
  | cons entry rest ih =>
    obtain ⟨first, others⟩ := List.forall_mem_cons.mp scalar
    change (entry.1.checkShowable >>= fun _ => rest.forM _) = _ ∨ (entry.1.checkShowable >>= fun _ => rest.forM _) = _
    obtain shown | hidden := Value.checkShowable_of_isKey first
    · rw [shown]
      exact ih others
    · rw [hidden]
      exact .inr rfl

theorem forM_checkShowable_of_perm (scalar : ∀ key ∈ entries.map (·.1), key.isKey = true)
    (same : (entries.map (·.1)).Perm (other.map (·.1))) :
    (entries.forM fun entry => entry.1.checkShowable) = other.forM fun entry => entry.1.checkShowable := by
  have otherScalar : ∀ key ∈ other.map (·.1), key.isKey = true := fun key member => scalar key (same.mem_iff.mpr member)
  have shown : (entries.forM fun entry => entry.1.checkShowable) = .ok () ↔
      (other.forM fun entry => entry.1.checkShowable) = .ok () := by
    have keyed (entries : Entries) : (∀ entry ∈ entries, entry.1.checkShowable = .ok ()) ↔
        ∀ key ∈ entries.map (·.1), key.checkShowable = .ok () := by simp
    rw [forM_ok_iff, forM_ok_iff, keyed, keyed]
    simp only [same.mem_iff]
  obtain ok | hidden := forM_checkShowable scalar
  · rw [ok, shown.mp ok]
  · obtain ok | alsoHidden := forM_checkShowable otherScalar
    · rw [ok, shown.mpr ok]
    · rw [hidden, alsoHidden]

theorem judgeEntries_eq_of_perm (areKeys : Value.AreKeys (entries.map (·.1))) (same : entries.Perm other) :
    judgeEntries entries = judgeEntries other := by
  rw [judgeEntries, judgeEntries, forM_checkShowable_of_perm areKeys.scalar (same.map _), checkKeys_eq_of_perm (same.map _),
    ofValues_eq_of_perm (single_of_areKeys areKeys) same]

/-- Behind a key that is no setting no value is looked at. -/
theorem judgeEntries_eq_of_unknown (areKeys : Value.AreKeys (entries.map (·.1))) (unknown : Unknown entries name)
    (same : (entries.map (·.1)).Perm (other.map (·.1))) : judgeEntries entries = judgeEntries other := by
  rw [judgeEntries, judgeEntries, forM_checkShowable_of_perm areKeys.scalar same, ← checkKeys_eq_of_perm same]
  cases checked : checkKeys entries with
  | error error => rfl
  | ok _ => exact absurd unknown (checkKeys_ok_iff_known.mp checked name)

theorem judgeEntries_of_not_hides (showable : ¬ Hides entries) :
    judgeEntries entries = (ofEntries entries).mapError .settings := by
  have shown := shown_of_not_hides showable
  rw [judgeEntries_of_shown shown, ofEntries]
  cases known : checkKeys entries with
  | error error => rfl
  | ok _ =>
    cases refused : ofValues entries with
    | ok settings => rfl
    | error error =>
      change Except.error (Failure.ofSettings error) = .error (.settings error)
      cases hidden : error.checkShowable with
      | ok _ => rw [Failure.ofSettings, hidden]
      | error unshowable => exact absurd (.value shown known refused hidden) showable

/-- What loading the settings comes to. -/
def loadResult (tree : FileTree) (directory : Location) (explicit : Argument Path) : Except Failure Settings :=
  ((load explicit).run ⟨tree, directory, []⟩).1

/-- The settings file is there, and it is a mapping with these entries. -/
def Holds (tree : FileTree) (directory : Location) (explicit : Argument Path) (entries : Entries) : Prop :=
  ∃ value, Provides tree directory explicit (some value) ∧ entries? value = some entries

section Load
variable {tree : FileTree} {directory : Location} {explicit : Argument Path}

theorem loadResult_of_holds (holds : Holds tree directory explicit entries) :
    loadResult tree directory explicit = judgeEntries entries := by
  obtain ⟨value, provided, held⟩ := holds
  obtain ⟨shown, loaded⟩ := load_result_of_provides provided []
  have content : contentEntries? (some value) = some entries := held
  rw [loadResult, loaded, judgeContent, content]

theorem areKeys_of_holds (holds : Holds tree directory explicit entries) : Value.AreKeys (entries.map (·.1)) := by
  obtain ⟨value, provided, held⟩ := holds
  cases provided with
  | document located found decoded parsed => exact Yaml.load_keys _ value parsed entries held

/-- What loading a mapping comes to is made of its entries. It is the same in every order of these, and if a name in them
is no setting, also with any other values. Unless what is to be told cannot be shown, loading fails for a fault of the
settings just if this is the fault of the entries, and gives settings just if they have none. -/
theorem load_by_entries (holds : Holds tree directory explicit entries) :
    loadResult tree directory explicit = judgeEntries entries ∧
      (∀ other, entries.Perm other ∨ (∃ name, Unknown entries name) ∧ (entries.map (·.1)).Perm (other.map (·.1)) →
        judgeEntries other = judgeEntries entries) ∧
      (∀ error, loadResult tree directory explicit = .error (.settings error) ↔ Fault entries error ∧ ¬ Hides entries) ∧
      ((∃ settings, loadResult tree directory explicit = .ok settings) ↔
        (∀ error, ¬ Fault entries error) ∧ ¬ Hides entries) := by
  have areKeys := areKeys_of_holds holds
  have faults (error : Error) : ofEntries entries = .error error ↔ Fault entries error :=
    ofEntries_error_iff (single_of_areKeys areKeys)
  have answered : Judged (judgeEntries entries) ↔ ¬ Hides entries := judgeEntries_judged_iff
  rw [loadResult_of_holds holds]
  refine ⟨rfl, ?_, ?_, ?_⟩
  · rintro other (same | ⟨⟨name, unknown⟩, same⟩)
    · exact (judgeEntries_eq_of_perm areKeys same).symm
    · exact (judgeEntries_eq_of_unknown areKeys unknown same).symm
  · intro error
    constructor
    · intro failed
      have showable : ¬ Hides entries := answered.mp (failed ▸ judged_error error)
      rw [judgeEntries_of_not_hides showable, mapError_error_iff] at failed
      obtain ⟨_, refused, ⟨⟩⟩ := failed
      exact ⟨(faults error).mp refused, showable⟩
    · rintro ⟨fault, showable⟩
      rw [judgeEntries_of_not_hides showable, (faults error).mpr fault]
      rfl
  · constructor
    · rintro ⟨settings, loaded⟩
      have showable : ¬ Hides entries := answered.mp (loaded ▸ judged_ok settings)
      refine ⟨fun error fault => ?_, showable⟩
      rw [judgeEntries_of_not_hides showable, (faults error).mpr fault] at loaded
      cases loaded
    · rintro ⟨faultless, showable⟩
      rw [judgeEntries_of_not_hides showable]
      cases made : ofEntries entries with
      | ok settings => exact ⟨settings, rfl⟩
      | error error => exact absurd ((faults error).mp made) (faultless error)

end Load

/-- The document is a mapping whose entries pass the test. -/
def hasEntries (test : Entries → Bool) : Except Yaml.Error Value → Bool
  | .ok value => (entries? value).any test
  | .error _ => false

theorem holds_of_hasEntries {chars : List Char} {test : Entries → Bool} (has : hasEntries test (Yaml.load chars) = true) :
    ∃ entries, test entries = true ∧ Holds (Command.settingsTree chars) [] .absent entries := by
  cases parsed : Yaml.load chars with
  | error error =>
    rw [parsed] at has
    cases has
  | ok value =>
    rw [parsed, hasEntries, Option.any_eq_true] at has
    obtain ⟨entries, held, passes⟩ := has
    exact ⟨entries, passes, value, Command.provides_settingsTree parsed, held⟩

/-- Keys without values. -/
def unset (names : List String) : Entries :=
  names.map fun name => (.str (.ofString name), .null)

def isUnset : List String → Entries → Bool
  | [], [] => true
  | name :: names, (.str key, .null) :: rest => key = Text.ofString name && isUnset names rest
  | _, _ => false

theorem eq_of_isUnset {names : List String} (areUnset : isUnset names entries = true) : entries = unset names := by
  fun_induction isUnset names entries with
  | case1 => rfl
  | case2 name names key rest ih =>
    rw [Bool.and_eq_true, decide_eq_true_eq] at areUnset
    rw [areUnset.1, ih areUnset.2]
    rfl
  | case3 => cases areUnset

def colorFirst : List Char :=
  "color: ~\npointer_width: ~".toList

def widthFirst : List Char :=
  "pointer_width: ~\ncolor: ~".toList

theorem load_by_entries_reordered :
    Holds (Command.settingsTree colorFirst) [] .absent (unset ["color", "pointer_width"]) ∧
      Holds (Command.settingsTree widthFirst) [] .absent (unset ["pointer_width", "color"]) ∧
      loadResult (Command.settingsTree colorFirst) [] .absent = .error (.settings (.badWidth .null)) ∧
      loadResult (Command.settingsTree widthFirst) [] .absent = .error (.settings (.badWidth .null)) := by
  have inTurn : hasEntries (isUnset ["color", "pointer_width"]) (Yaml.load colorFirst) = true := by decide +kernel
  have swapped : hasEntries (isUnset ["pointer_width", "color"]) (Yaml.load widthFirst) = true := by decide +kernel
  obtain ⟨entries, areInTurn, holds⟩ := holds_of_hasEntries inTurn
  obtain ⟨other, areSwapped, alsoHolds⟩ := holds_of_hasEntries swapped
  obtain rfl := eq_of_isUnset areInTurn
  obtain rfl := eq_of_isUnset areSwapped
  obtain ⟨made, reordered, faults, -⟩ := load_by_entries holds
  have fault : Fault (unset ["color", "pointer_width"]) (.badWidth .null) :=
    .badWidth (checkKeys_ok_iff_known.mp rfl) ⟨.tail _ (.head _), nofun⟩
  have showable : ¬ Hides (unset ["color", "pointer_width"]) := by
    intro hides
    cases hides with
    | key member hidden =>
      obtain ⟨name, -, rfl⟩ := List.mem_map.mp member
      cases hidden
    | value shown known refused hidden =>
      cases refused
      cases hidden
  have failed := (faults _).mpr ⟨fault, showable⟩
  refine ⟨holds, alsoHolds, failed, ?_⟩
  calc
    loadResult (Command.settingsTree widthFirst) [] .absent
    _ = judgeEntries (unset ["pointer_width", "color"]) := loadResult_of_holds alsoHolds
    _ = judgeEntries (unset ["color", "pointer_width"]) := reordered _ (.inl (.swap _ _ _))
    _ = loadResult (Command.settingsTree colorFirst) [] .absent := made.symm
    _ = .error (.settings (.badWidth .null)) := failed

/-- A key that is a number of more digits than are ever shown, and then one that is the name of no setting. -/
def hugeKey : List Char :=
  "? 0x".toList ++ List.replicate 3600 'f' ++ "\n? '!'".toList

def isHugeFirst : Entries → Bool
  | entry :: rest => Command.isHuge entry.1 && isUnset ["!"] rest
  | [] => false

set_option maxRecDepth 1000000 in
theorem hasEntries_hugeKey : hasEntries isHugeFirst (Yaml.load hugeKey) = true := by decide +kernel

/-- A name that is no setting is not told beside a key that cannot be shown. -/
theorem load_hugeKey_untold : ∃ entries, Holds (Command.settingsTree hugeKey) [] .absent entries ∧
    Unknown entries "!" ∧ (¬ ∃ error, loadResult (Command.settingsTree hugeKey) [] .absent = .error (.settings error)) ∧
    loadResult (Command.settingsTree hugeKey) [] .absent = .error .hugeNumber := by
  obtain ⟨entries, hugeFirst, holds⟩ := holds_of_hasEntries hasEntries_hugeKey
  cases entries with
  | nil => cases hugeFirst
  | cons entry rest =>
    obtain ⟨huge, areUnset⟩ := Bool.and_eq_true_iff.mp hugeFirst
    obtain rfl := eq_of_isUnset areUnset
    have failed : loadResult (Command.settingsTree hugeKey) [] .absent = .error .hugeNumber := by
      rw [loadResult_of_holds holds]
      change ((entry.1.checkShowable >>= fun _ => (unset ["!"]).forM _).mapError Failure.ofUnshowable >>= _) = _
      rw [Command.checkShowable_of_isHuge huge]
      rfl
    refine ⟨_, holds, ⟨_, .tail _ (.head _), rfl, rfl⟩, ?_, failed⟩
    rintro ⟨error, told⟩
    cases failed.symm.trans told

end Settings

end CacheSeal
