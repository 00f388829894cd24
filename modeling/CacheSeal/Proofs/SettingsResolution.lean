import CacheSeal.Proofs.LayoutsInEffect

/-! The settings in effect. What passes the judgement of the file or of the command line is a width, an order and a
truth value, so the layout made of them is not refused. What the command line says takes the place of what the file
says, but not before all of the file was judged. -/

namespace CacheSeal

theorem PointerWidth.ofBits?_eq_some_iff {bits : Int} {width : PointerWidth} :
    ofBits? bits = some width ↔ bits = width.bits := by
  constructor
  · intro found
    unfold ofBits? at found
    split at found
    next same =>
      cases found
      exact same
    next =>
      split at found
      next same =>
        cases found
        exact same
      next => cases found
  · rintro rfl
    cases width <;> rfl

theorem ByteOrder.ofName?_eq_some_iff {name : Text} {order : ByteOrder} :
    ofName? name = some order ↔ name = Text.ofString order.name := by
  constructor
  · intro found
    unfold ofName? at found
    have named := List.find?_some found
    exact (of_decide_eq_true named).symm
  · rintro rfl
    cases order <;> rfl

theorem Yaml.decode?_utf8 (chars : List Char) : decode? (chars.flatMap String.utf8EncodeChar) = some chars := by
  have encoded : (⟨(chars.flatMap String.utf8EncodeChar).toArray⟩ : ByteArray) = chars.utf8Encode :=
    ByteArray.ext List.data_toByteArray.symm
  have valid : ByteArray.IsValidUTF8 ⟨(chars.flatMap String.utf8EncodeChar).toArray⟩ := ⟨chars, encoded⟩
  unfold decode? String.fromUTF8?
  rw [dif_pos valid]
  simp only [encoded]
  exact congrArg some String.toList_ofList

namespace Settings
open Session Proofs.FailingRuns
variable {entries : Entries} {given value : Value} {key : String} {settings : Settings}

def IsWidth (value : Value) (width : PointerWidth) : Prop :=
  value = .int width.bits

/-- A name of an order, in any case and with blanks around. -/
def IsOrder (value : Value) (order : ByteOrder) : Prop :=
  ∃ name, value = .str name ∧ name.strip.lower = .ofString order.name

def IsColor (value : Value) (color : Bool) : Prop :=
  value = .bool color

theorem checkWidth_ok_iff : checkWidth given = .ok value ↔ ∃ width, IsWidth given width ∧ value = .int width.bits := by
  unfold IsWidth
  cases given with
  | int bits =>
    cases found : PointerWidth.ofBits? bits with
    | none =>
      simp only [checkWidth, found, Option.isSome_none, Bool.false_eq_true, Value.int.injEq, reduceCtorEq, if_false,
        false_iff]
      rintro ⟨width, same, -⟩
      rw [PointerWidth.ofBits?_eq_some_iff.mpr same] at found
      cases found
    | some width =>
      obtain rfl := PointerWidth.ofBits?_eq_some_iff.mp found
      simp only [checkWidth, found, Option.isSome_some, if_true, Except.ok.injEq]
      constructor
      · rintro rfl
        exact ⟨width, rfl, rfl⟩
      · rintro ⟨other, same, rfl⟩
        exact same
  | _ => simp [checkWidth]

theorem checkOrder_ok_iff :
    checkOrder given = .ok value ↔ ∃ order, IsOrder given order ∧ value = .str (.ofString order.name) := by
  unfold IsOrder
  cases given with
  | str name =>
    cases found : ByteOrder.ofName? name.strip.lower with
    | none =>
      simp only [checkOrder, found, Option.isSome_none, reduceCtorEq, Bool.false_eq_true, if_false, false_iff]
      rintro ⟨order, ⟨_, ⟨⟩, plain⟩, -⟩
      rw [ByteOrder.ofName?_eq_some_iff.mpr plain] at found
      cases found
    | some order =>
      have plain := ByteOrder.ofName?_eq_some_iff.mp found
      simp only [checkOrder, found, Option.isSome_some, if_true, Except.ok.injEq]
      constructor
      · rintro rfl
        exact ⟨order, ⟨name, rfl, plain⟩, congrArg Value.str plain⟩
      · rintro ⟨other, ⟨_, ⟨⟩, same⟩, rfl⟩
        rw [same]
  | _ => simp [checkOrder]

theorem checkColor_ok_iff : checkColor given = .ok value ↔ ∃ color, IsColor given color ∧ value = .bool color := by
  unfold IsColor
  cases given with
  | bool color => simp [checkColor, eq_comm]
  | _ => simp [checkColor]

/-- The entry is the one of the setting. -/
def isNamed (key : String) (entry : Value × Value) : Bool :=
  match entry.1 with
  | .str name => name = Text.ofString key
  | _ => false

def lookup? (entries : Entries) (key : String) : Option Value :=
  (entries.find? (isNamed key)).map (·.2)

theorem valueOf_eq (entries : Entries) (key : String) (fallback : Value) :
    valueOf entries key fallback = (lookup? entries key).getD fallback := by
  rw [valueOf, lookup?]
  split
  · rename_i entry found
    have found : entries.find? (isNamed key) = some entry := found
    rw [found]
    rfl
  · rename_i missing
    have missing : entries.find? (isNamed key) = none := missing
    rw [missing]
    rfl

/-- All keys are settings, and a setting that is there has a value of its kind. -/
structure Says (entries : Entries) (width : Option PointerWidth) (order : Option ByteOrder) (color : Option Bool) :
    Prop where
  keys : ∀ entry ∈ entries, isKey entry.1.name = true
  width : Option.Rel IsWidth (lookup? entries "pointer_width") width
  order : Option.Rel IsOrder (lookup? entries "byte_order") order
  color : Option.Rel IsColor (lookup? entries "color") color

private theorem rel_unique {α : Type} {is : Value → α → Prop} {found : Option Value} {first second : Option α}
    (one : ∀ value first second, is value first → is value second → first = second)
    (stated : Option.Rel is found first) (also : Option.Rel is found second) : first = second := by
  cases stated with
  | none =>
    cases also
    rfl
  | some holds =>
    cases also with
    | some holdsAlso => exact congrArg some (one _ _ _ holds holdsAlso)

/-- A file says one thing only. -/
theorem Says.unique {width otherWidth : Option PointerWidth} {order otherOrder : Option ByteOrder}
    {color otherColor : Option Bool} (stated : Says entries width order color)
    (also : Says entries otherWidth otherOrder otherColor) :
    width = otherWidth ∧ order = otherOrder ∧ color = otherColor := by
  refine ⟨rel_unique ?_ stated.width also.width, rel_unique ?_ stated.order also.order,
    rel_unique ?_ stated.color also.color⟩
  · rintro _ first second rfl same
    cases first <;> cases second <;> first | rfl | cases same
  · rintro _ first second ⟨name, rfl, plain⟩ ⟨_, ⟨⟩, same⟩
    exact Option.some.inj ((ByteOrder.ofName?_eq_some_iff.mpr plain).symm.trans (ByteOrder.ofName?_eq_some_iff.mpr same))
  · rintro _ first second rfl same
    exact Value.bool.inj same

/-- Settings as every command can use them. -/
structure Sound (settings : Settings) (width : PointerWidth) (order : ByteOrder) (color : Bool) : Prop where
  pointerWidth : settings.pointerWidth = .int width.bits
  byteOrder : settings.byteOrder = .str (.ofString order.name)
  color : settings.color = .bool color

theorem Sound.layout {width : PointerWidth} {order : ByteOrder} {color : Bool} (sound : settings.Sound width order color) :
    settings.layout = .ok ⟨width, order, .whole⟩ := by
  have bits : PointerWidth.ofBits? width.bits = some width := PointerWidth.ofBits?_eq_some_iff.mpr rfl
  have name : ByteOrder.ofName? (.ofString order.name) = some order := ByteOrder.ofName?_eq_some_iff.mpr rfl
  rw [Settings.layout, sound.pointerWidth, sound.byteOrder, Layout.ofValues]
  simp only [Layout.containerKind?, Layout.width?, bits, Layout.order?, name]
  rfl

private theorem foldl_smaller_eq_none_iff (names : List Text) (least : Option Text) :
    names.foldl smaller least = none ↔ least = none ∧ names = [] := by
  induction names generalizing least with
  | nil => simp
  | cons name rest ih =>
    rw [List.foldl_cons, ih]
    have least : smaller least name ≠ none := by
      unfold smaller
      split
      · exact nofun
      · split <;> exact nofun
    simp [least]

theorem checkKeys_ok_iff : checkKeys entries = .ok () ↔ ∀ entry ∈ entries, isKey entry.1.name = true := by
  have unknown : checkKeys entries = .ok () ↔ unknownName? entries = none := by
    unfold checkKeys
    cases unknownName? entries <;> simp
  rw [unknown, unknownName?, foldl_smaller_eq_none_iff, List.filter_eq_nil_iff, List.forall_mem_map]
  simp

/-- A check of a setting passes what is there if it is of its kind, and the usual value if nothing is. -/
private theorem check_getD_iff {α : Type} {check : Value → Except Error Value} {is : Value → α → Prop} (shown : α → Value)
    (usual : α) (found : Option Value)
    (passes : ∀ given value, check given = .ok value ↔ ∃ kind, is given kind ∧ value = shown kind)
    (own : check (shown usual) = .ok (shown usual)) :
    check (found.getD (shown usual)) = .ok value ↔ ∃ kind, Option.Rel is found kind ∧ value = shown (kind.getD usual) := by
  cases found with
  | none =>
    rw [Option.getD_none, own, Except.ok.injEq]
    constructor
    · rintro rfl
      exact ⟨none, .none, rfl⟩
    · rintro ⟨_, ⟨⟩, same⟩
      exact same.symm
  | some there =>
    rw [Option.getD_some, passes]
    constructor
    · rintro ⟨kind, holds, same⟩
      exact ⟨some kind, .some holds, same⟩
    · rintro ⟨_, ⟨holds⟩, same⟩
      exact ⟨_, holds, same⟩

theorem ofValues_ok_iff (known : ∀ entry ∈ entries, isKey entry.1.name = true) :
    ofValues entries = .ok settings ↔ ∃ width order color, Says entries width order color ∧
      settings.Sound (width.getD .w64) (order.getD .little) (color.getD true) := by
  have widths (value : Value) : checkWidth (valueOf entries "pointer_width" default.pointerWidth) = .ok value ↔
      ∃ width, Option.Rel IsWidth (lookup? entries "pointer_width") width ∧ value = .int (width.getD .w64).bits := by
    rw [valueOf_eq]
    exact check_getD_iff (fun width => .int (PointerWidth.bits width)) .w64 _ (fun _ _ => checkWidth_ok_iff) rfl
  have orders (value : Value) : checkOrder (valueOf entries "byte_order" default.byteOrder) = .ok value ↔
      ∃ order, Option.Rel IsOrder (lookup? entries "byte_order") order ∧
        value = .str (.ofString (order.getD .little).name) := by
    rw [valueOf_eq]
    exact check_getD_iff (fun order => .str (.ofString (ByteOrder.name order))) .little _ (fun _ _ => checkOrder_ok_iff) rfl
  have colors (value : Value) : checkColor (valueOf entries "color" default.color) = .ok value ↔
      ∃ color, Option.Rel IsColor (lookup? entries "color") color ∧ value = .bool (color.getD true) := by
    rw [valueOf_eq]
    exact check_getD_iff .bool true _ (fun _ _ => checkColor_ok_iff) rfl
  simp only [ofValues, bind_ok_iff, widths, orders, colors]
  constructor
  · rintro ⟨_, ⟨width, holdsWidth, rfl⟩, _, ⟨order, holdsOrder, rfl⟩, _, ⟨color, holdsColor, rfl⟩, made⟩
    cases made
    exact ⟨width, order, color, ⟨known, holdsWidth, holdsOrder, holdsColor⟩, rfl, rfl, rfl⟩
  · rintro ⟨width, order, color, ⟨-, holdsWidth, holdsOrder, holdsColor⟩, sameWidth, sameOrder, sameColor⟩
    refine ⟨_, ⟨width, holdsWidth, rfl⟩, _, ⟨order, holdsOrder, rfl⟩, _, ⟨color, holdsColor, rfl⟩, ?_⟩
    rw [← sameWidth, ← sameOrder, ← sameColor]
    rfl

theorem judgeEntries_ok_iff : judgeEntries entries = .ok settings ↔
    (∀ entry ∈ entries, entry.1.checkShowable = .ok ()) ∧ ∃ width order color, Says entries width order color ∧
      settings.Sound (width.getD .w64) (order.getD .little) (color.getD true) := by
  simp only [judgeEntries, bind_ok_iff, mapError_ok_iff]
  constructor
  · rintro ⟨_, shown, _, known, judged⟩
    exact ⟨forM_ok_iff.mp shown, (ofValues_ok_iff (checkKeys_ok_iff.mp known)).mp judged⟩
  · rintro ⟨shown, width, order, color, stated, sound⟩
    exact ⟨(), forM_ok_iff.mpr shown, (), checkKeys_ok_iff.mpr stated.keys,
      (ofValues_ok_iff stated.keys).mpr ⟨width, order, color, stated, sound⟩⟩

/-- What comes to stand in place of a value, or the value itself if nothing does. -/
def replacement (check : Value → Except Error Value) (kept : Value) (given : Option Value) : Except Error Value :=
  match given with
  | some other => check other
  | none => .ok kept

theorem override_eq (settings : Settings) (overrides : Overrides) :
    settings.override overrides = do
      let pointerWidth ← replacement checkWidth settings.pointerWidth overrides.pointerWidth
      let byteOrder ← replacement checkOrder settings.byteOrder overrides.byteOrder
      return ⟨pointerWidth, byteOrder, overrides.color.getD settings.color⟩ := by
  unfold override
  cases overrides.pointerWidth <;> cases overrides.byteOrder <;> rfl

/-- A value of the command line takes the place of a sound one, unless the option was left empty. -/
private theorem replacement_ok_iff {α : Type} {check : Value → Except Error Value} (shown : α → Value)
    (argument : Argument α) (kept : α) (passes : ∀ kind, check (shown kind) = .ok (shown kind))
    (refuses : ∃ error, check (.ofItems []) = .error error) (value : Value) :
    replacement check (shown kept) (Command.overriding (argument.map shown)) = .ok value ↔
      argument ≠ .empty ∧ value = shown (argument.value?.getD kept) := by
  obtain ⟨error, refused⟩ := refuses
  cases argument with
  | absent => simp [replacement, Command.overriding, Argument.map, Argument.value?, eq_comm]
  | empty => simp [replacement, Command.overriding, Argument.map, refused]
  | given kind => simp [replacement, Command.overriding, Argument.map, Argument.value?, passes, eq_comm]

theorem override_ok_iff {loaded : Settings} {width : PointerWidth} {order : ByteOrder} {color : Bool}
    (sound : loaded.Sound width order color) (widths : Argument PointerWidth) (orders : Argument ByteOrder)
    (colors : Option Bool) :
    loaded.override ⟨Command.overriding (widths.map fun width => .int width.bits),
        Command.overriding (orders.map fun order => .str (.ofString order.name)), colors.map .bool⟩ = .ok settings ↔
      widths ≠ .empty ∧ orders ≠ .empty ∧
        settings.Sound (widths.value?.getD width) (orders.value?.getD order) (colors.getD color) := by
  have widthJudged := replacement_ok_iff (fun width => .int (PointerWidth.bits width)) widths width
    (fun width => checkWidth_ok_iff.mpr ⟨width, rfl, rfl⟩) ⟨_, rfl⟩
  have orderJudged := replacement_ok_iff (fun order => .str (.ofString (ByteOrder.name order))) orders order
    (fun order => checkOrder_ok_iff.mpr ⟨order, ⟨_, rfl, by cases order <;> rfl⟩, rfl⟩) ⟨_, rfl⟩
  have shade : (colors.map Value.bool).getD (.bool color) = .bool (colors.getD color) := by cases colors <;> rfl
  simp only [override_eq, bind_ok_iff, sound.pointerWidth, sound.byteOrder, sound.color, widthJudged, orderJudged, shade]
  constructor
  · rintro ⟨_, ⟨hasWidth, rfl⟩, _, ⟨hasOrder, rfl⟩, made⟩
    cases made
    exact ⟨hasWidth, hasOrder, rfl, rfl, rfl⟩
  · rintro ⟨hasWidth, hasOrder, sameWidth, sameOrder, sameColor⟩
    refine ⟨_, ⟨hasWidth, rfl⟩, _, ⟨hasOrder, rfl⟩, ?_⟩
    rw [← sameWidth, ← sameOrder, ← sameColor]
    rfl

/-- What the settings file holds, as a document, or that there is none and none was asked for. -/
inductive Provides (tree : FileTree) (directory : Location) (explicit : Argument Path) : Option Value → Prop where
  | nothing {error : OsError} (unasked : explicit = .absent)
      (missing : tree.find [] (Location.toPath (directory ++ [Text.ofString fileName])) = .error error)
      (told : error ≠ .nameTooLong) : Provides tree directory explicit none
  | document {location : Location} {data : Bytes} {chars : List Char} {value : Value}
      (located : located tree directory explicit = .ok location)
      (found : tree.readFile [] location.toPath = .ok data) (decoded : Yaml.decode? data = some chars)
      (parsed : Yaml.load chars = .ok value) : Provides tree directory explicit (some value)

def contentEntries? (content : Option Value) : Option Entries :=
  content.elim (some []) entries?

def judgeContent (shown : Text) (content : Option Value) : Except Failure Settings :=
  match contentEntries? content with
  | none => .error (.settings (.noMapping shown))
  | some entries => judgeEntries entries

theorem load_result_of_provides {tree : FileTree} {directory : Location} {explicit : Argument Path} {content : Option Value}
    (provided : Provides tree directory explicit content) (notices : List Notice) :
    ∃ shown, ((load explicit).run ⟨tree, directory, notices⟩).1 = judgeContent shown content := by
  unfold load
  rw [run_bind, place_run]
  cases provided with
  | @nothing error unasked missing told =>
    subst unasked
    refine ⟨[], ?_⟩
    dsimp only [located, Except.mapError]
    rw [loadAt_result, missing]
    cases error with
    | nameTooLong => exact absurd rfl told
    | _ => rfl
  | @document location data chars value located found decoded parsed =>
    obtain ⟨entry, stands⟩ := find_of_readFile found
    refine ⟨location.text, ?_⟩
    rw [located]
    dsimp only [Except.mapError]
    rw [loadAt_result, stands, found]
    dsimp only
    rw [judge, readDocument, decoded]
    dsimp only
    rw [parsed]
    rfl

/-- Settings that are loaded come from a document, or from there being none. -/
theorem provides_of_load {tree : FileTree} {directory : Location} {explicit : Argument Path} {notices : List Notice}
    (loaded : ((load explicit).run ⟨tree, directory, notices⟩).1 = .ok settings) :
    ∃ content, Provides tree directory explicit content := by
  unfold load at loaded
  rw [run_bind, place_run] at loaded
  cases found : located tree directory explicit with
  | error error =>
    rw [found] at loaded
    cases loaded
  | ok location =>
    rw [found] at loaded
    dsimp only [Except.mapError] at loaded
    rw [loadAt_result] at loaded
    split at loaded
    next => cases loaded
    next error told missing =>
      cases explicit with
      | absent =>
        cases found
        exact ⟨none, .nothing rfl missing told⟩
      | empty => cases loaded
      | given path => cases loaded
    next entry stands =>
      split at loaded
      next => cases loaded
      next data read =>
        unfold judge readDocument at loaded
        cases decoded : Yaml.decode? data with
        | none =>
          rw [decoded] at loaded
          cases loaded
        | some chars =>
          rw [decoded] at loaded
          dsimp only at loaded
          cases parsed : Yaml.load chars with
          | ok value => exact ⟨some value, .document found read decoded parsed⟩
          | error error =>
            rw [parsed] at loaded
            cases error <;> cases loaded

/-- The file has nothing but settings in it, and all their values are of their kinds. -/
def Valid (content : Option Value) : Prop :=
  ∃ entries width order color, contentEntries? content = some entries ∧ Says entries width order color

/-- What is to be told of the file cannot be shown. -/
def Hidden (content : Option Value) : Prop :=
  ∃ entries, contentEntries? content = some entries ∧ Hides entries

/-- Settings as a file says them, and the usual ones for those that it does not say. -/
def usual (width : Option PointerWidth) (order : Option ByteOrder) (color : Option Bool) : Settings :=
  ⟨.int (width.getD .w64).bits, .str (.ofString (order.getD .little).name), .bool (color.getD true)⟩

theorem usual_sound (width : Option PointerWidth) (order : Option ByteOrder) (color : Option Bool) :
    (usual width order color).Sound (width.getD .w64) (order.getD .little) (color.getD true) :=
  ⟨rfl, rfl, rfl⟩

theorem not_hides {width : Option PointerWidth} {order : Option ByteOrder} {color : Option Bool}
    (shown : ∀ entry ∈ entries, entry.1.checkShowable = .ok ()) (stated : Says entries width order color) :
    ¬ Hides entries := by
  intro hides
  cases hides with
  | key member hidden => cases (shown _ member).symm.trans hidden
  | value shown known refused hidden =>
    have accepted := (ofValues_ok_iff stated.keys).mpr ⟨width, order, color, stated, usual_sound width order color⟩
    cases refused.symm.trans accepted

theorem shown_of_not_hides (showable : ¬ Hides entries) : ∀ entry ∈ entries, entry.1.checkShowable = .ok () := by
  intro entry member
  cases hidden : entry.1.checkShowable with
  | ok _ => rfl
  | error unshowable => exact absurd (.key member hidden) showable

theorem judgeContent_judged_iff {content : Option Value} {shown : Text} :
    Judged (judgeContent shown content) ↔ ¬ Hidden content := by
  unfold judgeContent Hidden
  cases contentEntries? content with
  | none => exact iff_of_true (judged_error _) nofun
  | some entries => simp [judgeEntries_judged_iff]

theorem valid_of_judgeContent {content : Option Value} {shown : Text} (judged : judgeContent shown content = .ok settings) :
    Valid content := by
  unfold judgeContent at judged
  cases found : contentEntries? content with
  | none =>
    rw [found] at judged
    cases judged
  | some entries =>
    rw [found] at judged
    obtain ⟨-, width, order, color, stated, -⟩ := judgeEntries_ok_iff.mp judged
    exact ⟨entries, width, order, color, found, stated⟩

end Settings

namespace Command
open Options Session Proofs.FailingRuns
variable {tree : FileTree} {directory : Location} {invocation : Invocation}

/-- What the settings of a command come to. -/
def settled (tree : FileTree) (directory : Location) (invocation : Invocation) : Except Failure Settings :=
  ((settings invocation).run ⟨tree, directory, []⟩).1

/-- Whether the command line turns colors off. -/
def isPlain : Task → Bool
  | .validate _ _ _ noColor => noColor
  | _ => false

theorem settings_eq (invocation : Invocation) :
    settings invocation = (Settings.load invocation.settings >>= fun loaded =>
      lift (loaded.override ⟨overriding (invocation.width.map fun width => .int width.bits),
        overriding (invocation.order.map fun order => .str (.ofString order.name)),
        (if isPlain invocation.task then some false else none).map .bool⟩) .ofSettings) := by
  obtain ⟨path, width, order, explicit, verbose, task⟩ := invocation
  cases task with
  | validate json report failOnMismatch noColor => cases noColor <;> rfl
  | rehash output => rfl
  | transplant donor rehash output => rfl

theorem settings_result (invocation : Invocation) (session : Session) :
    ((settings invocation).run session).1 = ((Settings.load invocation.settings).run session).1 >>= fun loaded =>
      (loaded.override ⟨overriding (invocation.width.map fun width => .int width.bits),
        overriding (invocation.order.map fun order => .str (.ofString order.name)),
        (if isPlain invocation.task then some false else none).map .bool⟩).mapError .ofSettings := by
  rw [settings_eq, run_bind]
  rcases (Settings.load invocation.settings).run session with ⟨result, after⟩
  cases result with
  | error failure => rfl
  | ok loaded =>
    dsimp only
    rw [run_lift]
    rfl

theorem settled_ok_iff {content : Option Value} (provided : Settings.Provides tree directory invocation.settings content)
    {settings : Settings} :
    settled tree directory invocation = .ok settings ↔ ∃ entries width order color,
      Settings.contentEntries? content = some entries ∧ Settings.Says entries width order color ∧ ¬ Settings.Hides entries ∧
        invocation.width ≠ .empty ∧ invocation.order ≠ .empty ∧
        settings.Sound (invocation.width.value?.getD (width.getD .w64)) (invocation.order.value?.getD (order.getD .little))
          (!isPlain invocation.task && color.getD true) := by
  have shade (color : Bool) : (if isPlain invocation.task then some false else none).getD color =
      (!isPlain invocation.task && color) := by cases isPlain invocation.task <;> rfl
  obtain ⟨shown, loaded⟩ := Settings.load_result_of_provides provided []
  simp only [settled, settings_result, loaded, bind_ok_iff, mapError_ok_iff, Settings.judgeContent]
  cases Settings.contentEntries? content with
  | none => simp
  | some entries =>
    simp only [Settings.judgeEntries_ok_iff, Option.some.injEq]
    constructor
    · rintro ⟨made, ⟨shown, width, order, color, stated, sound⟩, overridden⟩
      obtain ⟨hasWidth, hasOrder, sound⟩ := (Settings.override_ok_iff sound _ _ _).mp overridden
      rw [shade] at sound
      exact ⟨entries, width, order, color, rfl, stated, Settings.not_hides shown stated, hasWidth, hasOrder, sound⟩
    · rintro ⟨_, width, order, color, rfl, stated, showable, hasWidth, hasOrder, sound⟩
      have usual := Settings.usual_sound width order color
      rw [← shade] at sound
      exact ⟨_, ⟨Settings.shown_of_not_hides showable, width, order, color, stated, usual⟩,
        (Settings.override_ok_iff usual _ _ _).mpr ⟨hasWidth, hasOrder, sound⟩⟩

/-- The settings that a command comes to make a layout. -/
theorem sound_of_settled {settings : Settings} (ended : settled tree directory invocation = .ok settings) :
    ∃ width order color, settings.Sound width order color := by
  have loads := ended
  rw [settled, settings_result, bind_ok_iff] at loads
  obtain ⟨loaded, ran, -⟩ := loads
  obtain ⟨content, provided⟩ := Settings.provides_of_load ran
  obtain ⟨entries, width, order, color, -, -, -, -, -, sound⟩ := (settled_ok_iff provided).mp ended
  exact ⟨_, _, _, sound⟩

/-- The settings of a command, whatever the settings file holds. If there are any, they are a width, an order and a truth
value, each from the command line, else from the file, else the usual one, and so they make a layout. They are there
just if the whole file is valid and no option was left empty; and an invalid file is a fault of the settings, whatever
the command line says, unless what is to be told of it cannot be shown. -/
theorem settings_resolved {content : Option Value}
    (provided : Settings.Provides tree directory invocation.settings content) :
    let result := settled tree directory invocation
    (∀ settings, result = .ok settings → ∃ entries width order color, Settings.contentEntries? content = some entries ∧
        Settings.Says entries width order color ∧
        settings.Sound (invocation.width.value?.getD (width.getD .w64)) (invocation.order.value?.getD (order.getD .little))
          (!isPlain invocation.task && color.getD true) ∧
        ∃ layout, settings.layout = .ok layout) ∧
      ((∃ settings, result = .ok settings) ↔ Settings.Valid content ∧ ¬ Settings.Hidden content ∧
        invocation.width ≠ .empty ∧ invocation.order ≠ .empty) ∧
      (¬ Settings.Valid content → ((∃ error, result = .error (.settings error)) ↔ ¬ Settings.Hidden content)) := by
  intro result
  refine ⟨?_, ?_, ?_⟩
  · intro settings ended
    obtain ⟨entries, width, order, color, found, stated, -, -, -, sound⟩ := (settled_ok_iff provided).mp ended
    exact ⟨entries, width, order, color, found, stated, sound, _, sound.layout⟩
  · constructor
    · rintro ⟨settings, ended⟩
      obtain ⟨entries, width, order, color, found, stated, showable, hasWidth, hasOrder, -⟩ :=
        (settled_ok_iff provided).mp ended
      refine ⟨⟨entries, width, order, color, found, stated⟩, ?_, hasWidth, hasOrder⟩
      rintro ⟨_, same, hides⟩
      cases found.symm.trans same
      exact showable hides
    · rintro ⟨⟨entries, width, order, color, found, stated⟩, showable, hasWidth, hasOrder⟩
      exact ⟨⟨_, _, _⟩, (settled_ok_iff provided).mpr ⟨entries, width, order, color, found, stated,
        fun hides => showable ⟨entries, found, hides⟩, hasWidth, hasOrder, rfl, rfl, rfl⟩⟩
  · intro invalid
    obtain ⟨shown, loaded⟩ := Settings.load_result_of_provides provided []
    have answered : Settings.Judged (Settings.judgeContent shown content) ↔ ¬ Settings.Hidden content :=
      Settings.judgeContent_judged_iff
    rw [← answered]
    cases judged : Settings.judgeContent shown content with
    | ok made => exact absurd (Settings.valid_of_judgeContent judged) invalid
    | error failure =>
      have failed : result = .error failure := by
        simp only [result, settled, settings_result, loaded, judged]
        rfl
      rw [failed]
      constructor
      · rintro ⟨error, same⟩
        cases same
        exact Settings.judged_error error
      · intro judged
        obtain ⟨error, rfl⟩ := judged failure rfl
        exact ⟨error, rfl⟩

def settingsTree (chars : List Char) : FileTree :=
  FileTree.empty.insert ["codecache.yaml"] (.file 0o644 (chars.flatMap String.utf8EncodeChar))

theorem provides_settingsTree {chars : List Char} {value : Value} (parsed : Yaml.load chars = .ok value) :
    Settings.Provides (settingsTree chars) [] .absent (some value) :=
  .document rfl rfl (Yaml.decode?_utf8 chars) parsed

/-- The document says one thing only, and this passes the test. -/
def saysOnly (key : String) (test : Value → Bool) : Except Yaml.Error Value → Bool
  | .ok value =>
    match Settings.entries? value with
    | some [(.str name, item)] => name = Text.ofString key && test item
    | _ => false
  | .error _ => false

theorem ok_of_saysOnly {key : String} {test : Value → Bool} {loaded : Except Yaml.Error Value}
    (only : saysOnly key test loaded = true) : ∃ value item, loaded = .ok value ∧
      Settings.entries? value = some [(.str (.ofString key), item)] ∧ test item = true := by
  unfold saysOnly at only
  split at only
  next value =>
    split at only
    next name item entries =>
      simp only [Bool.and_eq_true, decide_eq_true_eq] at only
      obtain ⟨rfl, passes⟩ := only
      exact ⟨value, item, rfl, entries, passes⟩
    next => cases only
  next => cases only

/-- A file that says an order in its own way. -/
def spelled : List Char :=
  "byte_order: ' Big '".toList

theorem settings_resolved_spelled :
    ∃ invocation content, Request.ofArguments ["rehash", "a.jsc", "-w", "32"] = .run invocation ∧
      Settings.Provides (settingsTree spelled) [] invocation.settings content ∧
      ∃ settings, settled (settingsTree spelled) [] invocation = .ok settings ∧ settings.Sound .w32 .big true := by
  obtain ⟨invocation, asked⟩ : ∃ invocation, Request.ofArguments ["rehash", "a.jsc", "-w", "32"] = .run invocation :=
    ⟨_, rfl⟩
  have only : saysOnly "byte_order" (fun item => match item with | .str name => name = " Big " | _ => false)
      (Yaml.load spelled) = true := by decide +kernel
  obtain ⟨value, item, parsed, entries, same⟩ := ok_of_saysOnly only
  obtain rfl : item = .str " Big " := by
    cases item with
    | str name => exact congrArg Value.str (of_decide_eq_true same)
    | _ => cases same
  have held : Settings.contentEntries? (some value) = some [(.str "byte_order", .str " Big ")] := entries
  have plain : Text.lower (Text.strip " Big ") = .ofString ByteOrder.big.name := by decide
  have stated : Settings.Says [(.str "byte_order", .str " Big ")] none (some .big) none :=
    ⟨by decide, .none, .some ⟨" Big ", rfl, plain⟩, .none⟩
  have showable : ¬ Settings.Hidden (some value) := by
    rintro ⟨_, found, hides⟩
    cases held.symm.trans found
    refine Settings.not_hides ?_ stated hides
    rw [List.forall_mem_singleton]
    rfl
  have provided : Settings.Provides (settingsTree spelled) [] invocation.settings (some value) := by
    cases asked
    exact provides_settingsTree parsed
  obtain ⟨sound, exist, -⟩ := settings_resolved provided
  have valued : invocation.width ≠ .empty ∧ invocation.order ≠ .empty := by
    cases asked
    exact ⟨nofun, nofun⟩
  obtain ⟨settings, ended⟩ := exist.mpr ⟨⟨_, _, _, _, held, stated⟩, showable, valued⟩
  refine ⟨invocation, some value, asked, provided, settings, ended, ?_⟩
  obtain ⟨_, width, order, color, found, also, made, -⟩ := sound settings ended
  cases held.symm.trans found
  obtain ⟨rfl, rfl, rfl⟩ := also.unique stated
  cases asked
  exact made

/-- A file that says no width but a number of more digits than are ever shown. -/
def overgrown : List Char :=
  "pointer_width: 0x".toList ++ List.replicate 3600 'f'

def isHuge : Value → Bool
  | .int bits => Value.hugeMagnitude ≤ bits.natAbs
  | _ => false

theorem not_isWidth_of_isHuge {item : Value} {width : PointerWidth} (huge : isHuge item = true) :
    ¬ Settings.IsWidth item width := by
  rintro rfl
  have least : Value.hugeMagnitude ≤ width.bits := by simpa [isHuge] using huge
  have small : width.bits < Value.hugeMagnitude := by cases width <;> decide +kernel
  omega

theorem checkWithin_int (depth : Nat) (bits : Int) : (Value.int bits).checkWithin depth =
    if bits.natAbs < Value.hugeMagnitude then .ok () else .error .hugeNumber := by
  cases depth <;> rfl

theorem checkShowable_of_isHuge {value : Value} (huge : isHuge value = true) : value.checkShowable = .error .hugeNumber := by
  cases value with
  | int bits =>
    have least : Value.hugeMagnitude ≤ bits.natAbs := by simpa [isHuge] using huge
    rw [Value.checkShowable, checkWithin_int, if_neg (Nat.not_lt_of_le least)]
  | _ => cases huge

/-- A width that is too large to be shown is refused for that, and not for being no width. -/
theorem judgeEntries_of_isHuge {item : Value} (huge : isHuge item = true) :
    Settings.judgeEntries [(.str "pointer_width", item)] = .error .hugeNumber := by
  have known : Settings.checkKeys [(.str "pointer_width", item)] = .ok () := by
    rw [Settings.checkKeys_ok_iff, List.forall_mem_singleton]
    rfl
  have shown : ∀ entry ∈ [(Value.str "pointer_width", item)], entry.1.checkShowable = .ok () := by
    rw [List.forall_mem_singleton]
    rfl
  cases item with
  | int bits =>
    have other : PointerWidth.ofBits? bits = none := by
      cases found : PointerWidth.ofBits? bits with
      | none => rfl
      | some width =>
        have isWidth := congrArg Value.int (PointerWidth.ofBits?_eq_some_iff.mp found)
        exact absurd isWidth (not_isWidth_of_isHuge huge)
    have refused : Settings.checkWidth (.int bits) = .error (.badWidth (.int bits)) := by
      simp [Settings.checkWidth, other]
    have valued : Settings.ofValues [(.str "pointer_width", .int bits)] = .error (.badWidth (.int bits)) := by
      change Settings.checkWidth (.int bits) >>= _ = _
      rw [refused]
      rfl
    rw [Settings.judgeEntries_of_shown shown, known, valued]
    change Except.error (Failure.ofSettings _) = _
    rw [Failure.ofSettings, Settings.Error.checkShowable, checkShowable_of_isHuge huge]
    rfl
  | _ => cases huge

set_option maxRecDepth 1000000 in
theorem saysOnly_overgrown : saysOnly "pointer_width" isHuge (Yaml.load overgrown) = true := by decide +kernel

/-- A width that cannot be shown is no fault of the settings, though another takes its place, and no command has an
answer to it. -/
theorem settings_overgrown_unanswered :
    ∃ invocation content, Request.ofArguments ["validate", "a.jsc", "-w", "64"] = .run invocation ∧
      Settings.Provides (settingsTree overgrown) [] invocation.settings content ∧ ¬ Settings.Valid content ∧
      (¬ ∃ error, settled (settingsTree overgrown) [] invocation = .error (.settings error)) ∧
      (run ["validate", "a.jsc", "-w", "64"] false (settingsTree overgrown) []).ending = .escaped .hugeNumber := by
  obtain ⟨invocation, asked⟩ : ∃ invocation, Request.ofArguments ["validate", "a.jsc", "-w", "64"] = .run invocation :=
    ⟨_, rfl⟩
  obtain ⟨value, item, parsed, entries, huge⟩ := ok_of_saysOnly saysOnly_overgrown
  have unasked : invocation.settings = .absent := by
    cases asked
    rfl
  have provided : Settings.Provides (settingsTree overgrown) [] invocation.settings (some value) := by
    rw [unasked]
    exact provides_settingsTree parsed
  have held : Settings.contentEntries? (some value) = some [(.str "pointer_width", item)] := entries
  obtain ⟨shown, loaded⟩ := Settings.load_result_of_provides provided []
  rw [Settings.judgeContent, held] at loaded
  dsimp only at loaded
  rw [judgeEntries_of_isHuge huge] at loaded
  refine ⟨invocation, some value, asked, provided, ?_, ?_, ?_⟩
  · rintro ⟨_, width, _, _, same, stated⟩
    cases held.symm.trans same
    have told : Option.Rel Settings.IsWidth (some item) width := stated.width
    cases told with
    | some isWidth => exact not_isWidth_of_isHuge huge isWidth
  · rintro ⟨error, failed⟩
    rw [settled, settings_result, loaded] at failed
    cases failed
  · rw [run_eq asked]
    exact ending_of_unloaded false loaded

end Command

end CacheSeal
