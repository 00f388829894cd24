import CacheSeal.Proofs.QuotedTexts
import CacheSeal.Proofs.SettingsFaults
import CacheSeal.Proofs.SharedBlocks
import CacheSeal.Proofs.WholeNumbers

/-! A setting's name with one slip of the pen in it is always taken for that setting. What stands before the slip and
behind it is still matched, which is more than any other name can match, whatever the letter that slipped in. -/

namespace CacheSeal.Settings
open Similarity Proofs.FailingRuns
variable {key : String} {front old new back word typo : Text}

/-- One slip puts the one text in the place of the other: a letter more, a letter less, another letter, or two letters the
wrong way round. -/
inductive Slip : Text → Text → Prop where
  | insert (letter : CodePoint) : Slip [] [letter]
  | delete (letter : CodePoint) : Slip [letter] []
  | replace {letter other : CodePoint} (differ : letter ≠ other) : Slip [letter] [other]
  | exchange {letter other : CodePoint} (differ : letter ≠ other) : Slip [letter, other] [other, letter]

/-- The text is the word but for one slip. -/
inductive Misspells : Text → Text → Prop where
  | slip (front back : Text) {old new : Text} (slip : Slip old new) :
    Misspells (front ++ (old ++ back)) (front ++ (new ++ back))

/-- How many letters a slip takes away, how many it puts in, and how many of these it does not take from the word. -/
def weights : List (Nat × Nat × Nat) :=
  [(0, 1, 1), (1, 0, 0), (1, 1, 1), (2, 2, 0)]

namespace Slip

theorem weighed (slip : Slip old new) : ∃ stray, (old.length, new.length, stray) ∈ weights ∧
    ∀ test : CodePoint → Bool, new.countP test ≤ old.countP test + stray := by
  have single (letter : CodePoint) (test : CodePoint → Bool) : [letter].countP test ≤ 1 := List.countP_le_length
  cases slip with
  | insert letter => exact ⟨1, by simp [weights], fun test => Nat.le_add_left_of_le (single letter test)⟩
  | delete letter => exact ⟨0, by simp [weights], fun test => Nat.zero_le _⟩
  | replace differ => exact ⟨1, by simp [weights], fun test => Nat.le_add_left_of_le (single _ test)⟩
  | exchange differ => exact ⟨0, by simp [weights], fun test => Nat.le_of_eq ((List.Perm.swap _ _ []).countP_eq test)⟩

theorem ne (slip : Slip old new) : old ≠ new := by
  cases slip with
  | insert | delete => simp
  | replace differ => simpa using differ
  | exchange differ => simpa using fun same => absurd same differ

end Slip

section Rivals

/-- Of candidates that are all worse than one of them, this one is chosen. -/
theorem foldl_better {own : Candidate} {candidates : List Candidate} {best : Option Candidate}
    (leads : ∀ other ∈ candidates, other = own ∨ own.ratio.le other.ratio = false)
    (reached : best = some own ∨ own ∈ candidates ∧ ∀ other ∈ best, own.ratio.le other.ratio = false) :
    candidates.foldl better best = some own := by
  induction candidates generalizing best with
  | nil =>
    obtain found | ⟨member, -⟩ := reached
    · exact found
    · cases member
  | cons first rest ih =>
    obtain ⟨leadsFirst, leadsRest⟩ := List.forall_mem_cons.mp leads
    apply ih leadsRest
    obtain rfl | ⟨member, worse⟩ := reached
    · left
      obtain rfl | worse := leadsFirst
      · exact ite_self _
      · exact if_neg (by simp [worse])
    · obtain rfl | worseFirst := leadsFirst
      · left
        cases best with
        | none => rfl
        | some other =>
          have worse := worse other rfl
          simp only [Ratio.le, decide_eq_false_iff_not] at worse
          exact if_pos (by simp only [Ratio.le, decide_eq_true_eq]; omega)
      · have later : own ∈ rest := by
          obtain same | later := List.mem_cons.mp member
          · subst same
            simp [Ratio.le] at worseFirst
          · exact later
        refine .inr ⟨later, ?_⟩
        cases best with
        | none => simpa [better] using worseFirst
        | some other =>
          unfold better
          dsimp only
          split
          · simpa using worseFirst
          · exact worse

theorem suggestion?_eq_of_leads (among : key ∈ keys) (close : (ratio (Text.ofString key) typo).isClose = true)
    (leads : ∀ other ∈ keys, other ≠ key → (ratio (Text.ofString key) typo).le (ratio (Text.ofString other) typo) = false) :
    suggestion? typo = some key := by
  unfold suggestion?
  rw [Option.map_eq_some_iff]
  refine ⟨⟨key, ratio (Text.ofString key) typo⟩, foldl_better ?_ (.inr ⟨?_, nofun⟩), rfl⟩
  · intro other member
    obtain ⟨name, isKey, rfl⟩ := List.mem_map.mp (List.mem_of_mem_filter member)
    by_cases same : name = key
    · exact .inl (by rw [same])
    · exact .inr (leads name isKey same)
  · exact List.mem_filter.mpr ⟨List.mem_map.mpr ⟨key, among, rfl⟩, close⟩

/-- Where all letters but those of the slip are matched, the name is close, and closer than another could be if all the
letters that it shares were matched. -/
theorem keys_apart : ∀ key ∈ keys, ∀ weight ∈ weights,
    let length := (Text.ofString key).length
    3 * (length + (length - weight.1 + weight.2.1)) ≤ 10 * (length - weight.1) ∧ weight.1 ≤ length ∧
      ∀ other ∈ keys, other ≠ key →
        ((Text.ofString key).countP (Text.ofString other).contains + weight.2.2) *
            (length + (length - weight.1 + weight.2.1)) <
          (length - weight.1) * ((Text.ofString other).length + (length - weight.1 + weight.2.1)) := by
  decide

end Rivals

section Spared

theorem keys_sharp : ∀ key ∈ keys, Sharp (Text.ofString key) := by decide

/-- The word with letters put in at a place and others taken out behind it. -/
def altered (word new : Text) (place removed : Nat) : Text :=
  word.take place ++ (new ++ word.drop (place + removed))

theorem altered_eq (split : word = front ++ (old ++ back)) :
    front ++ (new ++ back) = altered word new front.length old.length := by
  simp [split, altered]

theorem taken_eq (split : word = front ++ (old ++ back)) : (word.drop front.length).take old.length = old := by
  simp [split]

theorem exchanged_eq {letter other : CodePoint} (split : word = front ++ ([letter, other] ++ back)) :
    front ++ ([other, letter] ++ back) = altered word ((word.drop front.length).take 2).reverse front.length 2 := by
  rw [altered_eq split]
  exact congrArg (altered word · front.length 2) (congrArg List.reverse (taken_eq split).symm)

/-- In a short name the first block may lie askew after a slip. -/
theorem color_spared : let word := Text.ofString "color"
    (∀ removed < 2, ∀ place < 6 - removed, word.all fun letter =>
        decide (5 - removed ≤ matched word (altered word [letter] place removed))) ∧
      4 ≤ matched word (altered word [] 2 1) ∧
      ∀ place < 4, 3 ≤ matched word (altered word ((word.drop place).take 2).reverse place 2) := by
  decide +kernel

/-- A letter from elsewhere is in no block; one of the word's own may be. -/
theorem color_spared_single {letter : CodePoint} (split : Text.ofString "color" = front ++ (old ++ back))
    (few : old.length < 2) :
    front.length + back.length ≤ matched (Text.ofString "color") (front ++ ([letter] ++ back)) := by
  have length := congrArg List.length split
  rw [List.length_append, List.length_append, show (Text.ofString "color").length = 5 by decide] at length
  by_cases own : letter ∈ Text.ofString "color"
  · have placed := color_spared.1 old.length few front.length (by omega)
    rw [altered_eq split, show front.length + back.length = 5 - old.length by omega]
    exact of_decide_eq_true (List.all_eq_true.mp placed letter own)
  · have sharp := keys_sharp "color" (by decide)
    rw [split] at own sharp ⊢
    exact sides_spared_of_fresh sharp own (by omega)

theorem byteOrder_spared : let word := Text.ofString "byte_order"
    8 ≤ matched word (altered word ((word.drop 4).take 2).reverse 4 2) := by
  decide +kernel

/-- What stands before a slip and behind it is matched. -/
theorem spared (among : key ∈ keys) (slip : Slip old new) (split : Text.ofString key = front ++ (old ++ back)) :
    front.length + back.length ≤ matched (Text.ofString key) (front ++ (new ++ back)) := by
  by_cases long : new.length + 2 < front.length ∨ new.length + 2 < back.length
  · have sharp := keys_sharp key among
    rw [split] at sharp ⊢
    exact sides_spared_of_long sharp long
  · have length := congrArg List.length split
    rw [List.length_append, List.length_append] at length
    simp only [keys, List.mem_cons, List.not_mem_nil, or_false] at among
    obtain rfl | rfl | rfl := among
    · rw [show (Text.ofString "byte_order").length = 10 by decide] at length
      cases slip with
      | insert | delete | replace => simp at length long; omega
      | exchange =>
        obtain ⟨before, behind⟩ : front.length = 4 ∧ back.length = 4 := by simp at length long; omega
        rw [exchanged_eq split, before, behind]
        exact byteOrder_spared
    · rw [show (Text.ofString "color").length = 5 by decide] at length
      obtain ⟨-, deletion, exchange⟩ := color_spared
      cases slip with
      | insert | replace => exact color_spared_single split (by simp)
      | delete =>
        obtain ⟨before, behind⟩ : front.length = 2 ∧ back.length = 2 := by simp at length long; omega
        rw [altered_eq split, before, behind]
        exact deletion
      | exchange =>
        have total : front.length + back.length = 3 := by simp at length; omega
        rw [exchanged_eq split, total]
        exact exchange front.length (by omega)
    · rw [show (Text.ofString "pointer_width").length = 13 by decide] at length
      cases slip <;> simp at length long <;> omega

end Spared

section Suggested

/-- No slip makes the length of one setting's name that of another's. -/
theorem keys_told : ∀ key ∈ keys, ∀ other ∈ keys, ∀ weight ∈ weights,
    (Text.ofString other).length + weight.1 = (Text.ofString key).length + weight.2.1 → other = key := by
  decide

theorem not_isKey_of_slip (among : key ∈ keys) (slip : Slip old new)
    (split : Text.ofString key = front ++ (old ++ back)) : isKey (front ++ (new ++ back)) = false := by
  rw [isKey, List.any_eq_false]
  intro other isKey same
  rw [decide_eq_true_eq] at same
  obtain ⟨stray, weighed, -⟩ := slip.weighed
  have lengths := keys_told key among other isKey _ weighed
  have length := congrArg List.length split
  have otherLength := congrArg List.length same
  simp only [List.length_append] at length otherLength
  obtain rfl : other = key := lengths (by dsimp only; omega)
  rw [split, List.append_cancel_left_eq, List.append_cancel_right_eq] at same
  exact slip.ne same

/-- A setting's name with a slip in it is taken for the name of that setting. -/
theorem suggestion?_of_slip (among : key ∈ keys) (slip : Slip old new)
    (split : Text.ofString key = front ++ (old ++ back)) : suggestion? (front ++ (new ++ back)) = some key := by
  have kept := spared among slip split
  obtain ⟨stray, weighed, counted⟩ := slip.weighed
  obtain ⟨close, fits, apart⟩ := keys_apart key among _ weighed
  have length := congrArg List.length split
  simp only [List.length_append] at length
  dsimp only at close fits apart
  have typoLength : (front ++ (new ++ back)).length = (Text.ofString key).length - old.length + new.length := by
    simp only [List.length_append]
    omega
  have shared (other : String) : matched (Text.ofString other) (front ++ (new ++ back)) ≤
      (Text.ofString key).countP (Text.ofString other).contains + stray := by
    have added := counted (Text.ofString other).contains
    refine Nat.le_trans (matched_le_countP _ _) ?_
    simp only [split, List.countP_append]
    omega
  generalize front ++ (new ++ back) = typo at *
  apply suggestion?_eq_of_leads among
  · simp only [Ratio.isClose, ratio, decide_eq_true_eq, typoLength]
    omega
  · intro other isKey differ
    have less : matched (Text.ofString other) typo * ((Text.ofString key).length + typo.length) <
        matched (Text.ofString key) typo * ((Text.ofString other).length + typo.length) := by
      calc
        _ ≤ ((Text.ofString key).countP (Text.ofString other).contains + stray) *
            ((Text.ofString key).length + typo.length) := Nat.mul_le_mul_right _ (shared other)
        _ < ((Text.ofString key).length - old.length) * ((Text.ofString other).length + typo.length) := by
          rw [typoLength]
          exact apart other isKey differ
        _ ≤ _ := Nat.mul_le_mul_right _ (by omega)
    simp only [Ratio.le, ratio, decide_eq_false_iff_not, Nat.mul_assoc]
    omega

/-- The keys are those of settings, but for one that is this text. -/
structure SoleUnknown (entries : Entries) (typo : Text) : Prop where
  present : ∃ given, (.str typo, given) ∈ entries
  others : ∀ entry ∈ entries, entry.1 = .str typo ∨ isKey entry.1.name = true

/-- The name of a setting is no number's, so the keys that are known can be shown. -/
theorem shown_of_known {name : Value} (scalar : name.isKey = true) (known : isKey name.name = true) :
    name.checkShowable = .ok () := by
  cases name with
  | int value =>
    obtain ⟨key, among, same⟩ := List.any_eq_true.mp known
    have written : key = toString value := Text.ofString_inj.mp (of_decide_eq_true same)
    have unread : ∀ key ∈ keys, Numeral.whole? 10 key.toList = none := by decide
    cases (unread key among).symm.trans (written ▸ Numeral.whole?_toString value)
  | list | map | set | pair | listAgain | mapAgain => cases scalar
  | _ => rfl

theorem judgeEntries_of_soleUnknown {entries : Entries} (areKeys : Value.AreKeys (entries.map (·.1)))
    (unknown : isKey typo = false) (sole : SoleUnknown entries typo) :
    judgeEntries entries = .error (.settings (.unknownKey typo (suggestion? typo))) := by
  have shown : ∀ entry ∈ entries, entry.1.checkShowable = .ok () := by
    intro entry member
    obtain same | known := sole.others entry member
    · rw [same]
      rfl
    · exact shown_of_known (areKeys.scalar _ (List.mem_map_of_mem member)) known
  have first : unknownName? entries = some typo := by
    obtain ⟨given, present⟩ := sole.present
    refine unknownName?_eq_some_iff.mpr ⟨⟨_, present, rfl, unknown⟩, ?_⟩
    rintro other ⟨entry, member, rfl, otherUnknown⟩
    obtain same | known := sole.others entry member
    · rw [same]
      exact Text.le_iff_not_before.mp (Text.le_refl typo)
    · rw [known] at otherUnknown
      cases otherUnknown
  rw [judgeEntries_of_shown shown, checkKeys_error_iff.mpr ⟨typo, first, rfl⟩]
  rfl

theorem unknownKey_message (among : key ∈ keys) (typo : Text) : (Error.unknownKey typo (some key)).message =
    Text.ofString s!"Unknown config key {typo.quoted} (did you mean '{key}'?)" := by
  have plain : ∀ key ∈ keys, key.toList.all Text.isPlain = true := by decide
  have hint : Error.hint (some key) = s!" (did you mean '{key}'?)" := by
    change s!" (did you mean {CacheSeal.quoted key}?)" = _
    rw [quoted_of_plain (plain key among)]
    simp only [toString, String.append_assoc]
    rfl
  change Text.ofString s!"Unknown config key {typo.quoted}{Error.hint (some key)}" = _
  rw [hint]
  simp only [toString, String.append_assoc]

/-- A setting's name with one slip in it is taken for that setting, and a settings file with no other unknown key is
refused with a hint at it. -/
theorem misspelt_key_recognised (among : key ∈ keys) (misspells : Misspells (.ofString key) typo) :
    suggestion? typo = some key ∧ ∀ (tree : FileTree) (directory : Location) (explicit : Argument Path) (entries : Entries),
      Holds tree directory explicit entries → SoleUnknown entries typo →
        loadResult tree directory explicit = .error (.settings (.unknownKey typo (some key))) ∧
          (Error.unknownKey typo (some key)).message =
            Text.ofString s!"Unknown config key {typo.quoted} (did you mean '{key}'?)" := by
  generalize named : Text.ofString key = word at misspells
  cases misspells with
  | slip front back slip =>
    have suggested := suggestion?_of_slip among slip named
    refine ⟨suggested, ?_⟩
    intro tree directory explicit entries holds sole
    refine ⟨?_, ?_⟩
    · rw [loadResult_of_holds holds, ← suggested]
      exact judgeEntries_of_soleUnknown (areKeys_of_holds holds) (not_isKey_of_slip among slip named) sole
    · exact unknownKey_message among _

def exchangedLetters : List Char :=
  "color: ~\npointer_widht: ~".toList

theorem misspelt_key_recognised_exchanged : "pointer_width" ∈ keys ∧ Misspells "pointer_width" "pointer_widht" ∧
    Holds (Command.settingsTree exchangedLetters) [] .absent (unset ["color", "pointer_widht"]) ∧
    SoleUnknown (unset ["color", "pointer_widht"]) "pointer_widht" ∧
    suggestion? "pointer_widht" = some "pointer_width" ∧
    loadResult (Command.settingsTree exchangedLetters) [] .absent =
      .error (.settings (.unknownKey "pointer_widht" (some "pointer_width"))) ∧
    (Error.unknownKey "pointer_widht" (some "pointer_width")).message =
      "Unknown config key 'pointer_widht' (did you mean 'pointer_width'?)" := by
  have among : "pointer_width" ∈ keys := by decide
  have misspells : Misspells "pointer_width" "pointer_widht" :=
    .slip (Text.ofString "pointer_wid") [] (.exchange (show CodePoint.ofChar 't' ≠ CodePoint.ofChar 'h' by decide))
  have sole : SoleUnknown (unset ["color", "pointer_widht"]) "pointer_widht" := by
    refine ⟨⟨_, .tail _ (.head _)⟩, ?_⟩
    simp only [unset, List.map_cons, List.map_nil, List.forall_mem_cons]
    exact ⟨.inr (by decide), .inl trivial, nofun⟩
  have parsed : hasEntries (isUnset ["color", "pointer_widht"]) (Yaml.load exchangedLetters) = true := by decide +kernel
  obtain ⟨entries, areUnset, holds⟩ := holds_of_hasEntries parsed
  obtain rfl := eq_of_isUnset areUnset
  obtain ⟨suggested, loaded⟩ := misspelt_key_recognised among misspells
  obtain ⟨failed, told⟩ := loaded _ _ _ _ holds sole
  have shown : Text.quoted "pointer_widht" = "'pointer_widht'" := quoted_of_plain (by decide)
  refine ⟨among, misspells, holds, sole, suggested, failed, told.trans ?_⟩
  rw [shown]
  rfl

end Suggested

end CacheSeal.Settings
