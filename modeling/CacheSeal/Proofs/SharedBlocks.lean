import CacheSeal.Text.Similarity
import Mathlib.Data.List.Nodup

/-! What matching by longest blocks is sure to find. No block that two sequences share is longer than the one matched
first, so what they have in common at their ends is lost only to a first block that lies askew. What is matched at all is
in both. -/

namespace CacheSeal.Similarity
variable {α : Type} {left right : List α} {block : Block}

/-- The block is a run of the same elements in either sequence. -/
structure Block.Joins (block : Block) (left right : List α) : Prop where
  left_le : block.left + block.length ≤ left.length
  right_le : block.right + block.length ≤ right.length
  same : ∀ place < block.length, left[block.left + place]? = right[block.right + place]?

theorem lt_length_of_drop {start : Nat} {next : α} {rest : List α} (behind : left.drop start = next :: rest) :
    start < left.length := by
  apply Nat.lt_of_not_le
  intro beyond
  cases (List.drop_eq_nil_of_le beyond).symm.trans behind

theorem Block.Joins.narrow (joins : block.Joins left right) (skipped length : Nat) (fits : skipped + length ≤ block.length) :
    Block.Joins ⟨block.left + skipped, block.right + skipped, length⟩ left right := by
  obtain ⟨leftFits, rightFits, same⟩ := joins
  refine ⟨?_, ?_, ?_⟩
  · show block.left + skipped + length ≤ left.length
    omega
  · show block.right + skipped + length ≤ right.length
    omega
  · intro place (inside : place < length)
    simpa only [Nat.add_assoc] using same (skipped + place) (by omega)

theorem Block.Joins.take {leftEnd rightEnd : Nat} (joins : block.Joins left right)
    (leftFits : block.left + block.length ≤ leftEnd) (rightFits : block.right + block.length ≤ rightEnd) :
    block.Joins (left.take leftEnd) (right.take rightEnd) := by
  obtain ⟨leftInside, rightInside, same⟩ := joins
  refine ⟨?_, ?_, ?_⟩
  · rw [List.length_take]
    omega
  · rw [List.length_take]
    omega
  · intro place inside
    rw [List.getElem?_take_of_lt (by omega), List.getElem?_take_of_lt (by omega)]
    exact same place inside

theorem joins_drop {leftStart rightStart : Nat} (start other length : Nat) (leftFits : leftStart ≤ left.length)
    (rightFits : rightStart ≤ right.length) :
    Block.Joins ⟨start, other, length⟩ (left.drop leftStart) (right.drop rightStart) ↔
      Block.Joins ⟨leftStart + start, rightStart + other, length⟩ left right := by
  constructor
  · rintro ⟨leftEnd, rightEnd, same⟩
    simp only [List.length_drop, List.getElem?_drop, ← Nat.add_assoc] at leftEnd rightEnd same
    exact ⟨by simp only; omega, by simp only; omega, same⟩
  · rintro ⟨leftEnd, rightEnd, same⟩
    simp only at leftEnd rightEnd same
    refine ⟨?_, ?_, ?_⟩
    · simp only [List.length_drop]
      omega
    · simp only [List.length_drop]
      omega
    · simpa only [List.getElem?_drop, ← Nat.add_assoc] using same

/-- The elements that the block joins. -/
theorem Block.Joins.window (joins : block.Joins left right) :
    (left.drop block.left).take block.length = (right.drop block.right).take block.length := by
  apply List.ext_getElem?
  intro place
  rcases Nat.lt_or_ge place block.length with inside | beyond
  · rw [List.getElem?_take_of_lt inside, List.getElem?_take_of_lt inside, List.getElem?_drop, List.getElem?_drop]
    exact joins.same place inside
  · rw [List.getElem?_take_eq_none beyond, List.getElem?_take_eq_none beyond]

/-- No two elements stand side by side twice. -/
def Sharp (word : List α) : Prop := (word.zip word.tail).Nodup

instance [DecidableEq α] (word : List α) : Decidable (Sharp word) := inferInstanceAs (Decidable (List.Nodup _))

theorem Sharp.place_unique {word : List α} {place other : Nat} (sharp : Sharp word) (inside : place + 1 < word.length)
    (otherInside : other + 1 < word.length) (same : word[place]? = word[other]?)
    (next : word[place + 1]? = word[other + 1]?) : place = other := by
  have here : place < (word.zip word.tail).length := by simp; omega
  have there : other < (word.zip word.tail).length := by simp; omega
  rw [List.getElem?_eq_getElem (by omega), List.getElem?_eq_getElem (by omega), Option.some_inj] at same next
  have pairs : (word.zip word.tail)[place] = (word.zip word.tail)[other] := by
    simp only [List.getElem_zip, List.getElem_tail, same, next]
  exact (List.Nodup.getElem_inj_iff sharp).mp pairs

variable [DecidableEq α]

theorem joins_sharedLength (left right : List α) : Block.Joins ⟨0, 0, sharedLength left right⟩ left right := by
  induction left generalizing right with
  | nil => exact ⟨by simp [sharedLength], by simp [sharedLength], by simp [sharedLength]⟩
  | cons x xs ih =>
    cases right with
    | nil => exact ⟨by simp [sharedLength], by simp [sharedLength], by simp [sharedLength]⟩
    | cons y ys =>
      have further := ih ys
      rw [sharedLength]
      split
      next same =>
        have leftFits := further.left_le
        have rightFits := further.right_le
        refine ⟨by simpa using leftFits, by simpa using rightFits, ?_⟩
        intro place inside
        cases place with
        | zero => simp [same]
        | succ place => simpa using further.same place (Nat.lt_of_succ_lt_succ inside)
      next => exact ⟨by simp, by simp, by simp⟩

theorem sharedLength_nil_right (left : List α) : sharedLength left [] = 0 := by
  cases left <;> rfl

theorem le_sharedLength {length : Nat} (joins : Block.Joins ⟨0, 0, length⟩ left right) :
    length ≤ sharedLength left right := by
  induction length generalizing left right with
  | zero => exact Nat.zero_le _
  | succ length ih =>
    obtain ⟨leftFits, rightFits, same⟩ := joins
    cases left with
    | nil => simp at leftFits
    | cons x xs =>
      cases right with
      | nil => simp at rightFits
      | cons y ys =>
        have first : x = y := by simpa using same 0 (Nat.succ_pos length)
        rw [sharedLength, if_pos first]
        apply Nat.succ_le_succ
        refine ih ⟨by simpa using leftFits, by simpa using rightFits, ?_⟩
        intro place inside
        simpa using same (place + 1) (Nat.succ_lt_succ inside)

section Longest

theorem le_longestAt (left right : List α) (leftStart rightStart : Nat) (best : Block) :
    best.length ≤ (longestAt left leftStart right rightStart best).length ∧
      ∀ skipped, sharedLength left (right.drop skipped) ≤ (longestAt left leftStart right rightStart best).length := by
  induction right generalizing rightStart best with
  | nil => exact ⟨Nat.le_refl _, by simp [sharedLength_nil_right]⟩
  | cons y ys ih =>
    rw [longestAt]
    generalize chosen : (if best.length < sharedLength left (y :: ys) then
      ⟨leftStart, rightStart, sharedLength left (y :: ys)⟩ else best : Block) = next
    obtain ⟨grows, covers⟩ := ih (rightStart + 1) next
    have better : best.length ≤ next.length ∧ sharedLength left (y :: ys) ≤ next.length := by
      rw [← chosen]
      rcases Nat.lt_or_ge best.length (sharedLength left (y :: ys)) with longer | noLonger
      · rw [if_pos longer]
        exact ⟨Nat.le_of_lt longer, Nat.le_refl _⟩
      · rw [if_neg (Nat.not_lt.mpr noLonger)]
        exact ⟨Nat.le_refl _, noLonger⟩
    refine ⟨Nat.le_trans better.1 grows, ?_⟩
    intro skipped
    cases skipped with
    | zero => exact Nat.le_trans better.2 grows
    | succ skipped => exact covers skipped

theorem le_longestFrom (right left : List α) (leftStart : Nat) (best : Block) :
    best.length ≤ (longestFrom right left leftStart best).length ∧ ∀ leftSkipped rightSkipped,
      sharedLength (left.drop leftSkipped) (right.drop rightSkipped) ≤ (longestFrom right left leftStart best).length := by
  induction left generalizing leftStart best with
  | nil => exact ⟨Nat.le_refl _, by simp [sharedLength]⟩
  | cons x xs ih =>
    rw [longestFrom]
    obtain ⟨better, here⟩ := le_longestAt (x :: xs) right leftStart 0 best
    obtain ⟨grows, covers⟩ := ih (leftStart + 1) (longestAt (x :: xs) leftStart right 0 best)
    refine ⟨Nat.le_trans better grows, ?_⟩
    intro leftSkipped rightSkipped
    cases leftSkipped with
    | zero => exact Nat.le_trans (here rightSkipped) grows
    | succ leftSkipped => exact covers leftSkipped rightSkipped

/-- No block is longer than the longest. -/
theorem Block.Joins.le_longest (joins : block.Joins left right) : block.length ≤ (longest left right).length := by
  have leftFits : block.left ≤ left.length := Nat.le_of_add_right_le joins.left_le
  have rightFits : block.right ≤ right.length := Nat.le_of_add_right_le joins.right_le
  exact Nat.le_trans (le_sharedLength ((joins_drop 0 0 block.length leftFits rightFits).mpr joins))
    ((le_longestFrom right left 0 ⟨0, 0, 0⟩).2 block.left block.right)

theorem joins_longestAt {leftStart rightStart : Nat} {best : Block} {rest : List α} (leftFits : leftStart ≤ left.length)
    (behind : right.drop rightStart = rest) (joins : best.Joins left right) :
    (longestAt (left.drop leftStart) leftStart rest rightStart best).Joins left right := by
  induction rest generalizing rightStart best with
  | nil => exact joins
  | cons y ys ih =>
    have rightFits := lt_length_of_drop behind
    rw [longestAt]
    apply ih
    · rw [← List.tail_drop, behind, List.tail_cons]
    · split
      · apply (joins_drop 0 0 _ leftFits (Nat.le_of_lt rightFits)).mp
        rw [behind]
        exact joins_sharedLength _ _
      · exact joins

theorem joins_longestFrom {leftStart : Nat} {best : Block} {rest : List α} (behind : left.drop leftStart = rest)
    (joins : best.Joins left right) : (longestFrom right rest leftStart best).Joins left right := by
  induction rest generalizing leftStart best with
  | nil => exact joins
  | cons x xs ih =>
    have leftFits := lt_length_of_drop behind
    rw [longestFrom]
    apply ih
    · rw [← List.tail_drop, behind, List.tail_cons]
    · rw [← behind]
      exact joins_longestAt (Nat.le_of_lt leftFits) rfl joins

theorem joins_longest (left right : List α) : (longest left right).Joins left right :=
  joins_longestFrom rfl ⟨Nat.zero_le _, Nat.zero_le _, nofun⟩

end Longest

section Matched

@[simp] theorem matchedWithin_nil (rounds : Nat) (right : List α) : matchedWithin rounds [] right = 0 := by
  cases rounds <;> rfl

/-- Rounds beyond the elements match no more. -/
theorem matchedWithin_eq {rounds other : Nat} (enough : left.length ≤ rounds) (also : left.length ≤ other) :
    matchedWithin rounds left right = matchedWithin other left right := by
  induction rounds generalizing left right other with
  | zero =>
    obtain rfl := List.length_eq_zero_iff.mp (Nat.le_zero.mp enough)
    simp
  | succ rounds ih =>
    cases other with
    | zero =>
      obtain rfl := List.length_eq_zero_iff.mp (Nat.le_zero.mp also)
      simp
    | succ other =>
      have fits := (joins_longest left right).left_le
      rw [matchedWithin, matchedWithin]
      split
      next => rfl
      next present =>
        have before : (left.take (longest left right).left).length < left.length := by
          rw [List.length_take]
          omega
        have behind : (left.drop ((longest left right).left + (longest left right).length)).length < left.length := by
          rw [List.length_drop]
          omega
        rw [ih (Nat.le_of_lt_succ (Nat.lt_of_lt_of_le before enough)) (Nat.le_of_lt_succ (Nat.lt_of_lt_of_le before also)),
          ih (Nat.le_of_lt_succ (Nat.lt_of_lt_of_le behind enough)) (Nat.le_of_lt_succ (Nat.lt_of_lt_of_le behind also))]

/-- The longest block is matched, and on either side of it what is matched there. -/
theorem matched_eq (present : (longest left right).length ≠ 0) :
    matched left right = matched (left.take (longest left right).left) (right.take (longest left right).right) +
      (longest left right).length + matched (left.drop ((longest left right).left + (longest left right).length))
        (right.drop ((longest left right).right + (longest left right).length)) := by
  have fits := (joins_longest left right).left_le
  obtain ⟨rounds, counted⟩ : ∃ rounds, left.length = rounds + 1 := Nat.exists_eq_succ_of_ne_zero (by omega)
  rw [matched, counted, matchedWithin, if_neg present]
  congr 1
  · congr 1
    apply matchedWithin_eq _ (Nat.le_refl _)
    rw [List.length_take]
    omega
  · apply matchedWithin_eq _ (Nat.le_refl _)
    rw [List.length_drop]
    omega

theorem matched_nothing (absent : (longest left right).length = 0) : matched left right = 0 := by
  cases left with
  | nil => rfl
  | cons x xs => rw [matched, List.length_cons, matchedWithin, if_pos absent]

theorem Block.Joins.le_matched (joins : block.Joins left right) : block.length ≤ matched left right := by
  have noLonger := joins.le_longest
  rcases Nat.eq_zero_or_pos (longest left right).length with absent | present
  · omega
  · rw [matched_eq (Nat.ne_of_gt present)]
    omega

theorem le_matched_before {front : Nat} (leftEnd rightEnd : Nat) (start : Block.Joins ⟨0, 0, front⟩ left right) :
    min front (min leftEnd rightEnd) ≤ matched (left.take leftEnd) (right.take rightEnd) := by
  have shorter : Block.Joins ⟨0, 0, min front (min leftEnd rightEnd)⟩ left right :=
    start.narrow 0 _ (by simp only; omega)
  exact (shorter.take (by simp only; omega) (by simp only; omega)).le_matched

theorem le_matched_behind {back leftStart rightStart start other : Nat} (stop : Block.Joins ⟨start, other, back⟩ left right)
    (leftLength : left.length = start + back) (rightLength : right.length = other + back)
    (leftFits : leftStart ≤ left.length) (rightFits : rightStart ≤ right.length) :
    min back (min (left.length - leftStart) (right.length - rightStart)) ≤
      matched (left.drop leftStart) (right.drop rightStart) := by
  generalize bounded : min back (min (left.length - leftStart) (right.length - rightStart)) = length
  have shorter := stop.narrow (back - length) length (by simp only; omega)
  refine ((joins_drop (left.length - length - leftStart) (right.length - length - rightStart) length leftFits rightFits).mpr
    ?_).le_matched
  convert shorter using 2 <;> simp only <;> omega

/-- What is matched is in both sequences, in the same order. -/
theorem matched_sublist (left right : List α) :
    ∃ common : List α, common.Sublist left ∧ common.Sublist right ∧ common.length = matched left right := by
  induction size : left.length using Nat.strongRecOn generalizing left right with
  | ind size ih =>
    subst size
    rcases Nat.eq_zero_or_pos (longest left right).length with absent | present
    · exact ⟨[], List.nil_sublist left, List.nil_sublist right, (matched_nothing absent).symm⟩
    · rw [matched_eq (Nat.ne_of_gt present)]
      have joins := joins_longest left right
      generalize longest left right = block at *
      have fits := joins.left_le
      obtain ⟨before, beforeLeft, beforeRight, beforeLength⟩ := ih (left.take block.left).length
        (by rw [List.length_take]; omega) _ (right.take block.right) rfl
      obtain ⟨behind, behindLeft, behindRight, behindLength⟩ := ih (left.drop (block.left + block.length)).length
        (by rw [List.length_drop]; omega) _ (right.drop (block.right + block.length)) rfl
      have pieces (start : Nat) (whole : List α) :
          whole = whole.take start ++ ((whole.drop start).take block.length ++ whole.drop (start + block.length)) := by
        rw [← List.drop_drop, List.take_append_drop, List.take_append_drop]
      refine ⟨before ++ ((left.drop block.left).take block.length ++ behind), ?_, ?_, ?_⟩
      · conv_rhs => rw [pieces block.left left]
        exact beforeLeft.append ((List.Sublist.refl _).append behindLeft)
      · rw [joins.window]
        conv_rhs => rw [pieces block.right right]
        exact beforeRight.append ((List.Sublist.refl _).append behindRight)
      · rw [List.length_append, List.length_append, beforeLength, behindLength, List.length_take, List.length_drop]
        omega

theorem matched_le_countP (left right : List α) : matched left right ≤ right.countP left.contains := by
  obtain ⟨common, ofLeft, ofRight, length⟩ := matched_sublist left right
  calc matched left right = common.length := length.symm
    _ = common.countP left.contains := (List.countP_eq_length.mpr fun item there => by simpa using ofLeft.subset there).symm
    _ ≤ right.countP left.contains := ofRight.countP_le

end Matched

section Ends

variable {front back old new : Nat} (start : Block.Joins ⟨0, 0, front⟩ left right)
  (stop : Block.Joins ⟨front + old, front + new, back⟩ left right) (leftLength : left.length = front + old + back)
  (rightLength : right.length = front + new + back)
include start stop leftLength rightLength

/-- Where two sequences have a start and an end in common, both are matched whole if the first block is in place, counted
from the start or from the end. -/
theorem ends_spared (inPlace : (longest left right).left = (longest left right).right ∨
    (longest left right).left + new = (longest left right).right + old) : front + back ≤ matched left right := by
  have frontFits : front ≤ _ := start.le_longest
  have backFits : back ≤ _ := stop.le_longest
  rcases Nat.eq_zero_or_pos (longest left right).length with absent | present
  · omega
  · rw [matched_eq (Nat.ne_of_gt present)]
    have joins := joins_longest left right
    generalize longest left right = block at *
    have leftFits := joins.left_le
    have rightFits := joins.right_le
    have before := le_matched_before block.left block.right start
    have behind := le_matched_behind stop leftLength rightLength leftFits rightFits
    omega

omit [DecidableEq α] in
/-- A block that is not in place has no two elements of the common start, and no two of the common end. -/
theorem Block.Joins.askew (sharp : Sharp left) (joins : block.Joins left right) (long : 1 < block.length)
    (early : block.left ≠ block.right) (late : block.left + new ≠ block.right + old) :
    front ≤ block.right + 1 ∧ block.right + block.length ≤ front + new + 1 := by
  have leftFits := joins.left_le
  have rightFits := joins.right_le
  constructor
  · by_contra inside
    have head := joins.same 0 (by omega)
    have next := joins.same 1 (by omega)
    have startHead := start.same block.right (by simp only; omega)
    have startNext := start.same (block.right + 1) (by simp only; omega)
    simp only [Nat.zero_add, Nat.add_zero] at head startHead startNext
    exact early (sharp.place_unique (by omega) (by omega) (head.trans startHead.symm) (next.trans startNext.symm))
  · by_contra inside
    have last := joins.same (block.length - 2) (by omega)
    have next := joins.same (block.length - 2 + 1) (by omega)
    obtain ⟨place, placed⟩ : ∃ place, block.right + (block.length - 2) = front + new + place :=
      Nat.exists_eq_add_of_le (by omega)
    have stopLast := stop.same place (by simp only; omega)
    have stopNext := stop.same (place + 1) (by simp only; omega)
    simp only [← Nat.add_assoc, placed] at last next stopLast stopNext
    have same := sharp.place_unique (by omega) (by omega) (last.trans stopLast.symm) (next.trans stopNext.symm)
    omega

theorem ends_spared_of_long (sharp : Sharp left) (long : new + 2 < front ∨ new + 2 < back) :
    front + back ≤ matched left right := by
  apply ends_spared start stop leftLength rightLength
  by_contra! askew
  have frontFits : front ≤ _ := start.le_longest
  have backFits : back ≤ _ := stop.le_longest
  have := Block.Joins.askew start stop leftLength rightLength sharp (joins_longest left right) (by omega) askew.1 askew.2
  omega

/-- A single new element that is not in the one sequence is in no block of the two. -/
theorem ends_spared_of_fresh (sharp : Sharp left) (single : new = 1) (fresh : ∀ place : Nat, left[place]? ≠ right[front]?)
    (long : 1 < front ∨ 1 < back) : front + back ≤ matched left right := by
  apply ends_spared start stop leftLength rightLength
  by_contra! askew
  have frontFits : front ≤ _ := start.le_longest
  have backFits : back ≤ _ := stop.le_longest
  have joins := joins_longest left right
  obtain ⟨first, last⟩ :=
    Block.Joins.askew start stop leftLength rightLength sharp joins (by omega) askew.1 askew.2
  have between := joins.same (front - (longest left right).right) (by omega)
  exact fresh _ (by rw [between]; congr 1; omega)

end Ends

section Pieces
variable {front old new back : List α}

omit [DecidableEq α] in
theorem joins_front (front old new back : List α) :
    Block.Joins ⟨0, 0, front.length⟩ (front ++ (old ++ back)) (front ++ (new ++ back)) := by
  refine ⟨by simp, by simp, ?_⟩
  intro place inside
  simp only [Nat.zero_add, List.getElem?_append_left inside]

omit [DecidableEq α] in
theorem joins_back (front old new back : List α) :
    Block.Joins ⟨front.length + old.length, front.length + new.length, back.length⟩ (front ++ (old ++ back))
      (front ++ (new ++ back)) := by
  refine ⟨by simp [Nat.add_assoc], by simp [Nat.add_assoc], ?_⟩
  intro place inside
  have behind (piece : List α) : (front ++ (piece ++ back))[front.length + piece.length + place]? = back[place]? := by
    rw [← List.append_assoc, ← List.length_append, List.getElem?_append_right (Nat.le_add_right _ _),
      Nat.add_sub_cancel_left]
  exact (behind old).trans (behind new).symm

/-- What stands before and behind an exchanged piece is matched if more than the new piece stands on one side of it. -/
theorem sides_spared_of_long (sharp : Sharp (front ++ (old ++ back)))
    (long : new.length + 2 < front.length ∨ new.length + 2 < back.length) :
    front.length + back.length ≤ matched (front ++ (old ++ back)) (front ++ (new ++ back)) :=
  ends_spared_of_long (joins_front ..) (joins_back ..) (by simp [Nat.add_assoc]) (by simp [Nat.add_assoc]) sharp long

/-- What stands before and behind an exchanged piece is matched if the new piece is an element from elsewhere. -/
theorem sides_spared_of_fresh {letter : α} (sharp : Sharp (front ++ (old ++ back))) (fresh : letter ∉ front ++ (old ++ back))
    (long : 1 < front.length ∨ 1 < back.length) :
    front.length + back.length ≤ matched (front ++ (old ++ back)) (front ++ ([letter] ++ back)) := by
  refine ends_spared_of_fresh (joins_front ..) (joins_back ..) (by simp [Nat.add_assoc])
    (by simp; omega) sharp rfl (fun place same => ?_) long
  rw [List.getElem?_append_right (Nat.le_refl _), Nat.sub_self] at same
  exact fresh (List.mem_of_getElem? same)

end Pieces

end CacheSeal.Similarity
