import CacheSeal.Text.Basic

/-! The order of texts, which is that of their code points one after the other. Any two texts stand in it one way or the
other, and both ways only if they are the same; so a least one of several texts is the only one. -/

namespace CacheSeal.Text
variable {left middle right : Text}

/-- The first text comes before the second, at the first place where their code points differ or by its end. -/
def Before (first second : Text) : Prop :=
  List.Lex (fun point other => point.val < other.val) first second

theorem le_cons_cons_iff {point other : CodePoint} : le (point :: left) (other :: right) = true ↔
    point.val < other.val ∨ point = other ∧ left.le right = true := by
  simp [le]

/-- One text is not after another just if the other is not before it. -/
theorem le_iff_not_before : left.le right = true ↔ ¬ Before right left := by
  unfold Before
  induction left generalizing right with
  | nil => exact iff_of_true rfl nofun
  | cons point rest ih =>
    cases right with
    | nil => exact iff_of_false nofun (not_not_intro .nil)
    | cons other others =>
      rw [le_cons_cons_iff, ih]
      constructor
      · rintro (earlier | ⟨rfl, apart⟩) before
        · cases before with
          | cons => exact Nat.lt_irrefl _ earlier
          | rel later => exact Nat.lt_asymm earlier later
        · cases before with
          | cons before => exact apart before
          | rel later => exact Nat.lt_irrefl _ later
      · intro apart
        rcases Nat.lt_trichotomy point.val other.val with earlier | same | later
        · exact .inl earlier
        · obtain rfl := Fin.ext same
          exact .inr ⟨rfl, fun before => apart (.cons before)⟩
        · exact absurd (.rel later) apart

theorem le_refl (text : Text) : text.le text = true := by
  induction text with
  | nil => rfl
  | cons point rest ih => exact le_cons_cons_iff.mpr (.inr ⟨rfl, ih⟩)

theorem le_total (left right : Text) : left.le right = true ∨ right.le left = true := by
  induction left generalizing right with
  | nil => exact .inl rfl
  | cons point rest ih =>
    cases right with
    | nil => exact .inr rfl
    | cons other others =>
      simp only [le_cons_cons_iff]
      rcases Nat.lt_trichotomy point.val other.val with earlier | same | later
      · exact .inl (.inl earlier)
      · obtain rfl := Fin.ext same
        exact (ih others).imp (fun le => .inr ⟨rfl, le⟩) fun le => .inr ⟨rfl, le⟩
      · exact .inr (.inl later)

theorem le_antisymm (below : left.le right = true) (above : right.le left = true) : left = right := by
  induction left generalizing right with
  | nil =>
    cases right with
    | nil => rfl
    | cons => cases above
  | cons point rest ih =>
    cases right with
    | nil => cases below
    | cons other others =>
      rw [le_cons_cons_iff] at below above
      rcases below with earlier | ⟨rfl, below⟩
      · rcases above with later | ⟨rfl, -⟩
        · exact absurd later (Nat.lt_asymm earlier)
        · exact absurd earlier (Nat.lt_irrefl _)
      · rcases above with later | ⟨-, above⟩
        · exact absurd later (Nat.lt_irrefl _)
        · rw [ih below above]

theorem le_trans (first : left.le middle = true) (second : middle.le right = true) : left.le right = true := by
  induction left generalizing middle right with
  | nil => rfl
  | cons point rest ih =>
    cases middle with
    | nil => cases first
    | cons between middles =>
      cases right with
      | nil => cases second
      | cons other others =>
        rw [le_cons_cons_iff] at *
        rcases first with earlier | ⟨rfl, first⟩
        · rcases second with later | ⟨rfl, -⟩
          · exact .inl (Nat.lt_trans earlier later)
          · exact .inl earlier
        · rcases second with later | ⟨rfl, second⟩
          · exact .inl later
          · exact .inr ⟨rfl, ih first second⟩

end CacheSeal.Text
