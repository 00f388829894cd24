import CacheSeal.Proofs.ChecksumForm

/-! A checksum continued from that of what came before. What is handed on is congruent to the sums of the bytes so far,
so the only trace of a cut is a high half that is not reduced at the end; and that takes two single bytes, after a seed
whose high half is not reduced either. -/

namespace CacheSeal.Proofs.ChecksumContinuation
open Checksum ChecksumForm

theorem ofSeed_word {sums : Sums} (low : sums.low < halfCount) (high : sums.high < halfCount) :
    Sums.ofSeed sums.word = sums := by
  have small := word_lt low high
  have same : ((sums.word : Int) % 0x100000000).toNat = sums.word := by omega
  simp only [Sums.ofSeed, same, word_low low, word_high low]

theorem ofSeed_resume (seed : Int) (data : Bytes) :
    let fed := (Sums.ofSeed seed).feedAll data
    Sums.ofSeed (resume seed (some data)) = ⟨fed.low % base, fed.high % base + excess seed data⟩ := by
  intro fed
  have low : fed.low % base < halfCount := Nat.lt_trans (Nat.mod_lt _ (by decide)) (by decide)
  rw [resume_eq]
  exact ofSeed_word low (high_lt seed data)

theorem excess_modEq_zero (seed : Int) (data : Bytes) : excess seed data ≡ 0 [MOD base] := by
  unfold excess
  split
  · exact Nat.mod_self base
  · rfl

theorem congruent_resume (seed : Int) (data : Bytes) :
    Congruent (.ofSeed (resume seed (some data))) ((Sums.ofSeed seed).feedAll data) := by
  rw [ofSeed_resume]
  refine ⟨Nat.mod_modEq _ _, ?_⟩
  exact (Nat.mod_modEq _ _).add (excess_modEq_zero seed data)

theorem resume_eq_add (seed : Int) (data : Bytes) :
    resume seed (some data) = ((Sums.ofSeed seed).feedAll data).reduce.word + halfCount * excess seed data := by
  rw [resume_eq, Sums.word, Sums.word, Nat.mul_add, ← Nat.add_assoc]
  rfl

/-- A cut leaves nothing behind but the excess of the second piece. -/
theorem resume_resume_eq_add (seed : Int) {first second : Bytes} (present : first ≠ []) (continued : second ≠ []) :
    resume (resume seed (some first)) (some second) =
      resume seed (some (first ++ second)) + halfCount * excess (resume seed (some first)) second := by
  have several : (first ++ second).length ≠ 1 := by
    have := List.length_pos_iff.mpr present
    have := List.length_pos_iff.mpr continued
    rw [List.length_append]
    omega
  have same := (congruent_resume seed first).feedAll second
  rw [resume_eq_add _ second, resume_eq_add _ (first ++ second), excess_of_length_ne_one several, feedAll_append,
    same.reduce_eq]
  rfl

/-- Two single bytes, after a seed so large that the high sum takes three subtractions in all. -/
def Outgrows (seed : Int) : Bytes → Bytes → Prop
  | [byte], [next] =>
    let low := (seed % 2 ^ 32).toNat % 2 ^ 16
    let high := (seed % 2 ^ 32).toNat / 2 ^ 16
    3 * 65521 ≤ high + (low + byte.toNat) % 65521 + (low + byte.toNat + next.toNat) % 65521
  | _, _ => False

instance (seed : Int) (first second : Bytes) : Decidable (Outgrows seed first second) := by
  unfold Outgrows
  split <;> infer_instance

theorem not_outgrows {seed : Int} {first second : Bytes} (several : first.length ≠ 1 ∨ second.length ≠ 1) :
    ¬ Outgrows seed first second := by
  unfold Outgrows
  split
  · simp at several
  · exact not_false

/-- Whether a sum stays too large for one subtraction, after an earlier one was made. -/
private theorem unreduced_iff {sum residue : Nat} (small : sum < 3 * base) (reduced : residue < base) :
    2 * base ≤ (sum % base + if 2 * base ≤ sum then base else 0) + residue ↔ 3 * base ≤ sum + residue := by
  unfold base at *
  split <;> omega

private theorem excess_resume_byte (seed : Int) (byte next : UInt8) :
    excess (resume seed (some [byte])) [next] = if Outgrows seed [byte] [next] then base else 0 := by
  let fed := (Sums.ofSeed seed).feed byte
  have lowReduced : fed.low % base < base := Nat.mod_lt _ (by decide)
  have nextReduced : (fed.feed next).low % base < base := Nat.mod_lt _ (by decide)
  have small : (Sums.ofSeed seed).high + fed.low % base < 3 * base := by
    have bound := ofSeed_high_lt seed
    simp only [base, halfCount] at *
    omega
  have handedOn : (Sums.ofSeed (resume seed (some [byte]))).high =
      ((Sums.ofSeed seed).high + fed.low % base) % base +
        if 2 * base ≤ (Sums.ofSeed seed).high + fed.low % base then base else 0 := by
    rw [ofSeed_resume, high_feed_mod]
    simp only [excess, List.length_singleton, true_and]
    rfl
  have low : ((Sums.ofSeed (resume seed (some [byte]))).feedAll [next]).low % base = (fed.feed next).low % base :=
    ((congruent_resume seed [byte]).feedAll [next]).1
  simp only [excess, List.length_singleton, true_and, low, handedOn, unreduced_iff small nextReduced]
  rfl

/-- Only what is left of a first excess can lead to a second one. -/
theorem excess_resume (seed : Int) (first second : Bytes) :
    excess (resume seed (some first)) second = if Outgrows seed first second then base else 0 := by
  by_cases single : second.length = 1
  · by_cases firstSingle : first.length = 1
    · obtain ⟨byte, rfl⟩ := List.length_eq_one_iff.mp firstSingle
      obtain ⟨next, rfl⟩ := List.length_eq_one_iff.mp single
      exact excess_resume_byte seed byte next
    · have high : ((Sums.ofSeed seed).feedAll first).high % base < base := Nat.mod_lt _ (by decide)
      have low : ((Sums.ofSeed (resume seed (some first))).feedAll second).low % base < base :=
        Nat.mod_lt _ (by decide)
      rw [if_neg (not_outgrows (.inl firstSingle)), excess, if_neg]
      rw [ofSeed_resume, excess_of_length_ne_one firstSingle] at *
      simp only [base] at *
      omega
  · rw [excess_of_length_ne_one single, if_neg (not_outgrows (.inr single))]

/-- A checksum may be continued over a second piece, unless both pieces are single bytes and outgrow the reduction of a
single byte; then the high half stays one `base` above that of the whole. -/
theorem resume_resume (seed : Int) {first second : Bytes} (present : first ≠ []) (continued : second ≠ []) :
    (resume (resume seed (some first)) (some second) = resume seed (some (first ++ second)) ↔
        ¬ Outgrows seed first second) ∧
      (Outgrows seed first second → resume (resume seed (some first)) (some second) =
        resume seed (some (first ++ second)) + 65521 * 2 ^ 16) := by
  rw [resume_resume_eq_add seed present continued, excess_resume]
  by_cases outgrows : Outgrows seed first second
  · simp [outgrows, base, halfCount]
  · simp [outgrows]

/-- The first byte leaves its high half unreduced here, and the second one makes up for it. -/
theorem resume_resume_recovering :
    ([0] : Bytes) ≠ [] ∧ ([1] : Bytes) ≠ [] ∧
      resume (resume (-16) (some [0])) (some [1]) = resume (-16) (some ([0] ++ [1])) :=
  ⟨by decide, by decide, (resume_resume (-16) (by decide) (by decide)).1.mpr (by decide)⟩

/-- Two zeros, one by one, are not what they are together. -/
theorem resume_resume_outgrown :
    resume (resume (-16) (some [0])) (some [0]) ≠ resume (-16) (some ([0] ++ [0])) := by
  decide

end CacheSeal.Proofs.ChecksumContinuation
