import CacheSeal.Proofs.ChecksumForm
import Mathlib.Tactic.Linarith

/-! The checksum in words of 32 bits. The sums are added up here by an adder that is left open, and all that is asked of
it is that it adds where the outcome is a word. Sums only grow within a block, and the block ends before they are no
words any more, also when it starts from a seed that is not reduced. -/

namespace CacheSeal.Checksum

/-- How two sums are added up, if they are. -/
abbrev Adder := Nat → Nat → Option Nat

namespace Adder

def plain : Adder := fun first second => some (first + second)

def wrapping : Adder := fun first second => some ((first + second) % 2 ^ 32)

def checked : Adder := fun first second => if first + second < 2 ^ 32 then some (first + second) else none

def Exact (adder : Adder) : Prop :=
  ∀ first second, first + second < 2 ^ 32 → adder first second = some (first + second)

theorem exact_plain : plain.Exact :=
  fun _ _ _ => rfl

theorem exact_wrapping : wrapping.Exact := by
  intro first second small
  rw [wrapping, Nat.mod_eq_of_lt small]

theorem exact_checked : checked.Exact :=
  fun _ _ small => if_pos small

end Adder

namespace Sums

def feedWith (adder : Adder) (sums : Sums) (byte : UInt8) : Option Sums := do
  let low ← adder sums.low byte.toNat
  let high ← adder sums.high low
  return ⟨low, high⟩

def feedAllWith (adder : Adder) (sums : Sums) (data : Bytes) : Option Sums :=
  data.foldlM (feedWith adder) sums

def feedBlocksWith (adder : Adder) : Nat → Sums → Bytes → Option Sums
  | 0, sums, data => if data.isEmpty then some sums else (sums.feedAllWith adder data).map reduce
  | blocks + 1, sums, data => do
    let fed ← sums.feedAllWith adder (data.take blockLength)
    feedBlocksWith adder blocks fed.reduce (data.drop blockLength)

end Sums

def resumeByteWith (adder : Adder) (sums : Sums) (byte : UInt8) : Option Nat := do
  let low := Sums.reduceOnce (← adder sums.low byte.toNat)
  return Sums.word ⟨low, Sums.reduceOnce (← adder sums.high low)⟩

def resumeShortWith (adder : Adder) (sums : Sums) (data : Bytes) : Option Nat := do
  let fed ← sums.feedAllWith adder data
  return Sums.word ⟨Sums.reduceOnce fed.low, fed.high % base⟩

def resumeLongWith (adder : Adder) (sums : Sums) (data : Bytes) : Option Nat :=
  (Sums.feedBlocksWith adder (data.length / blockLength) sums data).map Sums.word

/-- Continues a checksum with every sum added up by the adder. -/
def resumeWith (adder : Adder) (seed : Int) : Option Bytes → Option Nat
  | none => some ofNothing
  | some [byte] => resumeByteWith adder (.ofSeed seed) byte
  | some data =>
    if data.length < shortLength then resumeShortWith adder (.ofSeed seed) data
    else resumeLongWith adder (.ofSeed seed) data

end CacheSeal.Checksum

namespace CacheSeal.Proofs.ChecksumWords
open Checksum ChecksumForm

structure Fits (sums : Sums) : Prop where
  low : sums.low < 2 ^ 32
  high : sums.high < 2 ^ 32

/-- Both sums are halves of a word, as those of a seed are, and those that a block hands on. -/
structure Halves (sums : Sums) : Prop where
  low : sums.low < halfCount
  high : sums.high < halfCount

theorem halves_ofSeed (seed : Int) : Halves (.ofSeed seed) :=
  ⟨ofSeed_low_lt seed, ofSeed_high_lt seed⟩

theorem halves_reduce (sums : Sums) : Halves sums.reduce := by
  have reduced (sum : Nat) : sum % base < halfCount := Nat.lt_trans (Nat.mod_lt sum (by decide)) (by decide)
  exact ⟨reduced _, reduced _⟩

theorem le_feedAll (sums : Sums) (data : Bytes) :
    sums.low ≤ (sums.feedAll data).low ∧ sums.high ≤ (sums.feedAll data).high := by
  rw [feedAll_low, feedAll_high, Nat.add_assoc]
  exact ⟨Nat.le_add_right _ _, Nat.le_add_right _ _⟩

/-- The high sum is largest for bytes that are all 255. -/
theorem feedAll_high_le (sums : Sums) (data : Bytes) :
    2 * (sums.feedAll data).high ≤
      2 * (sums.high + data.length * sums.low) + 255 * (data.length * (data.length + 1)) := by
  induction data generalizing sums with
  | nil => simp [Sums.feedAll]
  | cons byte rest ih =>
    have bound := ih (sums.feed byte)
    have small : byte.toNat ≤ 255 := Nat.le_of_lt_succ byte.toNat_lt
    have weighted : (rest.length + 1) * byte.toNat ≤ (rest.length + 1) * 255 := Nat.mul_le_mul_left _ small
    change 2 * ((sums.feed byte).feedAll rest).high ≤ _
    simp only [Sums.feed, List.length_cons] at bound ⊢
    linarith only [bound, weighted]

/-- No sum of a block is too large for a word, whatever the bytes and the halves it starts from. -/
theorem fits_feedAll {sums : Sums} {data : Bytes} (halves : Halves sums) (short : data.length ≤ blockLength) :
    Fits (sums.feedAll data) := by
  obtain ⟨low, high⟩ := halves
  have lowBound := feedAll_low_le sums data
  have highBound := feedAll_high_le sums data
  have weight : data.length * sums.low ≤ blockLength * halfCount := Nat.mul_le_mul short low.le
  have triangle : data.length * (data.length + 1) ≤ blockLength * (blockLength + 1) :=
    Nat.mul_le_mul short (Nat.succ_le_succ short)
  simp only [blockLength, halfCount] at *
  constructor <;> omega

theorem resumeWith_of_length_ne_one (adder : Adder) (seed : Int) {data : Bytes} (several : data.length ≠ 1) :
    resumeWith adder seed (some data) =
      if data.length < shortLength then resumeShortWith adder (.ofSeed seed) data
      else resumeLongWith adder (.ofSeed seed) data := by
  match data with
  | [] => rfl
  | [_] => exact absurd rfl several
  | _ :: _ :: _ => rfl

section Exact
variable {adder : Adder} (exact : adder.Exact)
include exact

theorem feedWith_eq {sums : Sums} {byte : UInt8} (fits : Fits (sums.feed byte)) :
    sums.feedWith adder byte = some (sums.feed byte) := by
  have low : adder sums.low byte.toNat = some (sums.low + byte.toNat) := exact _ _ fits.low
  have high : adder sums.high (sums.low + byte.toNat) = some (sums.high + (sums.low + byte.toNat)) :=
    exact _ _ fits.high
  simp only [Sums.feedWith, low, high, Option.bind_eq_bind, Option.bind_some]
  rfl

/-- As the sums only grow, it is enough that the last ones are words. -/
theorem feedAllWith_eq {sums : Sums} {data : Bytes} (fits : Fits (sums.feedAll data)) :
    sums.feedAllWith adder data = some (sums.feedAll data) := by
  induction data generalizing sums with
  | nil => rfl
  | cons byte rest ih =>
    obtain ⟨low, high⟩ := le_feedAll (sums.feed byte) rest
    have first : sums.feedWith adder byte = some (sums.feed byte) :=
      feedWith_eq exact ⟨Nat.lt_of_le_of_lt low fits.low, Nat.lt_of_le_of_lt high fits.high⟩
    rw [Sums.feedAllWith, List.foldlM_cons, first]
    exact ih fits

/-- Every block starts from halves, and the bytes behind the last one are fewer than a block has. -/
theorem feedBlocksWith_eq (blocks : Nat) {sums : Sums} {data : Bytes} (halves : Halves sums)
    (few : data.length < (blocks + 1) * blockLength) :
    Sums.feedBlocksWith adder blocks sums data = some (Sums.feedBlocks blocks sums data) := by
  induction blocks generalizing sums data with
  | zero =>
    have fed := feedAllWith_eq exact (fits_feedAll halves (by omega : data.length ≤ blockLength))
    rw [Sums.feedBlocksWith, Sums.feedBlocks, fed]
    split <;> rfl
  | succ blocks ih =>
    have fed := feedAllWith_eq exact (fits_feedAll halves (List.length_take_le blockLength data))
    have fewer : (data.drop blockLength).length < (blocks + 1) * blockLength := by
      rw [List.length_drop]
      have behind : (blocks + 1 + 1) * blockLength = (blocks + 1) * blockLength + blockLength := Nat.succ_mul _ _
      have present : 0 < (blocks + 1) * blockLength := Nat.mul_pos (Nat.succ_pos blocks) (by decide)
      omega
    rw [Sums.feedBlocksWith, fed]
    exact ih (halves_reduce _) fewer

theorem resumeByteWith_eq {sums : Sums} (halves : Halves sums) (byte : UInt8) :
    resumeByteWith adder sums byte = some (resumeByte sums byte) := by
  obtain ⟨lowBound, highBound⟩ := halves
  have small := byte.toNat_lt
  have reduced : Sums.reduceOnce (sums.low + byte.toNat) ≤ sums.low + byte.toNat := by
    unfold Sums.reduceOnce
    split <;> omega
  simp only [halfCount] at *
  have low : adder sums.low byte.toNat = some (sums.low + byte.toNat) := exact _ _ (by omega)
  have high : adder sums.high (Sums.reduceOnce (sums.low + byte.toNat)) =
      some (sums.high + Sums.reduceOnce (sums.low + byte.toNat)) := exact _ _ (by omega)
  simp only [resumeByteWith, low, high, Option.bind_eq_bind, Option.bind_some]
  rfl

theorem resumeShortWith_eq {sums : Sums} {data : Bytes} (halves : Halves sums) (short : data.length < shortLength) :
    resumeShortWith adder sums data = some (resumeShort sums data) := by
  have fed := feedAllWith_eq exact (fits_feedAll halves (Nat.le_trans short.le (by decide)))
  rw [resumeShortWith, fed]
  rfl

theorem resumeLongWith_eq {sums : Sums} (halves : Halves sums) (data : Bytes) :
    resumeLongWith adder sums data = some (resumeLong sums data) := by
  have few : data.length < (data.length / blockLength + 1) * blockLength :=
    Nat.lt_mul_of_div_lt (Nat.lt_succ_self _) (by decide)
  rw [resumeLongWith, feedBlocksWith_eq exact _ halves few]
  rfl

/-- Whatever an adder does with sums that are no words, it does not come to it. -/
theorem resumeWith_eq (seed : Int) (data : Option Bytes) : resumeWith adder seed data = some (resume seed data) := by
  have halves := halves_ofSeed seed
  cases data with
  | none => rfl
  | some data =>
    by_cases single : data.length = 1
    · obtain ⟨byte, rfl⟩ := List.length_eq_one_iff.mp single
      exact resumeByteWith_eq exact halves byte
    · rw [resumeWith_of_length_ne_one adder seed single, resume_of_length_ne_one seed single]
      split
      next short => exact resumeShortWith_eq exact halves short
      next => exact resumeLongWith_eq exact halves data

end Exact

/-- Additions within words give the checksum that unbounded ones give, for checked ones refuse nothing: no sum that a run
comes to, in whichever block, is anything but a word. -/
theorem resume_in_words (seed : Int) (data : Option Bytes) :
    resumeWith .plain seed data = some (resume seed data) ∧
      resumeWith .wrapping seed data = some (resume seed data) ∧
      resumeWith .checked seed data = some (resume seed data) :=
  ⟨resumeWith_eq Adder.exact_plain seed data, resumeWith_eq Adder.exact_wrapping seed data,
    resumeWith_eq Adder.exact_checked seed data⟩

end CacheSeal.Proofs.ChecksumWords
