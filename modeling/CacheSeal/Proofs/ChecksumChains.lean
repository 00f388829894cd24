import CacheSeal.Proofs.ChecksumContinuation
import Mathlib.Data.List.DropRight
import Mathlib.Data.List.ReduceOption

/-! Checksums over data that comes in pieces. From a seed with both halves reduced no way of computing leaves a half
unreduced, so cuts may be anywhere, and pieces of no bytes at all are none. A piece that is absent makes the chain forget
what came before it. -/

namespace CacheSeal.Proofs.ChecksumChains
open Checksum ChecksumForm ChecksumContinuation

/-- The checksums after each piece, each of them the seed of the next. -/
def chain (seed : Int) : List (Option Bytes) → List Nat
  | [] => []
  | piece :: pieces => resume seed piece :: chain (resume seed piece) pieces

/-- The seed that counts in the end: that of nothing as soon as a piece was absent. -/
def origin (seed : Int) (pieces : List (Option Bytes)) : Int :=
  if none ∈ pieces then ofNothing else seed

/-- The bytes that count in the end: those of the pieces behind the last absent one. -/
def recent (pieces : List (Option Bytes)) : Bytes :=
  (pieces.rtakeWhile Option.isSome).reduceOption.flatten

variable {seed : Int}

theorem reduced_ofNothing : Reduced ofNothing := by decide

theorem reduced_resume (reduced : Reduced seed) (piece : Option Bytes) : Reduced (resume seed piece) := by
  cases piece with
  | none => exact reduced_ofNothing
  | some data =>
    rw [Reduced, ofSeed_resume, excess_of_reduced reduced, Nat.add_zero]
    exact ⟨Nat.mod_lt _ (by decide), Nat.mod_lt _ (by decide)⟩

theorem reduced_chain (reduced : Reduced seed) (pieces : List (Option Bytes)) :
    ∀ value ∈ chain seed pieces, Reduced value := by
  induction pieces generalizing seed with
  | nil => simp [chain]
  | cons piece pieces ih =>
    have next := reduced_resume reduced piece
    exact List.forall_mem_cons.mpr ⟨next, ih next⟩

/-- A cut leaves no trace, and either side of it may be empty. -/
theorem resume_resume_of_reduced (reduced : Reduced seed) (first second : Bytes) :
    resume (resume seed (some first)) (some second) = resume seed (some (first ++ second)) := by
  have same := (congruent_resume seed first).feedAll second
  rw [resume_of_reduced (reduced_resume reduced (some first)), resume_of_reduced reduced (first ++ second), feedAll_append,
    same.reduce_eq]

/-- The last checksum of a chain, or its seed. -/
def last (seed : Int) (pieces : List (Option Bytes)) : Int :=
  pieces.foldl (fun seed piece => resume seed piece) seed

theorem last_concat (seed : Int) (pieces : List (Option Bytes)) (piece : Option Bytes) :
    last seed (pieces ++ [piece]) = resume (last seed pieces) piece := by
  rw [last, List.foldl_concat, last]

theorem getLast?_chain_concat (seed : Int) (pieces : List (Option Bytes)) (piece : Option Bytes) :
    (chain seed (pieces ++ [piece])).getLast? = some (resume (last seed pieces) piece) := by
  induction pieces generalizing seed with
  | nil => rfl
  | cons first pieces ih =>
    rw [List.cons_append, chain, List.getLast?_cons, ih]
    rfl

theorem reduced_last (reduced : Reduced seed) (pieces : List (Option Bytes)) : Reduced (last seed pieces) := by
  induction pieces generalizing seed with
  | nil => exact reduced
  | cons piece pieces ih => exact ih (reduced_resume reduced piece)

theorem origin_concat_none (seed : Int) (pieces : List (Option Bytes)) :
    origin seed (pieces ++ [none]) = ofNothing := by
  simp [origin]

theorem origin_concat_some (seed : Int) (pieces : List (Option Bytes)) (data : Bytes) :
    origin seed (pieces ++ [some data]) = origin seed pieces := by
  simp [origin]

theorem recent_concat_none (pieces : List (Option Bytes)) : recent (pieces ++ [none]) = [] := by
  rw [recent, List.rtakeWhile_concat_neg _ _ _ (by simp)]
  rfl

theorem recent_concat_some (pieces : List (Option Bytes)) (data : Bytes) :
    recent (pieces ++ [some data]) = recent pieces ++ data := by
  rw [recent, List.rtakeWhile_concat_pos _ _ _ rfl, List.reduceOption_append, List.flatten_append]
  simp [recent]

/-- What a chain has come to is, to all that follows, the checksum of the bytes that count. -/
theorem resume_last (reduced : Reduced seed) (pieces : List (Option Bytes)) (data : Bytes) :
    resume (last seed pieces) (some data) = resume (origin seed pieces) (some (recent pieces ++ data)) := by
  induction pieces using List.reverseRecOn generalizing data with
  | nil => rfl
  | append_singleton pieces piece ih =>
    rw [last_concat]
    cases piece with
    | none =>
      rw [origin_concat_none, recent_concat_none]
      rfl
    | some bytes =>
      rw [resume_resume_of_reduced (reduced_last reduced pieces), ih, origin_concat_some, recent_concat_some,
        List.append_assoc]

/-- A chain of checksums ends in that of all bytes behind the last absent piece, in whatever pieces they came; and a
seed with both halves reduced is followed by such checksums only. -/
theorem chain_ends_as_whole (reduced : Reduced seed) {pieces : List (Option Bytes)} (present : pieces ≠ []) :
    (chain seed pieces).getLast? = some (resume (origin seed pieces) (some (recent pieces))) ∧
      ∀ value ∈ chain seed pieces, Reduced value := by
  refine ⟨?_, reduced_chain reduced pieces⟩
  obtain ⟨before, piece, rfl⟩ := (List.eq_nil_or_concat pieces).resolve_left present
  rw [List.concat_eq_append, getLast?_chain_concat]
  cases piece with
  | none =>
    rw [origin_concat_none, recent_concat_none]
    rfl
  | some data => rw [resume_last reduced, origin_concat_some, recent_concat_some]

/-- Pieces of all lengths, two of them empty, on either side of an absent one. -/
theorem chain_ends_as_whole_restarted :
    Reduced (-0x10000000) ∧ [some [7], none, some [], some [1], some [2, 3], some []] ≠ [] ∧
      (chain (-0x10000000) [some [7], none, some [], some [1], some [2, 3], some []]).getLast? =
        some (resume 1 (some [1, 2, 3])) :=
  have reduced : Reduced (-0x10000000) := by decide
  ⟨reduced, by decide, (chain_ends_as_whole reduced (by decide)).1⟩

end CacheSeal.Proofs.ChecksumChains
