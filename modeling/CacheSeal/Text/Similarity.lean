/-!
How alike two sequences are. The longest block they share is matched first, then what lies left of it and what lies
right of it; alikeness is the share of elements so matched. This is not edit distance: an early long block may
part what belongs together.
-/

namespace CacheSeal.Similarity

/-- A run of equal elements: where it starts in either sequence, and how long it is. -/
structure Block where
  left : Nat
  right : Nat
  length : Nat
deriving DecidableEq, Repr

variable {α : Type} [DecidableEq α]

/-- The length of the common start. -/
def sharedLength : List α → List α → Nat
  | x :: xs, y :: ys => if x = y then sharedLength xs ys + 1 else 0
  | _, _ => 0

/-- Improves `best` by the blocks that start at the head of `left`. Only a longer block displaces an earlier one. -/
def longestAt (left : List α) (leftStart : Nat) : List α → Nat → Block → Block
  | [], _, best => best
  | y :: ys, rightStart, best =>
    let length := sharedLength left (y :: ys)
    longestAt left leftStart ys (rightStart + 1)
      (if best.length < length then ⟨leftStart, rightStart, length⟩ else best)

def longestFrom (right : List α) : List α → Nat → Block → Block
  | [], _, best => best
  | x :: xs, leftStart, best =>
    longestFrom right xs (leftStart + 1) (longestAt (x :: xs) leftStart right 0 best)

/-- The longest block; of several the one that starts first on the left, and then first on the right. -/
def longest (left right : List α) : Block :=
  longestFrom right left 0 ⟨0, 0, 0⟩

/-- Each round matches an element of `left`, so as many rounds as it has elements are enough. -/
def matchedWithin : Nat → List α → List α → Nat
  | 0, _, _ => 0
  | rounds + 1, left, right =>
    let block := longest left right
    if block.length = 0 then 0
    else matchedWithin rounds (left.take block.left) (right.take block.right) + block.length
      + matchedWithin rounds (left.drop (block.left + block.length)) (right.drop (block.right + block.length))

/-- How many elements of either sequence are matched. -/
def matched (left right : List α) : Nat :=
  matchedWithin left.length left right

/-- A ratio of alikeness, matched elements of both sequences over all elements. -/
structure Ratio where
  matched : Nat
  total : Nat

def ratio (left right : List α) : Ratio :=
  ⟨2 * matched left right, left.length + right.length⟩

namespace Ratio

def le (left right : Ratio) : Bool :=
  left.matched * right.total ≤ right.matched * left.total

/-- At least three in five. -/
def isClose (ratio : Ratio) : Bool :=
  3 * ratio.total ≤ 5 * ratio.matched

end Ratio

end CacheSeal.Similarity
