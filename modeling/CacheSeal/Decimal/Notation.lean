import CacheSeal.Decimal.Shortest

/-!
How floating-point numbers are written: the fewest digits that read back, with a point or an exponent in any case, so
that no such number looks like a whole one.
-/

namespace CacheSeal.Decimal

/-- Where positional notation ends, and how an exponent is written. -/
structure Notation where
  lowest : Int
  beyond : Int
  exponentWidth : Nat

/-- Positional from `0.0001` up to below `10 ^ 16`; an exponent has a sign and two digits at least. -/
def standard : Notation :=
  ⟨-4, 16, 2⟩

def wholeDigits (value : Nat) : List Char :=
  Nat.toDigits 10 value

def exponentText (style : Notation) (exponent : Int) : List Char :=
  let shown := wholeDigits exponent.natAbs
  (if exponent < 0 then '-' else '+') :: List.replicate (style.exponentWidth - shown.length) '0' ++ shown

/-- The text of a positive decimal. -/
def Notation.write (style : Notation) (decimal : Decimal) : List Char :=
  let shown := wholeDigits decimal.digits
  let point : Int := shown.length + decimal.exponent
  let leading := point - 1
  if style.lowest ≤ leading ∧ leading < style.beyond then
    if point ≤ 0 then '0' :: '.' :: List.replicate (-point).toNat '0' ++ shown
    else if shown.length ≤ point.toNat then shown ++ List.replicate (point.toNat - shown.length) '0' ++ ['.', '0']
    else shown.take point.toNat ++ '.' :: shown.drop point.toNat
  else
    let tail := shown.drop 1
    shown.take 1 ++ (if tail.isEmpty then [] else '.' :: tail) ++ 'e' :: exponentText style leading

/-- The words for what has no digits. -/
structure Words where
  nan : String
  infinity : String

def write (words : Words) (value : Float) : String :=
  let double := Double.ofFloat value
  if double.isNaN then words.nan
  else
    let magnitude :=
      if !double.isFinite then words.infinity.toList
      else if double.isZero then ['0', '.', '0']
      else standard.write (Binary.ofDouble double).shortest
    String.ofList (if double.negative then '-' :: magnitude else magnitude)

end CacheSeal.Decimal
