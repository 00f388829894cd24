/-!
Double-precision numbers by their three fields. A finite one is a mantissa times a power of two; exponents from the
second on have a leading one in the mantissa that is not among the bits.
-/

namespace CacheSeal

structure Double where
  negative : Bool
  exponentField : Nat
  fraction : Nat
deriving DecidableEq, Repr

namespace Double

/-- The number of fractions, which is also the leading one of a mantissa. -/
def fractionCount : Nat := 0x10000000000000

def exponentCount : Nat := 0x800

def ofFloat (value : Float) : Double :=
  let bits := value.toBits.toNat
  ⟨fractionCount * exponentCount ≤ bits, bits / fractionCount % exponentCount, bits % fractionCount⟩

def isFinite (double : Double) : Bool :=
  double.exponentField ≠ exponentCount - 1

def isZero (double : Double) : Bool :=
  double.exponentField = 0 && double.fraction = 0

/-- No number at all. -/
def isNaN (double : Double) : Bool :=
  !double.isFinite && double.fraction ≠ 0

def mantissa (double : Double) : Nat :=
  if double.exponentField = 0 then double.fraction else fractionCount + double.fraction

/-- The magnitude is `mantissa * 2 ^ exponent`. -/
def exponent (double : Double) : Int :=
  max double.exponentField 1 - 1075

/-- The magnitude if it is whole. -/
def wholeMagnitude? (double : Double) : Option Nat :=
  let shift := double.exponent
  let scaled := double.mantissa * Nat.pow 2 shift.toNat
  let unit := Nat.pow 2 (-shift).toNat
  if double.isFinite && scaled % unit = 0 then some (scaled / unit) else none

def whole? (double : Double) : Option Int :=
  double.wholeMagnitude?.map fun magnitude => if double.negative then -Int.ofNat magnitude else Int.ofNat magnitude

end Double

end CacheSeal
