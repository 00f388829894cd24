import CacheSeal.Bytes

/-!
The rolling checksum that seals a cache: two sums modulo 65521, the first over the bytes and the second over the
first. A run may be resumed from the checksum of what went before. Short inputs are reduced by subtraction, long
ones once per block, and the block is as long as the unreduced sums allow within 32 bits.
-/

namespace CacheSeal.Checksum

/-- The largest prime below 65536. -/
def base : Nat := 65521

/-- The largest `n` with `255 * n * (n + 1) / 2 + (n + 1) * (base - 1) < 2 ^ 32`. -/
def blockLength : Nat := 5552

/-- Inputs shorter than this take the short path. -/
def shortLength : Nat := 16

/-- The number of values of a half of the checksum. -/
def halfCount : Nat := 0x10000

/-- The checksum of nothing at all, and what a stored checksum is for an empty region. -/
def ofNothing : Nat := 1

/-- The two running sums, reduced or not. -/
structure Sums where
  low : Nat
  high : Nat
deriving DecidableEq, Repr

namespace Sums

/-- The halves of the seed as a 32-bit word. They need not be below `base`. -/
def ofSeed (seed : Int) : Sums :=
  let word := (seed % 0x100000000).toNat
  ⟨word % halfCount, word / halfCount⟩

/-- The byte feeds the low sum, and the low sum so increased feeds the high one. -/
def feed (sums : Sums) (byte : UInt8) : Sums :=
  ⟨sums.low + byte.toNat, sums.high + (sums.low + byte.toNat)⟩

def feedAll (sums : Sums) (data : Bytes) : Sums :=
  data.foldl feed sums

def reduce (sums : Sums) : Sums :=
  ⟨sums.low % base, sums.high % base⟩

/-- One subtraction, which is a full reduction below `2 * base` only. -/
def reduceOnce (sum : Nat) : Nat :=
  if base ≤ sum then sum - base else sum

def word (sums : Sums) : Nat :=
  sums.low + halfCount * sums.high

/-- Whole blocks first, so many of them, reduced one by one; a rest, if there is one, is reduced at its end. -/
def feedBlocks : Nat → Sums → Bytes → Sums
  | 0, sums, data => if data.isEmpty then sums else (sums.feedAll data).reduce
  | blocks + 1, sums, data =>
    feedBlocks blocks (sums.feedAll (data.take blockLength)).reduce (data.drop blockLength)

end Sums

/-- A single byte: both sums are reduced by one subtraction, so the high half may stay above `base`. -/
def resumeByte (sums : Sums) (byte : UInt8) : Nat :=
  let low := Sums.reduceOnce (sums.low + byte.toNat)
  Sums.word ⟨low, Sums.reduceOnce (sums.high + low)⟩

/-- Up to fifteen bytes add less than `base` to the low sum, but the high sum may hold several multiples of it. -/
def resumeShort (sums : Sums) (data : Bytes) : Nat :=
  let fed := sums.feedAll data
  Sums.word ⟨Sums.reduceOnce fed.low, fed.high % base⟩

def resumeLong (sums : Sums) (data : Bytes) : Nat :=
  (Sums.feedBlocks (data.length / blockLength) sums data).word

/-- Continues the checksum `seed` over `data`; without data the answer is that of nothing, whatever the seed. -/
def resume (seed : Int) : Option Bytes → Nat
  | none => ofNothing
  | some [byte] => resumeByte (.ofSeed seed) byte
  | some data =>
    if data.length < shortLength then resumeShort (.ofSeed seed) data else resumeLong (.ofSeed seed) data

/-- The checksum stored for a region: seeded with zero, except that an empty region has that of nothing. -/
def compute (region : Bytes) : Nat :=
  if region.isEmpty then ofNothing else resume 0 (some region)

end CacheSeal.Checksum
