import CacheSeal.Value.Basic

/-!
The order of the members of a set. A set keeps them in a table of slots and shows them slot by slot. Where a number goes
follows from its value and from what is there already. Members of other kinds have no place of their own, so a set with
one of them keeps the order in which they came.
-/

namespace CacheSeal.SetOrder

/-- Numbers count by their remainder here, which a fraction has too because the modulus is odd. -/
def modulus : Nat := 0x1fffffffffffffff

/-- Doubling so many times changes no remainder. -/
def doublings : Nat := 61

/-- Codes are words of 64 bits. -/
def wordCount : Nat := 0x10000000000000000

def infinityCode : Nat := 314159

/-- A remainder with its sign, as a word. Minus one is no code. -/
def signedCode (negative : Bool) (remainder : Nat) : Nat :=
  if negative && 0 < remainder then wordCount - max remainder 2 else remainder

def doubleCode? (double : Double) : Option Nat :=
  if double.isNaN then none
  else if !double.isFinite then some (signedCode double.negative infinityCode)
  else
    let scale := Nat.pow 2 (double.exponent % doublings).toNat
    some (signedCode double.negative (double.mantissa * scale % modulus))

/-- The code of a number; equal numbers have equal codes. -/
def code? : Value → Option Nat
  | .bool value => some value.toNat
  | .int value => some (signedCode (value < 0) (value.natAbs % modulus))
  | .float value => doubleCode? (.ofFloat value)
  | _ => none

/-- Members with their codes, by slot. -/
structure Table where
  size : Nat
  slots : List (Nat × Nat × Value)

namespace Table

/-- A table for more than `count` members, its size a power of two. -/
def roomFor (count : Nat) : Table :=
  ⟨max 8 (Nat.pow 2 (count.log2 + 1)), []⟩

/-- The slots that are tried from one on: a few beside it, as long as all of them are there. -/
def neighbours (size start : Nat) : List Nat :=
  if start + 9 < size then (List.range 10).map (start + ·) else [start]

/-- The first free slot, starting from one that the code gives and going on by what is left of the code. -/
def freeSlot (table : Table) : Nat → Nat → Nat → Nat
  | 0, start, _ => start
  | steps + 1, start, code =>
    match (neighbours table.size start).find? fun slot => (table.slots.lookup slot).isNone with
    | some slot => slot
    | none =>
      let left := code / 32
      freeSlot table steps ((start * 5 + 1 + left) % table.size) left

def put (table : Table) (entry : Nat × Value) : Table :=
  let slot := table.freeSlot (table.size + doublings) (entry.1 % table.size) entry.1
  { table with slots := (slot, entry) :: table.slots }

/-- Slot by slot. -/
def toList (table : Table) : List (Nat × Value) :=
  (List.range table.size).filterMap fun slot => table.slots.lookup slot

/-- Three fifths of a table are never filled. -/
def isCrowded (size count : Nat) : Bool :=
  (size - 1) * 3 ≤ count * 5

def insert (table : Table) (entry : Nat × Value) : Table :=
  let filled := table.put entry
  let count := filled.slots.length
  if isCrowded filled.size count then filled.toList.foldl put (roomFor (4 * count)) else filled

end Table

/-- The members in the order in which they are shown. -/
def arrange (members : List Value) : List Value :=
  match members.mapM fun member => (code? member).map (·, member) with
  | none => members
  | some entries =>
    let room := if Table.isCrowded 8 entries.length then 2 * entries.length else 0
    ((entries.foldl Table.insert (.roomFor room)).toList).map (·.2)

end CacheSeal.SetOrder
