import CacheSeal.Bytes

/-!
Hexadecimal digits, and the padded words that reports show.
-/

namespace CacheSeal.Hex

inductive Letters where
  | upper
  | lower
deriving DecidableEq

/-- The digit of a value below sixteen. -/
def digit (letters : Letters) (value : Nat) : Char :=
  if value < 10 then Char.ofNat ('0'.toNat + value)
  else match letters with
    | .upper => Char.ofNat ('A'.toNat + (value - 10))
    | .lower => Char.ofNat ('a'.toNat + (value - 10))

def digits (letters : Letters) (value : Nat) : List Char :=
  if value < 16 then [digit letters value]
  else digits letters (value / 16) ++ [digit letters (value % 16)]

/-- Digits led by zeros up to `width`, and longer where the value needs it. -/
def padded (letters : Letters) (width value : Nat) : List Char :=
  let shown := digits letters value
  List.replicate (width - shown.length) '0' ++ shown

/-- The last so many digits. -/
def lastDigits (letters : Letters) : Nat → Nat → List Char
  | 0, _ => []
  | width + 1, value => lastDigits letters width (value / 16) ++ [digit letters (value % 16)]

/-- A number as reports show it: eight upper-case digits, of which a minus sign takes one. -/
def word : Int → String
  | .ofNat value => String.ofList ('0' :: 'x' :: padded .upper 8 value)
  | .negSucc value => String.ofList ('0' :: 'x' :: '-' :: padded .upper 7 (value + 1))

/-- Two lower-case digits a byte. -/
def ofBytes (data : Bytes) : String :=
  String.ofList (data.flatMap fun byte => padded .lower 2 byte.toNat)

def value? (c : Char) : Option Nat :=
  if '0' ≤ c ∧ c ≤ '9' then some (c.toNat - '0'.toNat)
  else if 'a' ≤ c ∧ c ≤ 'f' then some (c.toNat - 'a'.toNat + 10)
  else if 'A' ≤ c ∧ c ≤ 'F' then some (c.toNat - 'A'.toNat + 10)
  else none

def toBytes? : List Char → Option Bytes
  | [] => some []
  | high :: low :: rest => do
    let byte := UInt8.ofNat (16 * (← value? high) + (← value? low))
    return byte :: (← toBytes? rest)
  | [_] => none

end CacheSeal.Hex
