import CacheSeal.Text.Blank
import CacheSeal.Text.Digit

/-!
Whole numbers as people write them: blanks around, a sign, the mark of the base, underscores between digits, and
decimal digits of any script.
-/

namespace CacheSeal.Numeral

/-- Blanks and digits from outside ASCII become those of ASCII. What is within it stays as it is, so the controls that
act as separators are no blanks of a number. -/
def toAscii (text : List Char) : List Char :=
  text.map fun c =>
    if c.toNat < 128 then c
    else if Blank.isBlank c then ' '
    else match Digit.value? c with
      | some value => Char.ofNat ('0'.toNat + value)
      | none => c

/-- The value of a letter or digit in bases up to sixteen. -/
def digit? (base : Nat) (c : Char) : Option Nat :=
  let value :=
    if '0' ≤ c ∧ c ≤ '9' then c.toNat - '0'.toNat
    else if 'a' ≤ c ∧ c ≤ 'f' then c.toNat - 'a'.toNat + 10
    else if 'A' ≤ c ∧ c ≤ 'F' then c.toNat - 'A'.toNat + 10
    else base
  if value < base then some value else none

/-- Digits, at least one, with single underscores between them. -/
def digits? (base : Nat) : List Char → Option (List Nat)
  | [] => none
  | c :: rest => do
    let value ← digit? base c
    match rest with
    | [] => return [value]
    | '_' :: more => return value :: (← digits? base more)
    | next :: more => return value :: (← digits? base (next :: more))

/-- The mark of the base may stand before the digits, and one underscore between the two. -/
def dropMark (base : Nat) : List Char → List Char
  | '0' :: mark :: rest =>
    if (base = 16 ∧ (mark = 'x' ∨ mark = 'X')) ∨ (base = 8 ∧ (mark = 'o' ∨ mark = 'O'))
        ∨ (base = 2 ∧ (mark = 'b' ∨ mark = 'B')) then
      match rest with
      | '_' :: more => more
      | _ => rest
    else '0' :: mark :: rest
  | text => text

/-- A sign and what follows it. -/
def splitSign : List Char → Bool × List Char
  | '-' :: rest => (true, rest)
  | '+' :: rest => (false, rest)
  | text => (false, text)

/-- Decimal numbers with more digits than this are refused, where they are read and where they are written. -/
def maxDecimalDigits : Nat := 4300

/-- How many decimal digits a number has. -/
def digitCount (value : Int) : Nat :=
  (Nat.toDigits 10 value.natAbs).length

/-- Whether a number has few enough digits to be written. -/
def isWritten (value : Int) : Bool :=
  digitCount value ≤ maxDecimalDigits

def magnitude (base : Nat) (digits : List Nat) : Nat :=
  digits.foldl (fun total digit => total * base + digit) 0

/-- A sign, if there is one, and digits, of however many. -/
def whole? (base : Nat) (token : List Char) : Option Int := do
  let (negative, unsigned) := splitSign token
  let value : Int := magnitude base (← digits? base unsigned)
  return if negative then -value else value

def read? (base : Nat) (text : List Char) : Option Int := do
  let (negative, unsigned) := splitSign (Blank.strip Blank.isAscii (toAscii text))
  let digits ← digits? base (dropMark base unsigned)
  if base = 10 ∧ maxDecimalDigits < digits.length then none
  else
    let value : Int := magnitude base digits
    return if negative then -value else value

end CacheSeal.Numeral
