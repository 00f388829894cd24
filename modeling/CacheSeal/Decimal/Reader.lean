import CacheSeal.Numeral

/-!
Reading floating-point numbers: digits with a point, an exponent, or the words for infinity and for no number.
-/

namespace CacheSeal.Decimal

/-- The number `digits * 10 ^ exponent`, rounded. Far outside the range the answer is known without computing. -/
def ofDigits (digits : Nat) (exponent : Int) : Float :=
  let leading := (Nat.toDigits 10 digits).length + exponent
  if digits = 0 ∨ leading < -400 then 0.0
  else if 400 < leading then 1.0 / 0.0
  else if exponent < 0 then Float.ofScientific digits true exponent.natAbs
  else Float.ofScientific digits false exponent.toNat

/-- No number halfway between two doubles has as many digits. -/
private def digitsKept : Nat := 800

/-- The number that the digits make before an exponent of ten, rounded. Of the digits behind those kept it only counts
whether one of them is not zero, and then a single one stands for them all. -/
private def ofPlaces (digits : List Nat) (exponent : Int) : Float :=
  let (kept, beyond) := (digits.dropWhile (· = 0)).splitAt digitsKept
  if beyond.all (· = 0) then ofDigits (Numeral.magnitude 10 kept) (exponent + beyond.length)
  else ofDigits (Numeral.magnitude 10 (kept ++ [1])) (exponent + beyond.length - 1)

private def startsWithDigit : List Char → Bool
  | [] => false
  | c :: _ => (Numeral.digit? 10 c).isSome

/-- Digits, and underscores that a digit follows. -/
private def takeRun : List Char → List Nat × List Char
  | [] => ([], [])
  | c :: rest =>
    match Numeral.digit? 10 c with
    | some value => let (values, left) := takeRun rest; (value :: values, left)
    | none => if c = '_' && startsWithDigit rest then takeRun rest else ([], c :: rest)

/-- Digits from the start of the text, a single underscore allowed between two of them; and the rest. -/
private def takeDigits (text : List Char) : List Nat × List Char :=
  if startsWithDigit text then takeRun text else ([], text)

private def exponent? : List Char → Option Int
  | [] => some 0
  | mark :: rest =>
    if mark = 'e' ∨ mark = 'E' then
      let (negative, unsigned) := Numeral.splitSign rest
      match takeDigits unsigned with
      | ([], _) => none
      | (values, []) =>
        let value : Int := Numeral.magnitude 10 values
        some (if negative then -value else value)
      | _ => none
    else none

private def magnitude? (text : List Char) : Option Float := do
  let (whole, rest) := takeDigits text
  let (fraction, rest) := match rest with
    | '.' :: rest => takeDigits rest
    | _ => ([], rest)
  if whole.isEmpty && fraction.isEmpty then none
  else
    let exponent ← exponent? rest
    return ofPlaces (whole ++ fraction) (exponent - fraction.length)

/-- Letters may be of either case, and blanks may stand around. -/
def read? (text : List Char) : Option Float := do
  let (negative, unsigned) := Numeral.splitSign (Blank.strip Blank.isAscii (Numeral.toAscii text))
  let word := String.ofList (unsigned.map Char.toLower)
  let value ←
    if word = "inf" ∨ word = "infinity" then some (1.0 / 0.0)
    else if word = "nan" then some (0.0 / 0.0)
    else magnitude? unsigned
  return if negative then -value else value

end CacheSeal.Decimal
