/-!
The forms by which a scalar without quotes is a number. Whole numbers have a base by their first characters, and
numbers with a point need it; both may count in sixties, with colons between the parts.
-/

namespace CacheSeal.Yaml.Form

private def isDigitOrUnderscore (c : Char) : Bool :=
  c.isDigit || c = '_'

def dropSign : List Char → List Char
  | '-' :: rest => rest
  | '+' :: rest => rest
  | text => text

/-- A digit, and after it digits and underscores. -/
private def isRun : List Char → Bool
  | [] => false
  | c :: rest => c.isDigit && rest.all isDigitOrUnderscore

/-- Such a run that does not start with zero. -/
private def isCounting : List Char → Bool
  | [] => false
  | c :: rest => c.isDigit && c ≠ '0' && rest.all isDigitOrUnderscore

/-- One digit, or two below sixty. -/
private def isSixtieth : List Char → Bool
  | [c] => c.isDigit
  | [c, d] => '0' ≤ c && c ≤ '5' && d.isDigit
  | _ => false

private def nonemptyAll (text : List Char) (test : Char → Bool) : Bool :=
  !text.isEmpty && text.all test

private def isHexOrUnderscore (c : Char) : Bool :=
  isDigitOrUnderscore c || ('a' ≤ c && c ≤ 'f') || ('A' ≤ c && c ≤ 'F')

def isInt (text : List Char) : Bool :=
  match dropSign text with
  | '0' :: 'b' :: rest => nonemptyAll rest fun c => c = '0' || c = '1' || c = '_'
  | '0' :: 'x' :: rest => nonemptyAll rest isHexOrUnderscore
  | ['0'] => true
  | '0' :: rest => rest.all fun c => ('0' ≤ c && c ≤ '7') || c = '_'
  | unsigned =>
    match unsigned.splitOn ':' with
    | [] => false
    | leading :: sixtieths => isCounting leading && sixtieths.all isSixtieth

/-- Nothing, or an exponent with a sign. -/
private def isSignedExponent : List Char → Bool
  | [] => true
  | mark :: sign :: rest =>
    (mark = 'e' || mark = 'E') && (sign = '-' || sign = '+') && nonemptyAll rest Char.isDigit
  | [_] => false

/-- What may follow the point: digits, and an exponent. -/
private def isFraction (text : List Char) : Bool :=
  isSignedExponent (text.dropWhile isDigitOrUnderscore)

private def isPointed (unsigned : List Char) : Bool :=
  let whole := unsigned.takeWhile isDigitOrUnderscore
  match unsigned.drop whole.length with
  | '.' :: rest => isRun whole && isFraction rest
  | _ => false

private def isSexagesimal (unsigned : List Char) : Bool :=
  let whole := unsigned.takeWhile (· ≠ '.')
  match unsigned.drop whole.length, whole.splitOn ':' with
  | '.' :: rest, leading :: sixtieth :: sixtieths =>
    isRun leading && (sixtieth :: sixtieths).all isSixtieth && rest.all isDigitOrUnderscore
  | _, _ => false

private def isInfinity (unsigned : List Char) : Bool :=
  [".inf".toList, ".Inf".toList, ".INF".toList].contains unsigned

private def isNaN (text : List Char) : Bool :=
  [".nan".toList, ".NaN".toList, ".NAN".toList].contains text

/-- A number without a whole part has no sign. -/
private def isBareFraction : List Char → Bool
  | '.' :: c :: rest => c.isDigit && isFraction rest
  | _ => false

def isFloat (text : List Char) : Bool :=
  let unsigned := dropSign text
  isPointed unsigned || isSexagesimal unsigned || isInfinity unsigned || isNaN text || isBareFraction text

end CacheSeal.Yaml.Form
