import CacheSeal.Decimal.Reader
import CacheSeal.Text.Base64
import CacheSeal.Text.LowerCase
import CacheSeal.Value.Basic
import CacheSeal.Yaml.Error
import CacheSeal.Yaml.Resolution

/-!
The values of scalars. A scalar that has its tag by the document and not by its own text may fail to suit it.
-/

namespace CacheSeal.Yaml.Scalar

private def withoutUnderscores (text : Text) : Except Error (List Char) :=
  match text.toChars? with
  | some chars => .ok (chars.filter (· ≠ '_'))
  | none => .error .badDigits

private def withSign (chars : List Char) : Except Error (Bool × List Char) :=
  match chars with
  | [] => .error .noDigits
  | '-' :: rest => .ok (true, rest)
  | '+' :: rest => .ok (false, rest)
  | rest => .ok (false, rest)

private def number (base : Nat) (chars : List Char) : Except Error Int :=
  match Numeral.read? base chars with
  | some value => .ok value
  | none => .error .badDigits

/-- The base is told by the first characters; with colons the parts count in sixties. -/
private def wholeNumber (unsigned : List Char) : Except Error Int := do
  match unsigned with
  | [] => throw .noDigits
  | ['0'] => return 0
  | '0' :: 'b' :: rest => number 2 rest
  | '0' :: 'x' :: rest => number 16 rest
  | '0' :: rest => number 8 ('0' :: rest)
  | _ =>
    if unsigned.contains ':' then
      let parts ← (unsigned.splitOn ':').mapM (number 10)
      return parts.foldl (fun total part => total * 60 + part) 0
    else number 10 unsigned

def int (text : Text) : Except Error Value := do
  let (negative, unsigned) ← withSign (← withoutUnderscores text)
  let value ← wholeNumber unsigned
  return .int (if negative then -value else value)

private def pointNumber (chars : List Char) : Except Error Float :=
  match Decimal.read? chars with
  | some value => .ok value
  | none => .error .badDigits

/-- Parts count by powers of sixty, from the last part on. The powers are exact and the sums rounded; a power too large
for a number with a point is a fault whatever its part is. -/
private def sumOfSixties : List Float → Nat → Float → Except Error Float
  | [], _, total => .ok total
  | part :: parts, unit, total =>
    let factor := Decimal.ofDigits unit 0
    if (Double.ofFloat factor).isFinite then sumOfSixties parts (unit * 60) (total + part * factor)
    else .error .tooLarge

/-- The word for no number is the same one wherever it stands; any other that is none has the node for its source. -/
def float (number : Nat) (text : Text) : Except Error Value := do
  let (negative, unsigned) ← withSign (← withoutUnderscores text.lower)
  if unsigned = ".nan".toList then return .nan 0
  let value ←
    if unsigned = ".inf".toList then pure (1.0 / 0.0)
    else if unsigned.contains ':' then do
      let parts ← (unsigned.splitOn ':').mapM pointNumber
      sumOfSixties parts.reverse 1 0
    else pointNumber unsigned
  return .ofFloat (number + 1) (if negative then -value else value)

def bool (text : Text) : Except Error Value :=
  let word := text.lower
  match truthWords.find? fun entry => .ofString entry.1 = word with
  | some entry => .ok (.bool entry.2)
  | none => .error (.noTruthWord word)

def binary (text : Text) : Except Error Value :=
  match text.toChars? with
  | some chars =>
    if chars.all (·.toNat < 128) then
      match Base64.toBytes? chars with
      | some data => .ok (.bytes data)
      | none => .error .malformed
    else .error .malformed
  | none => .error .malformed

def timestamp (text : Text) : Except Error Value := do
  match text.toChars?.bind TimestampParts.read? with
  | none => throw .noTimestamp
  | some parts =>
    match parts.clock with
    | none => if parts.date.isValid then return .date parts.date else throw .badDigits
    | some (time, offset) =>
      let stamp : Timestamp := ⟨parts.date, time, offset⟩
      if stamp.isValid then return .timestamp stamp else throw .badDigits

/-- The value of the scalar with this number by its tag; the tags of containers have none for a scalar. -/
def value (number : Nat) (tag : Tag) (text : Text) : Except Error Value :=
  match tag with
  | .null => .ok .null
  | .bool => bool text
  | .int => int text
  | .float => float number text
  | .binary => binary text
  | .timestamp => timestamp text
  | .str => .ok (.str text)
  | _ => .error .malformed

end CacheSeal.Yaml.Scalar
