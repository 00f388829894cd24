import CacheSeal.Decimal.Reader
import CacheSeal.Json.Basic
import CacheSeal.Text.Hex

/-!
Reading JSON. The words for infinity and for no number are accepted beside the numbers.
-/

namespace CacheSeal.Json

def skipBlanks (text : List Char) : List Char :=
  text.dropWhile fun c => c = ' ' || c = '\t' || c = '\n' || c = '\r'

/-- What follows `word`, if the text starts with it. -/
def after? : List Char → List Char → Option (List Char)
  | [], text => some text
  | c :: word, d :: text => if c = d then after? word text else none
  | _ :: _, [] => none

def unit? (a b c d : Char) : Option CodePoint := do
  let value := ((← Hex.value? a) * 16 + (← Hex.value? b)) * 256 + (← Hex.value? c) * 16 + (← Hex.value? d)
  if bound : value < 0x110000 then some ⟨value, bound⟩ else none

def escape? (c : Char) : Option Char :=
  match c with
  | '"' => some '"'
  | '\\' => some '\\'
  | '/' => some '/'
  | 'b' => some '\x08'
  | 'f' => some '\x0c'
  | 'n' => some '\n'
  | 'r' => some '\r'
  | 't' => some '\t'
  | _ => none

/-- Puts an escaped unit before the text; a high half takes the low half that follows it into one code point. -/
def joinUnit (unit : CodePoint) (escapedNext : Bool) : Text → Text
  | [] => [unit]
  | next :: rest =>
    if escapedNext ∧ 0xd800 ≤ unit.val ∧ unit.val < 0xdc00 ∧ 0xdc00 ≤ next.val ∧ next.val < 0xe000 then
      let code := 0x10000 + (unit.val - 0xd800) * 0x400 + (next.val - 0xdc00)
      (if bound : code < 0x110000 then ⟨code, bound⟩ else unit) :: rest
    else unit :: next :: rest

def startsEscaped : List Char → Bool
  | '\\' :: 'u' :: _ => true
  | _ => false

/-- The text up to the closing quote, and what follows the quote. -/
def textBody : List Char → Option (Text × List Char)
  | [] => none
  | '"' :: rest => some ([], rest)
  | '\\' :: 'u' :: a :: b :: c :: d :: rest => do
    let unit ← unit? a b c d
    let (text, left) ← textBody rest
    return (joinUnit unit (startsEscaped rest) text, left)
  | '\\' :: c :: rest => do
    let meant ← escape? c
    let (text, left) ← textBody rest
    return (.ofChar meant :: text, left)
  | c :: rest => do
    if c < ' ' then none
    let (text, left) ← textBody rest
    return (.ofChar c :: text, left)

def isNumberChar (c : Char) : Bool :=
  c.isDigit || c = '-' || c = '+' || c = '.' || c = 'e' || c = 'E'

/-- Digits without needless zeros in front. -/
def startsWell : List Char → Bool
  | '0' :: c :: _ => !c.isDigit
  | c :: _ => c.isDigit
  | [] => false

def endsWell (token : List Char) : Bool :=
  match token.getLast? with
  | some c => c.isDigit
  | none => false

def number? (token : List Char) : Option Json := do
  let (_, unsigned) := Numeral.splitSign token
  if token.head? = some '+' || !startsWell unsigned || !endsWell token then none
  else if token.any fun c => c = '.' || c = 'e' || c = 'E' then float <$> Decimal.read? token
  else int <$> Numeral.whole? 10 token

mutual

/-- A document at the start of the text, and what follows it. Every step takes a character, so a text's length of
steps is enough. -/
def valueWithin : Nat → List Char → Option (Json × List Char)
  | 0, _ => none
  | steps + 1, text =>
    match skipBlanks text with
    | [] => none
    | '"' :: rest => do
      let (value, left) ← textBody rest
      return (.str value, left)
    | '[' :: rest => do
      match skipBlanks rest with
      | ']' :: left => return (list [], left)
      | _ =>
        let (items, left) ← itemsWithin steps rest
        return (list items, left)
    | '\x7b' :: rest => do
      match skipBlanks rest with
      | '\x7d' :: left => return (object [], left)
      | _ =>
        let (members, left) ← membersWithin steps rest
        return (object members, left)
    | c :: rest =>
      let word (name : String) (value : Json) := (after? name.toList (c :: rest)).map (value, ·)
      (word "null" null) <|> (word "true" (bool true)) <|> (word "false" (bool false))
        <|> (word "NaN" (float (0.0 / 0.0))) <|> (word "Infinity" (float (1.0 / 0.0)))
        <|> (word "-Infinity" (float (-1.0 / 0.0)))
        <|> do
          let token := (c :: rest).takeWhile isNumberChar
          return (← number? token, (c :: rest).dropWhile isNumberChar)

def itemsWithin : Nat → List Char → Option (List Json × List Char)
  | 0, _ => none
  | steps + 1, text => do
    let (item, rest) ← valueWithin steps text
    match skipBlanks rest with
    | ',' :: rest =>
      let (items, left) ← itemsWithin steps rest
      return (item :: items, left)
    | ']' :: left => return ([item], left)
    | _ => none

def membersWithin : Nat → List Char → Option (List (Text × Json) × List Char)
  | 0, _ => none
  | steps + 1, text => do
    match skipBlanks text with
    | '"' :: rest =>
      let (name, rest) ← textBody rest
      match skipBlanks rest with
      | ':' :: rest =>
        let (item, rest) ← valueWithin steps rest
        match skipBlanks rest with
        | ',' :: rest =>
          let (members, left) ← membersWithin steps rest
          return ((name, item) :: members, left)
        | '\x7d' :: left => return ([(name, item)], left)
        | _ => none
      | _ => none
    | _ => none

end

/-- The document that the whole text is. -/
def read? (text : String) : Option Json := do
  let chars := text.toList
  let (value, left) ← valueWithin (2 * chars.length + 2) chars
  if (skipBlanks left).isEmpty then some value else none

end CacheSeal.Json
