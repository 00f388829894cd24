import CacheSeal.Calendar

/-!
Timestamps as text: a date, or a date with a clock, a fraction of a second and an offset from universal time.
-/

namespace CacheSeal.Yaml

structure TimestampParts where
  date : Date
  /-- The date has two digits for the month and two for the day. -/
  isPadded : Bool
  clock : Option (Time × Option Int)

namespace TimestampParts

private def number (digits : List Char) : Nat :=
  digits.foldl (fun total digit => total * 10 + (digit.toNat - '0'.toNat)) 0

/-- Between `least` and `most` digits from the start of the text, as many as there are; and what follows them. -/
private def digits? (least most : Nat) (text : List Char) : Option (List Char × List Char) :=
  let taken := (text.take most).takeWhile Char.isDigit
  if least ≤ taken.length then some (taken, text.drop taken.length) else none

private def after? (mark : Char) : List Char → Option (List Char)
  | c :: rest => if c = mark then some rest else none
  | [] => none

private def isBlank (c : Char) : Bool :=
  c = ' ' || c = '\t'

private def readDate? (text : List Char) : Option (Date × Bool × List Char) := do
  let (year, rest) ← digits? 4 4 text
  let (month, rest) ← digits? 1 2 (← after? '-' rest)
  let (day, rest) ← digits? 1 2 (← after? '-' rest)
  return (⟨number year, number month, number day⟩, month.length = 2 && day.length = 2, rest)

/-- Six digits of the fraction count. -/
private def microseconds (fraction : List Char) : Nat :=
  let counted := fraction.take 6
  number (counted ++ List.replicate (6 - counted.length) '0')

private def readOffset? (text : List Char) : Option Int := do
  match text with
  | ['Z'] => some 0
  | sign :: rest =>
    if sign ≠ '+' ∧ sign ≠ '-' then none
    let (hours, rest) ← digits? 1 2 rest
    let minutes ←
      if rest.isEmpty then some 0
      else do
        let (minutes, rest) ← digits? 2 2 (← after? ':' rest)
        if rest.isEmpty then some (number minutes) else none
    let seconds : Int := number hours * 3600 + minutes * 60
    return if sign = '-' then -seconds else seconds
  | [] => none

private def readClock? (text : List Char) : Option (Time × Option Int) := do
  let (hour, rest) ← digits? 1 2 text
  let (minute, rest) ← digits? 2 2 (← after? ':' rest)
  let (second, rest) ← digits? 2 2 (← after? ':' rest)
  let (fraction, rest) := match rest with
    | '.' :: rest => (rest.takeWhile Char.isDigit, rest.dropWhile Char.isDigit)
    | rest => ([], rest)
  let time : Time := ⟨number hour, number minute, number second, microseconds fraction⟩
  if rest.isEmpty then return (time, none)
  else return (time, some (← readOffset? (rest.dropWhile isBlank)))

def readExact? (text : List Char) : Option TimestampParts := do
  let (date, isPadded, rest) ← readDate? text
  match rest with
  | [] => return ⟨date, isPadded, none⟩
  | c :: following =>
    if c = 'T' ∨ c = 't' then return ⟨date, isPadded, some (← readClock? following)⟩
    else if isBlank c then return ⟨date, isPadded, some (← readClock? (following.dropWhile isBlank))⟩
    else none

/-- A line feed may end the text. -/
def read? (text : List Char) : Option TimestampParts :=
  readExact? (if text.getLast? = some '\n' then text.dropLast else text)

/-- Without a clock only the padded form is one by itself; the other needs its tag. -/
def isPlain (parts : TimestampParts) : Bool :=
  parts.isPadded || parts.clock.isSome

end TimestampParts

end CacheSeal.Yaml
