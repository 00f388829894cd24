import CacheSeal.Decimal.Notation
import CacheSeal.Nesting
import CacheSeal.Numeral
import CacheSeal.Text.Quoted
import CacheSeal.Value.Basic

/-!
Values as messages show them, and keys as they are compared with the names of settings. Whole numbers are shown up to a
number of digits and no further, and containers up to a depth.
-/

namespace CacheSeal.Value

def floatWords : Decimal.Words :=
  ⟨"nan", "inf"⟩

private def byteText (mark : Char) (byte : UInt8) : List Char :=
  let c := Char.ofNat byte.toNat
  if c = '\t' then ['\\', 't']
  else if c = '\n' then ['\\', 'n']
  else if c = '\r' then ['\\', 'r']
  else if c = '\\' ∨ c = mark then ['\\', c]
  else if ' ' ≤ c ∧ c ≤ '~' then [c]
  else '\\' :: 'x' :: Hex.padded .lower 2 byte.toNat

def bytesText (data : Bytes) : String :=
  let mark := if data.contains 39 && !data.contains 34 then '"' else '\''
  String.ofList ('b' :: mark :: data.flatMap (byteText mark) ++ [mark])

private def dropZero : List Nat → List Nat
  | 0 :: rest => rest
  | numbers => numbers

/-- Seconds and microseconds are left out when they are zero, the seconds only together with the microseconds. -/
private def timeParts (time : Time) : List Nat :=
  let fine := if time.microsecond = 0 then dropZero [time.second] else [time.second, time.microsecond]
  [time.hour, time.minute] ++ fine

private def offsetText (offset : Int) : String :=
  if offset = 0 then "datetime.timezone.utc"
  else if offset < 0 then
    s!"datetime.timezone(datetime.timedelta(days=-1, seconds={offset + 86400}))"
  else s!"datetime.timezone(datetime.timedelta(seconds={offset}))"

def timestampText (stamp : Timestamp) : String :=
  let date := stamp.date
  let numbers := [date.year, date.month, date.day] ++ timeParts stamp.time
  let zone := match stamp.offset with
    | some offset => ", tzinfo=" ++ offsetText offset
    | none => ""
  s!"datetime.datetime({commaList (numbers.map toString)}{zone})"

def toText : Value → String
  | null => "None"
  | bool true => "True"
  | bool false => "False"
  | int value => toString value
  | float value => Decimal.write floatWords value
  | nan _ => floatWords.nan
  | str value => value.quoted
  | bytes value => bytesText value
  | date value => s!"datetime.date({value.year}, {value.month}, {value.day})"
  | timestamp value => timestampText value
  | list _ item => "[" ++ commaList (List.ofFn fun place => (item place).toText) ++ "]"
  | map _ key item =>
    "\x7b" ++ commaList (List.ofFn fun place => (key place).toText ++ ": " ++ (item place).toText) ++ "\x7d"
  | set 0 _ => "set()"
  | set (_ + 1) item => "\x7b" ++ commaList (List.ofFn fun place => (item place).toText) ++ "\x7d"
  | pair first second => "(" ++ first.toText ++ ", " ++ second.toText ++ ")"
  | listAgain => "[...]"
  | mapAgain => "\x7b...\x7d"

/-- Numbers from this on have too many digits to be shown. -/
def hugeMagnitude : Nat := Nat.pow 10 Numeral.maxDecimalDigits

/-- Why a value cannot be shown. -/
inductive Unshowable where
  | hugeNumber
  | tooDeep
deriving DecidableEq, Repr

/-- Looks for what cannot be shown, in the order in which it would be shown and no further than to the first such place.
So many containers may lie within each other. -/
def checkWithin : Nat → Value → Except Unshowable Unit
  | _, int value => if value.natAbs < hugeMagnitude then .ok () else .error .hugeNumber
  | 0, list _ _ | 0, map _ _ _ | 0, set _ _ | 0, pair _ _ => .error .tooDeep
  | below + 1, list count item | below + 1, set count item =>
    (List.finRange count).forM fun place => (item place).checkWithin below
  | below + 1, map count key item =>
    (List.finRange count).forM fun place => do
      (key place).checkWithin below
      (item place).checkWithin below
  | below + 1, pair first second => do
    first.checkWithin below
    second.checkWithin below
  | _, _ => .ok ()

def checkShowable (value : Value) : Except Unshowable Unit :=
  value.checkWithin maxNesting

private def twoDigits (value : Nat) : String :=
  if value < 10 then s!"0{value}" else toString value

private def leadingZeros (width value : Nat) : String :=
  let shown := toString value
  String.ofList (List.replicate (width - shown.length) '0') ++ shown

private def dateKey (date : Date) : String :=
  s!"{leadingZeros 4 date.year}-{twoDigits date.month}-{twoDigits date.day}"

private def timestampKey (stamp : Timestamp) : String :=
  let time := stamp.time
  let fraction := if time.microsecond = 0 then "" else "." ++ leadingZeros 6 time.microsecond
  let zone := match stamp.offset with
    | none => ""
    | some offset =>
      let sign := if offset < 0 then "-" else "+"
      let minutes := offset.natAbs / 60
      s!"{sign}{twoDigits (minutes / 60)}:{twoDigits (minutes % 60)}"
  s!"{dateKey stamp.date} {twoDigits time.hour}:{twoDigits time.minute}:{twoDigits time.second}{fraction}{zone}"

/-- The name that a key stands for: text is its own name, and any other key has that of its printed form. -/
def name : Value → Text
  | str value => value
  | date value => .ofString (dateKey value)
  | timestamp value => .ofString (timestampKey value)
  | value => .ofString value.toText

end CacheSeal.Value
