/-!
Days and instants of the Gregorian calendar, from year 1 to year 9999.
-/

namespace CacheSeal

structure Date where
  year : Nat
  month : Nat
  day : Nat
deriving DecidableEq, Repr

namespace Date

def isLeap (year : Nat) : Bool :=
  year % 4 = 0 && (year % 100 ≠ 0 || year % 400 = 0)

def daysInMonth (year month : Nat) : Nat :=
  if month = 2 then if isLeap year then 29 else 28
  else if [4, 6, 9, 11].contains month then 30
  else 31

def isValid (date : Date) : Bool :=
  1 ≤ date.year && date.year ≤ 9999 && 1 ≤ date.month && date.month ≤ 12
    && 1 ≤ date.day && date.day ≤ daysInMonth date.year date.month

/-- Days since the last day before year 1. -/
def ordinal (date : Date) : Nat :=
  let past := date.year - 1
  365 * past + past / 4 - past / 100 + past / 400
    + (List.range (date.month - 1)).foldl (fun days month => days + daysInMonth date.year (month + 1)) date.day

end Date

structure Time where
  hour : Nat
  minute : Nat
  second : Nat
  microsecond : Nat
deriving DecidableEq, Repr

def Time.isValid (time : Time) : Bool :=
  time.hour < 24 && time.minute < 60 && time.second < 60 && time.microsecond < 1000000

/-- A point in time; `offset` is that of its clock from universal time in seconds, if it is known. -/
structure Timestamp where
  date : Date
  time : Time
  offset : Option Int
deriving DecidableEq, Repr

namespace Timestamp

/-- A clock is less than a day off. -/
def isValid (stamp : Timestamp) : Bool :=
  stamp.date.isValid && stamp.time.isValid
    && match stamp.offset with
      | some offset => offset.natAbs < 86400
      | none => true

/-- Microseconds on the clock of the timestamp. -/
def clock (stamp : Timestamp) : Int :=
  let time := stamp.time
  ((stamp.date.ordinal * 24 + time.hour) * 60 + time.minute) * 60000000 + time.second * 1000000 + time.microsecond

/-- Timestamps with a known offset are the same when they are the same instant. -/
def same (left right : Timestamp) : Bool :=
  match left.offset, right.offset with
  | some leftOffset, some rightOffset =>
    left.clock - leftOffset * 1000000 == right.clock - rightOffset * 1000000
  | none, none => left.clock == right.clock
  | _, _ => false

end Timestamp

end CacheSeal
