import CacheSeal.Bytes
import CacheSeal.Calendar
import CacheSeal.Double
import CacheSeal.Text.Basic

/-!
Values of a settings document: scalars, and containers of any depth. A container gives what it holds place by place, so
that only what is looked at is ever made: a document whose containers hold each other over and over amounts to more
values than could be written down. A container may be met again inside itself; such a place holds a marker in its
stead, so that no value goes down without an end.
-/

namespace CacheSeal

inductive Value where
  | null
  | bool (value : Bool)
  | int (value : Int)
  | float (value : Float)
  /-- No number. Each of its sources gives one that is the same as itself alone. -/
  | nan (source : Nat)
  | str (value : Text)
  | bytes (value : Bytes)
  | date (value : Date)
  | timestamp (value : Timestamp)
  | list (count : Nat) (item : Fin count → Value)
  | map (count : Nat) (key item : Fin count → Value)
  | set (count : Nat) (item : Fin count → Value)
  | pair (first second : Value)
  | listAgain
  | mapAgain
deriving Inhabited

namespace Value

def ofItems (items : List Value) : Value :=
  let items := items.toArray
  list items.size fun place => items[place]

def ofEntries (entries : List (Value × Value)) : Value :=
  let entries := entries.toArray
  map entries.size (fun place => entries[place].1) fun place => entries[place].2

/-- Containers may change, so they are no keys. -/
def isKey : Value → Bool
  | list _ _ | map _ _ _ | set _ _ | pair _ _ | listAgain | mapAgain => false
  | _ => true

/-- Whole numbers, and the two truth values as one and zero. -/
def whole? : Value → Option Int
  | bool value => some (if value then 1 else 0)
  | int value => some value
  | float value => (Double.ofFloat value).whole?
  | _ => none

/-- Two keys of one entry. Numbers are compared by what they amount to, whatever their kinds. -/
def sameKey (left right : Value) : Bool :=
  match left.whole?, right.whole? with
  | some leftWhole, some rightWhole => leftWhole == rightWhole
  | none, none =>
    match left, right with
    | null, null => true
    | float leftValue, float rightValue => leftValue == rightValue
    | nan leftSource, nan rightSource => leftSource == rightSource
    | str leftValue, str rightValue => leftValue == rightValue
    | bytes leftValue, bytes rightValue => leftValue == rightValue
    | date leftValue, date rightValue => leftValue == rightValue
    | timestamp leftValue, timestamp rightValue => leftValue.same rightValue
    | _, _ => false
  | _, _ => false

/-- A number as it comes from a source of its own, of which one that is none keeps a trace. -/
def ofFloat (source : Nat) (value : Float) : Value :=
  if (Double.ofFloat value).isNaN then nan source else float value

/-- An entry whose key is there already keeps the place and the key of the earlier one, and gets the later value. -/
def putEntry {α : Type} (entries : List (Value × α)) (key : Value) (item : α) : List (Value × α) :=
  match entries with
  | [] => [(key, item)]
  | entry :: rest =>
    if entry.1.sameKey key then (entry.1, item) :: rest else entry :: putEntry rest key item

end Value

end CacheSeal
