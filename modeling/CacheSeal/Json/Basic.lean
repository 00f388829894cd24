import CacheSeal.Value.Basic

/-!
JSON documents. The members of an object keep the order in which they were given, and a whole number is kept apart
from one that has a point or an exponent.
-/

namespace CacheSeal

inductive Json where
  | null
  | bool (value : Bool)
  | int (value : Int)
  | float (value : Float)
  | str (value : Text)
  | list (items : List Json)
  | object (members : List (Text × Json))
  /-- What a payload may hold although no document can, an object with a key that no name can be among it; `kind` names
  it in the complaint. -/
  | foreign (kind : String)
deriving Inhabited

namespace Json

def string (text : String) : Json :=
  .str (.ofString text)

def member (name : String) (item : Json) : Text × Json :=
  (.ofString name, item)

mutual

/-- A document as a value of settings. -/
def toValue : Json → Value
  | null => .null
  | bool value => .bool value
  | int value => .int value
  | float value => .float value
  | str value => .str value
  | list items => .ofItems (itemValues items)
  | object members => .ofEntries (memberValues members)
  | foreign _ => .null

def itemValues : List Json → List Value
  | [] => []
  | item :: items => item.toValue :: itemValues items

def memberValues : List (Text × Json) → List (Value × Value)
  | [] => []
  | (name, item) :: members => (.str name, item.toValue) :: memberValues members

end

end Json

end CacheSeal
