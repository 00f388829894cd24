import CacheSeal.Text.Basic

/-!
Values by name, in the order in which the names came first.
-/

namespace CacheSeal.Report

abbrev NamedValues := List (Text × Int)

namespace NamedValues

/-- A name that is there already keeps its place and gets the later value. -/
def put (values : NamedValues) (name : Text) (value : Int) : NamedValues :=
  match values with
  | [] => [(name, value)]
  | entry :: rest => if entry.1 = name then (name, value) :: rest else entry :: put rest name value

/-- The values put one after the other. -/
def ofPairs (pairs : List (Text × Int)) : NamedValues :=
  pairs.foldl (fun values pair => values.put pair.1 pair.2) []

def get? (values : NamedValues) (name : Text) : Option Int :=
  values.lookup name

/-- The same names with the same values, in whatever order. -/
def same (left right : NamedValues) : Bool :=
  left.length = right.length && left.all fun entry => right.get? entry.1 = some entry.2

end NamedValues

end CacheSeal.Report
