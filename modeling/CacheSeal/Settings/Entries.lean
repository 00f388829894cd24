import CacheSeal.Settings.Basic
import CacheSeal.Settings.Keys

/-!
Settings from the entries of a mapping. All keys are looked at before any value, and the values in a fixed order, so
the order of the entries does not matter.
-/

namespace CacheSeal.Settings

abbrev Entries := List (Value × Value)

def smaller (least : Option Text) (name : Text) : Option Text :=
  match least with
  | none => some name
  | some other => if other.le name then some other else some name

/-- The first in order of the names that are no settings. -/
def unknownName? (entries : Entries) : Option Text :=
  ((entries.map (·.1.name)).filter (!isKey ·)).foldl smaller none

def checkKeys (entries : Entries) : Except Error Unit :=
  match unknownName? entries with
  | some name => .error (.unknownKey name (suggestion? name))
  | none => .ok ()

/-- The value of a setting, or its default if the setting is not there; one that is there counts even if it is null. -/
def valueOf (entries : Entries) (key : String) (fallback : Value) : Value :=
  let isThere : Value × Value → Bool := fun entry =>
    match entry.1 with
    | .str name => name = Text.ofString key
    | _ => false
  match entries.find? isThere with
  | some entry => entry.2
  | none => fallback

def ofValues (entries : Entries) : Except Error Settings := do
  return {
    pointerWidth := ← checkWidth (valueOf entries "pointer_width" default.pointerWidth)
    byteOrder := ← checkOrder (valueOf entries "byte_order" default.byteOrder)
    color := ← checkColor (valueOf entries "color" default.color) }

def ofEntries (entries : Entries) : Except Error Settings := do
  checkKeys entries
  ofValues entries

/-- A document without content has no entries; any other but a mapping is refused. -/
def entries? : Value → Option Entries
  | .null => some []
  | .map _ key item => some (List.ofFn fun place => (key place, item place))
  | _ => none

end CacheSeal.Settings
