import CacheSeal.Header.Layout
import CacheSeal.Settings.Error
import CacheSeal.Text.LowerCase

/-!
The settings of the program. They hold values as they were given, so a layout made of them may still be refused; those
that come from a file or replace others are judged first.
-/

namespace CacheSeal

structure Settings where
  pointerWidth : Value
  byteOrder : Value
  color : Value

namespace Settings

def default : Settings :=
  ⟨.int 64, .str (.ofString "little"), .bool true⟩

def layout (settings : Settings) : Except Layout.Error Layout :=
  Layout.ofValues settings.pointerWidth settings.byteOrder

/-- Color is on if it is set to be. -/
def wantsColor (settings : Settings) : Bool :=
  match settings.color with
  | .bool on => on
  | _ => false

/-- A width is a whole number, neither a truth value nor a number with a point. -/
def checkWidth (given : Value) : Except Error Value :=
  match given with
  | .int bits => if (PointerWidth.ofBits? bits).isSome then .ok given else .error (.badWidth given)
  | _ => .error (.badWidth given)

/-- An order is given in any case and with blanks around, and kept in lower case and without. -/
def checkOrder (given : Value) : Except Error Value :=
  match given with
  | .str name =>
    let plain := name.strip.lower
    if (ByteOrder.ofName? plain).isSome then .ok (.str plain) else .error (.badOrder given)
  | _ => .error (.badOrder given)

def checkColor (given : Value) : Except Error Value :=
  match given with
  | .bool _ => .ok given
  | _ => .error .badColor

/-- Settings that take the place of others. -/
structure Overrides where
  pointerWidth : Option Value
  byteOrder : Option Value
  color : Option Value

def Overrides.isEmpty (overrides : Overrides) : Bool :=
  overrides.pointerWidth.isNone && overrides.byteOrder.isNone && overrides.color.isNone

/-- Widths and orders are judged anew; a color is taken as it is. -/
def override (settings : Settings) (overrides : Overrides) : Except Error Settings := do
  let pointerWidth ← match overrides.pointerWidth with
    | some given => checkWidth given
    | none => pure settings.pointerWidth
  let byteOrder ← match overrides.byteOrder with
    | some given => checkOrder given
    | none => pure settings.byteOrder
  return ⟨pointerWidth, byteOrder, overrides.color.getD settings.color⟩

end Settings

end CacheSeal
