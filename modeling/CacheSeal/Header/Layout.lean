import CacheSeal.Header.Field
import CacheSeal.Value.Printer

/-!
The layout of a header for one target: its pointer width, which decides how far the header is padded, and the order of
the bytes in a word. Both are given as values of any kind, and most values are refused.
-/

namespace CacheSeal

inductive PointerWidth where
  | w32
  | w64
deriving DecidableEq, Repr

namespace PointerWidth

def bits : PointerWidth → Nat
  | w32 => 32
  | w64 => 64

/-- Pointers are aligned to their own size. -/
def alignment : PointerWidth → Nat
  | w32 => 4
  | w64 => 8

def ofBits? (bits : Int) : Option PointerWidth :=
  if bits = 32 then some w32 else if bits = 64 then some w64 else none

end PointerWidth

inductive ByteOrder where
  | little
  | big
deriving DecidableEq, Repr

namespace ByteOrder

def name : ByteOrder → String
  | little => "little"
  | big => "big"

def ofName? (name : Text) : Option ByteOrder :=
  [little, big].find? fun order => Text.ofString order.name = name

end ByteOrder

/-- Whether a width was given as a whole number or with a point; a report repeats it as it was given. -/
inductive WidthSpelling where
  | whole
  | pointed
deriving DecidableEq, Repr

structure Layout where
  width : PointerWidth
  order : ByteOrder
  spelling : WidthSpelling
deriving DecidableEq, Repr

namespace Layout

/-- The size of the fields alone. -/
def unalignedSize : Nat :=
  Field.all.length * Field.wordSize

/-- The size of the fields, rounded up to the alignment. -/
def headerSize (layout : Layout) : Nat :=
  let alignment := layout.width.alignment
  (unalignedSize + alignment - 1) / alignment * alignment

/-- Why two values make no layout. -/
inductive Error where
  /-- A container is neither a width nor an order, and is not even compared with one. -/
  | container (kind : String)
  | badWidth (given : Value)
  | badOrder (given : Value)

namespace Error

def message : Error → String
  | container kind => s!"unhashable type: '{kind}'"
  | badWidth given => s!"pointer_width must be one of [32, 64], got {given.toText}"
  | badOrder given => s!"byte_order must be one of ['big', 'little'], got {given.toText}"

end Error

def containerKind? : Value → Option String
  | .list _ _ | .listAgain => some "list"
  | .map _ _ _ | .mapAgain => some "dict"
  | .set _ _ => some "set"
  | _ => none

def width? : Value → Option (PointerWidth × WidthSpelling)
  | .int value => (PointerWidth.ofBits? value).map (·, .whole)
  | .float value =>
    if value == 32.0 then some (.w32, .pointed) else if value == 64.0 then some (.w64, .pointed) else none
  | _ => none

def order? : Value → Option ByteOrder
  | .str name => ByteOrder.ofName? name
  | _ => none

/-- The width is judged before the order. -/
def ofValues (width order : Value) : Except Error Layout := do
  if let some kind := containerKind? width then throw (.container kind)
  match width? width with
  | none => throw (.badWidth width)
  | some (bits, spelling) =>
    if let some kind := containerKind? order then throw (.container kind)
    match order? order with
    | none => throw (.badOrder order)
    | some order => return ⟨bits, order, spelling⟩

end Layout

end CacheSeal
