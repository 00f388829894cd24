import CacheSeal.Header.Word

/-!
Headers in a buffer: reading all fields, and writing one. A buffer shorter than the header is left alone.
-/

namespace CacheSeal

structure Header where
  magicNumber : Int
  versionHash : Int
  sourceHash : Int
  flagHash : Int
  numReservations : Int
  payloadLength : Int
  checksum : Int
deriving DecidableEq, Repr

namespace Header

def get (header : Header) : Field → Int
  | .magicNumber => header.magicNumber
  | .versionHash => header.versionHash
  | .sourceHash => header.sourceHash
  | .flagHash => header.flagHash
  | .numReservations => header.numReservations
  | .payloadLength => header.payloadLength
  | .checksum => header.checksum

def ofFields (value : Field → Int) : Header :=
  ⟨value .magicNumber, value .versionHash, value .sourceHash, value .flagHash, value .numReservations,
    value .payloadLength, value .checksum⟩

/-- Buffers as short as this hold no header. -/
structure Truncated where
  actual : Nat
  required : Nat
deriving DecidableEq, Repr

def Truncated.message (error : Truncated) : String :=
  s!"buffer is {error.actual} bytes, header requires {error.required}"

/-- The word of a field, as stored in the buffer. -/
def word (layout : Layout) (buffer : Bytes) (field : Field) : Nat :=
  layout.order.decode ((buffer.drop field.offset).take Field.wordSize)

def require (layout : Layout) (buffer : Bytes) : Except Truncated Unit :=
  if buffer.length < layout.headerSize then .error ⟨buffer.length, layout.headerSize⟩ else .ok ()

def read (layout : Layout) (buffer : Bytes) : Except Truncated Header := do
  require layout buffer
  return ofFields fun field => word layout buffer field

/-- Overwrites the four bytes of the field, whatever the buffer's length. -/
def put (layout : Layout) (field : Field) (value : Int) (buffer : Bytes) : Bytes :=
  buffer.splice field.offset (layout.order.encode (Word.ofInt value))

def write (layout : Layout) (field : Field) (value : Int) (buffer : Bytes) : Except Truncated Bytes := do
  require layout buffer
  return put layout field value buffer

/-- A field may also be named; the buffer's length is judged before the name. -/
inductive WriteError where
  | truncated (error : Truncated)
  | unknownField (name : Text)
deriving DecidableEq, Repr

def writeNamed (layout : Layout) (name : Text) (value : Int) (buffer : Bytes) : Except WriteError Bytes :=
  match require layout buffer with
  | .error error => .error (.truncated error)
  | .ok () =>
    match Field.ofName? name with
    | some field => .ok (put layout field value buffer)
    | none => .error (.unknownField name)

end Header

end CacheSeal
