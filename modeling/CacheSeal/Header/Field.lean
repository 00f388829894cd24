import CacheSeal.Text.Basic

/-!
The fields of a cache header: seven words of four bytes, one after the other.
-/

namespace CacheSeal

inductive Field where
  | magicNumber
  | versionHash
  | sourceHash
  | flagHash
  | numReservations
  | payloadLength
  | checksum
deriving DecidableEq, Repr

namespace Field

/-- All fields in the order in which they are stored. -/
def all : List Field :=
  [magicNumber, versionHash, sourceHash, flagHash, numReservations, payloadLength, checksum]

/-- The fields by which an engine knows its own caches: those a donor can supply. -/
def transplanted : List Field :=
  [versionHash, sourceHash, flagHash]

def wordSize : Nat := 4

def index : Field → Nat
  | magicNumber => 0
  | versionHash => 1
  | sourceHash => 2
  | flagHash => 3
  | numReservations => 4
  | payloadLength => 5
  | checksum => 6

def offset (field : Field) : Nat :=
  field.index * wordSize

def name : Field → String
  | magicNumber => "magic_number"
  | versionHash => "version_hash"
  | sourceHash => "source_hash"
  | flagHash => "flag_hash"
  | numReservations => "num_reservations"
  | payloadLength => "payload_length"
  | checksum => "checksum"

def ofName? (name : Text) : Option Field :=
  all.find? fun field => Text.ofString field.name = name

/-- How the text report labels the field. -/
def label : Field → String
  | magicNumber => "Magic:"
  | versionHash => "VersionHash:"
  | sourceHash => "SourceHash:"
  | flagHash => "FlagHash:"
  | numReservations => "NumReservations:"
  | payloadLength => "PayloadLength:"
  | checksum => "Checksum:"

end Field

end CacheSeal
