import CacheSeal.Cache.Validation
import CacheSeal.Json.Basic
import CacheSeal.Text.Hex

/-!
Reports for programs: the outcome of a validation as a JSON object.
-/

namespace CacheSeal.Report

def schemaVersion : String := "1.0.0"

def headerRecord (header : Header) : Json :=
  .object (Field.all.map fun field => Json.member field.name (.int (header.get field)))

def widthRecord (layout : Layout) : Json :=
  match layout.spelling, layout.width with
  | .whole, width => .int width.bits
  | .pointed, .w32 => .float 32.0
  | .pointed, .w64 => .float 64.0

def record (path : Option Text) (report : Cache.Validation) : Json :=
  .object [
    Json.member "schema_version" (.string schemaVersion),
    Json.member "path" (match path with
      | some path => .str path
      | none => .null),
    Json.member "pointer_width" (widthRecord report.layout),
    Json.member "byte_order" (.string report.layout.order.name),
    Json.member "header_size" (.int report.headerSize),
    Json.member "file_size" (.int report.fileSize),
    Json.member "header" (headerRecord report.header),
    Json.member "computed_checksum" (.int report.computed),
    Json.member "checksum_hex" (.string (Hex.word report.computed)),
    Json.member "verdict" (.str report.verdict.name)]

end CacheSeal.Report
