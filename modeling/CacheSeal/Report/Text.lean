import CacheSeal.Cache.Rehash
import CacheSeal.Cache.Transplant
import CacheSeal.Cache.Validation
import CacheSeal.Numeral
import CacheSeal.Report.NamedValues
import CacheSeal.Text.Quoted

/-!
Reports for people: a label and a value a line, the values in one column.
-/

namespace CacheSeal.Report

/-- A name for which there is no label, value or color. -/
structure UnknownName where
  name : Text
deriving DecidableEq, Repr

def UnknownName.message (error : UnknownName) : String :=
  error.name.quoted

/-- Why the outcome of a validation cannot be told. -/
inductive Untold where
  | unknownName (error : UnknownName)
  /-- A size has more digits than are ever shown. -/
  | hugeNumber
deriving DecidableEq, Repr

def Untold.message : Untold → String
  | unknownName error => error.message
  | hugeNumber => s!"Exceeds the limit ({Numeral.maxDecimalDigits} digits) for integer string conversion"

structure Style where
  color : Bool
  verbose : Bool
deriving DecidableEq, Repr

/-- The column in which values start. -/
def labelWidth : Nat := 17

def padded (label : String) : String :=
  label ++ String.ofList (List.replicate (labelWidth - label.length) ' ')

def hexLine (label : String) (value : Int) : Text :=
  padded label ++ Hex.word value

def sizeLine (label : String) (value : Int) : Except Untold Text :=
  if Numeral.isWritten value then .ok (padded label ++ toString value) else .error .hugeNumber

/-- The sizes, which are told only to those who want to know more. -/
def sizeLines (verbose : Bool) (report : Cache.Validation) : Except Untold (List Text) := do
  if verbose then return [← sizeLine "HeaderSize:" report.headerSize, ← sizeLine "FileSize:" report.fileSize]
  else return []

def joinLines (lines : List Text) : Text :=
  List.intercalate "\n" lines

def resetCode : String := "\x1b[0m"

/-- Green for what is in order and red for what is not. -/
def colorCode? : Cache.Verdict → Option String
  | .agrees => some "\x1b[32;1m"
  | .differs => some "\x1b[31;1m"
  | .unknown _ => none

def verdictText (color : Bool) (verdict : Cache.Verdict) : Except UnknownName Text :=
  if color then
    match colorCode? verdict with
    | some code => .ok (code ++ verdict.name ++ resetCode)
    | none => .error ⟨verdict.name⟩
  else .ok verdict.name

def validation (style : Style) (report : Cache.Validation) : Except Untold Text := do
  let fields := Field.all.map fun field => hexLine field.label (report.header.get field)
  let sizes ← sizeLines style.verbose report
  let verdict ← (verdictText style.color report.verdict).mapError .unknownName
  let ending : List Text := ["", "Result: " ++ verdict]
  return joinLines (fields ++ [hexLine "Actual Checksum:" report.computed] ++ sizes ++ ending)

def rehash (verbose : Bool) (previous new : Int) : Text :=
  let before : List Text := if verbose then [s!"Previous checksum value {Hex.word previous}."] else []
  let after : Text := s!"New checksum value {Hex.word new} written."
  joinLines (before ++ [after])

def transplantLine (previous : NamedValues) (entry : Text × Int) : Except UnknownName Text := do
  let (name, value) := entry
  match Field.ofName? name, previous.get? name with
  | some field, some before => return padded field.label ++ Hex.word before ++ " -> " ++ Hex.word value
  | _, _ => throw ⟨name⟩

/-- Each transplanted value behind the one it replaces. -/
def transplant (previous transplanted : NamedValues) : Except UnknownName Text := do
  return joinLines (← transplanted.mapM (transplantLine previous))

def names (entries : List (Field × Int)) : NamedValues :=
  .ofPairs (entries.map fun entry => (.ofString entry.1.name, entry.2))

end CacheSeal.Report
