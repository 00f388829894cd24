import CacheSeal.Text.Hex
import CacheSeal.Text.Printable

/-!
Text in quotes, as messages show names and values. What cannot be seen is escaped by its code point.
-/

namespace CacheSeal

namespace Text

/-- Single quotes, unless double ones spare the text an escape. -/
def quoteMark (text : Text) : Char :=
  if text.contains (.ofChar '\'') && !text.contains (.ofChar '"') then '"' else '\''

def escape (kind : Char) (width : Nat) (point : CodePoint) : List Char :=
  '\\' :: kind :: Hex.padded .lower width point.val

/-- A code point between quotes of the given mark. -/
def quotedPoint (mark : Char) (point : CodePoint) : List Char :=
  match point.toChar? with
  | some '\t' => ['\\', 't']
  | some '\n' => ['\\', 'n']
  | some '\r' => ['\\', 'r']
  | some '\\' => ['\\', '\\']
  | some c =>
    if c = mark then ['\\', c]
    else if point.isPrintable then [c]
    else if point.val ≤ 0xff then escape 'x' 2 point
    else if point.val ≤ 0xffff then escape 'u' 4 point
    else escape 'U' 8 point
  | none => escape 'u' 4 point

def quoted (text : Text) : String :=
  let mark := quoteMark text
  String.ofList (mark :: text.flatMap (quotedPoint mark) ++ [mark])

end Text

def quoted (text : String) : String :=
  (Text.ofString text).quoted

/-- How several values stand in one line. -/
def commaList (parts : List String) : String :=
  String.intercalate ", " parts

end CacheSeal
