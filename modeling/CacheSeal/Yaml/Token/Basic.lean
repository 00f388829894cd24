import CacheSeal.Text.Basic
import CacheSeal.Yaml.Cursor
import CacheSeal.Yaml.Error

/-!
The tokens of a document. Indentation has become brackets: every block collection has a start and an end.
-/

namespace CacheSeal.Yaml

inductive Directive where
  | version (major : Nat)
  | tagHandle (handle expansion : List Char)
  | reserved
deriving DecidableEq

inductive Token where
  | directive (content : Directive)
  | documentStart
  | documentEnd
  | blockSequenceStart
  | blockMappingStart
  | blockEnd
  | flowSequenceStart
  | flowSequenceEnd
  | flowMappingStart
  | flowMappingEnd
  | blockEntry
  | flowEntry
  | key
  | value
  | alias (name : List Char)
  | anchor (name : List Char)
  /-- Without a handle the suffix is the whole tag. -/
  | tag (handle : Option (List Char)) (suffix : List Char)
  | scalar (text : Text) (isPlain : Bool)
deriving DecidableEq

/-- Letters, digits and the two joining marks, of which names consist. -/
def isNameChar (c : Char) : Bool :=
  c.isAlphanum || c = '-' || c = '_'

def Cursor.skipSpaces (cursor : Cursor) : Cursor :=
  cursor.skipWhile (· = ' ')

/-- The rest of a line may hold a comment and nothing else. -/
def Cursor.endLine (cursor : Cursor) : Except Error Cursor :=
  let after := cursor.skipSpaces.skipComment
  match after.takeBreak? with
  | some (_, below) => .ok below
  | none => if after.peek = endMark then .ok after else .error .malformed

end CacheSeal.Yaml
