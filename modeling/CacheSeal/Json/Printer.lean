import CacheSeal.Json.Basic
import CacheSeal.Value.Printer

/-!
Printing JSON: a member or item a line, two blanks a level, the members of an object in the order of their names, and
nothing outside ASCII. The order in which members were given therefore leaves no trace. A document is written up to the
first thing in it that cannot be: what no document can hold, a number of too many digits, or a container that lies too
deep.
-/

namespace CacheSeal.Json

def floatWords : Decimal.Words :=
  ⟨"NaN", "Infinity"⟩

/-- A value without a written form, by its kind. -/
structure Unprintable where
  kind : String
deriving DecidableEq, Repr

def Unprintable.message (error : Unprintable) : String :=
  s!"Object of type {error.kind} is not JSON serializable"

def unitEscape (unit : Nat) : List Char :=
  '\\' :: 'u' :: Hex.padded .lower 4 unit

/-- Beyond the basic plane a code point is written as the two halves of a pair. -/
def escapedPoint (point : CodePoint) : List Char :=
  let code := point.val
  if code = 0x22 then ['\\', '"']
  else if code = 0x5c then ['\\', '\\']
  else if code = 0x0a then ['\\', 'n']
  else if code = 0x0d then ['\\', 'r']
  else if code = 0x09 then ['\\', 't']
  else if code = 0x0c then ['\\', 'f']
  else if code = 0x08 then ['\\', 'b']
  else if 0x20 ≤ code ∧ code ≤ 0x7e then [Char.ofNat code]
  else if code < 0x10000 then unitEscape code
  else unitEscape (0xd800 + (code - 0x10000) / 0x400) ++ unitEscape (0xdc00 + (code - 0x10000) % 0x400)

def textChars (text : Text) : List Char :=
  '"' :: text.flatMap escapedPoint ++ ['"']

def indent (level : Nat) : List Char :=
  '\n' :: List.replicate (2 * level) ' '

/-- Why a document is not written to its end. -/
inductive Obstacle where
  | unprintable (error : Unprintable)
  | unshowable (cause : Value.Unshowable)
deriving DecidableEq, Repr

/-- A text as far as it is written. It ends early, if it does, at the first obstacle. -/
structure Draft where
  text : List Char
  stop? : Option Obstacle

/-- Puts what is written before the draft that follows it. -/
abbrev Writing := Draft → Draft

def put (chars : List Char) : Writing := fun rest =>
  { rest with text := chars ++ rest.text }

/-- Writes nothing more, and nothing of what follows. -/
def halt (obstacle : Obstacle) : Writing := fun _ =>
  ⟨[], some obstacle⟩

/-- What is written of a part of a list or of an object behind a mark, which is a bracket or a comma with its line. -/
abbrev Part := List Char → Writing

/-- Parts on lines of their own, the first behind the mark that is given and the others behind commas. -/
def onLines (level : Nat) : Char → List Part → Writing
  | _, [], rest => rest
  | mark, part :: parts, rest => part (mark :: indent level) (onLines level ',' parts rest)

/-- Parts on lines of their own, one level further in than the brackets. -/
def bracketed (opening closing : Char) (level : Nat) (parts : List Part) : Writing := fun rest =>
  if parts.isEmpty then put [opening, closing] rest
  else onLines (level + 1) opening parts (put (indent level ++ [closing]) rest)

/-- What stands between brackets, if it does not lie too deep. -/
def contained (level : Nat) (writing : Writing) : Writing :=
  if level < maxNesting then writing else halt (.unshowable .tooDeep)

/-- Before the first member whose name is not smaller. -/
def insertMember {α : Type} (member : Text × α) : List (Text × α) → List (Text × α)
  | [] => [member]
  | other :: rest => if member.1.le other.1 then member :: other :: rest else other :: insertMember member rest

def sortMembers {α : Type} (members : List (Text × α)) : List (Text × α) :=
  members.foldr insertMember []

def wholeWriting (value : Int) : Writing :=
  if Numeral.isWritten value then put (toString value).toList else halt (.unshowable .hugeNumber)

/-- A number is written at once with the mark before it, so where it cannot be, neither is. -/
def itemPart (item : Json) (writing : Writing) : Part := fun mark rest =>
  match item with
  | int value => if Numeral.isWritten value then put mark (writing rest) else writing rest
  | _ => put mark (writing rest)

def memberPart (member : Text × Writing) : Part := fun mark rest =>
  put (mark ++ textChars member.1 ++ [':', ' ']) (member.2 rest)

mutual

/-- Writes a document whose brackets, if it has any, belong to the level. -/
def write (level : Nat) : Json → Writing
  | null => put "null".toList
  | bool true => put "true".toList
  | bool false => put "false".toList
  | int value => wholeWriting value
  | float value => put (Decimal.write floatWords value).toList
  | str value => put (textChars value)
  | list items => contained level (bracketed '[' ']' level (itemParts (level + 1) items))
  | object members =>
    contained level
      (bracketed '\x7b' '\x7d' level ((sortMembers (memberWritings (level + 1) members)).map memberPart))
  | foreign kind => halt (.unprintable ⟨kind⟩)

def itemParts (level : Nat) : List Json → List Part
  | [] => []
  | item :: items => itemPart item (item.write level) :: itemParts level items

def memberWritings (level : Nat) : List (Text × Json) → List (Text × Writing)
  | [] => []
  | (name, item) :: members => (name, item.write level) :: memberWritings level members

end

/-- What is written of a document before the first obstacle in it. -/
def draft (json : Json) : Draft :=
  json.write 0 ⟨[], none⟩

/-- The text of a document, without a line feed at its end. -/
def print (json : Json) : Except Obstacle String :=
  let draft := json.draft
  match draft.stop? with
  | some obstacle => .error obstacle
  | none => .ok (String.ofList draft.text)

end CacheSeal.Json
