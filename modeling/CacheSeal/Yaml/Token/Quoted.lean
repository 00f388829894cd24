import CacheSeal.Text.Hex
import CacheSeal.Yaml.Token.Basic

/-!
Scalars in quotes. Line breaks fold to a space, and of several all but the first stay; double quotes know escapes.
-/

namespace CacheSeal.Yaml

/-- What an escape of one letter stands for. -/
def escapeMeaning? (c : Char) : Option Char :=
  match c with
  | '0' => some '\x00'
  | 'a' => some '\x07'
  | 'b' => some '\x08'
  | 't' => some '\t'
  | '\t' => some '\t'
  | 'n' => some '\n'
  | 'v' => some '\x0b'
  | 'f' => some '\x0c'
  | 'r' => some '\r'
  | 'e' => some '\x1b'
  | ' ' => some ' '
  | '"' => some '"'
  | '\\' => some '\\'
  | '/' => some '/'
  | 'N' => some '\u0085'
  | '_' => some '\u00a0'
  | 'L' => some '\u2028'
  | 'P' => some '\u2029'
  | _ => none

/-- How many hexadecimal digits follow the letter of an escape by code point. -/
def escapeWidth? (c : Char) : Option Nat :=
  match c with
  | 'x' => some 2
  | 'u' => some 4
  | 'U' => some 8
  | _ => none

def codePoint (value : Nat) : Except Error CodePoint :=
  if bound : value < 0x110000 then .ok ⟨value, bound⟩
  else if value < 0x80000000 then .error .badDigits
  else .error .tooLarge

private def readCode (width : Nat) (cursor : Cursor) : Except Error (CodePoint × Cursor) := do
  match (cursor.rest.take width).mapM Hex.value? with
  | some digits =>
    if digits.length < width then throw .malformed
    return (← codePoint (digits.foldl (fun total digit => total * 16 + digit) 0), cursor.skip width)
  | none => throw .malformed

/-- The line breaks from the start of a line on, with the blanks between them dropped. -/
private def readBreaks : Nat → Cursor → Except Error (List Char × Cursor)
  | 0, cursor => .ok ([], cursor)
  | steps + 1, cursor => do
    if cursor.atDocumentMark then throw .malformed
    let after := cursor.skipWhile fun c => c = ' ' || c = '\t'
    match after.takeBreak? with
    | some (mark, below) =>
      let (marks, left) ← readBreaks steps below
      return (mark :: marks, left)
    | none => return ([], after)

/-- Blanks before a line break vanish into the fold. -/
private def readGap (cursor : Cursor) : Except Error (List Char × Cursor) := do
  let (blanks, after) := cursor.span fun c => c = ' ' || c = '\t'
  if after.peek = endMark then throw .malformed
  match after.takeBreak? with
  | none => return (blanks, after)
  | some (mark, below) =>
    let (marks, left) ← readBreaks below.maxSteps below
    if mark ≠ '\n' then return (mark :: marks, left)
    else if marks.isEmpty then return ([' '], left)
    else return (marks, left)

private def readEscape (cursor : Cursor) : Except Error (Text × Cursor) := do
  let letter := cursor.peek
  match escapeMeaning? letter, escapeWidth? letter with
  | some meant, _ => return ([.ofChar meant], cursor.next)
  | none, some width =>
    let (point, after) ← readCode width cursor.next
    return ([point], after)
  | none, none =>
    match cursor.takeBreak? with
    | some (_, below) =>
      let (marks, left) ← readBreaks below.maxSteps below
      return (.ofChars marks, left)
    | none => throw .malformed

/-- Each step takes a character or more. -/
private def readBody (isDouble : Bool) : Nat → Cursor → Except Error (Text × Cursor)
  | 0, _ => .error .malformed
  | steps + 1, cursor => do
    let c := cursor.peek
    if isGap c then
      let (chars, after) ← readGap cursor
      let (text, left) ← readBody isDouble steps after
      return (.ofChars chars ++ text, left)
    else if !isDouble && c = '\'' && cursor.peekAt 1 = '\'' then
      let (text, left) ← readBody isDouble steps (cursor.skip 2)
      return (.ofChar '\'' :: text, left)
    else if c = (if isDouble then '"' else '\'') then return ([], cursor.next)
    else if isDouble && c = '\\' then
      let (meant, after) ← readEscape cursor.next
      let (text, left) ← readBody isDouble steps after
      return (meant ++ text, left)
    else
      let (text, left) ← readBody isDouble steps cursor.next
      return (.ofChar c :: text, left)

/-- From the opening quote to behind the closing one. -/
def readQuoted (cursor : Cursor) : Except Error (Token × Cursor) := do
  let (text, after) ← readBody (cursor.peek = '"') cursor.maxSteps cursor.next
  return (.scalar text false, after)

end CacheSeal.Yaml
