import CacheSeal.Yaml.Token.Basic

/-!
Scalars as indented blocks of lines, literal or folded. The header may fix the indentation and say what becomes of the
line breaks at the end.
-/

namespace CacheSeal.Yaml

inductive Chomping where
  | strip
  | clip
  | keep
deriving DecidableEq

structure BlockHeader where
  chomping : Chomping
  increment : Option Nat

private def chomping? (c : Char) : Option Chomping :=
  if c = '+' then some .keep else if c = '-' then some .strip else none

private def readIncrement (cursor : Cursor) : Except Error (Option Nat × Cursor) :=
  let c := cursor.peek
  if c = '0' then .error .malformed
  else if c.isDigit then .ok (some (c.toNat - '0'.toNat), cursor.next)
  else .ok (none, cursor)

/-- The two indicators may come in either order. -/
private def readHeader (cursor : Cursor) : Except Error (BlockHeader × Cursor) := do
  let (header, after) ← match chomping? cursor.peek with
    | some chomping => do
      let (increment, after) ← readIncrement cursor.next
      pure (BlockHeader.mk chomping increment, after)
    | none => do
      let (increment, after) ← readIncrement cursor
      match increment, chomping? after.peek with
      | some _, some chomping => pure (BlockHeader.mk chomping increment, after.next)
      | _, _ => pure (BlockHeader.mk .clip increment, after)
  if isSpaceOrEnd after.peek then return (header, ← after.endLine) else throw .malformed

/-- Leading empty lines, and the widest indentation among them and the first line that is not empty. -/
private def leadingLines : Nat → Nat → Cursor → List Char × Nat × Cursor
  | 0, widest, cursor => ([], widest, cursor)
  | steps + 1, widest, cursor =>
    let after := cursor.skipSpaces
    let wider := if after.column > widest ∧ cursor.peek = ' ' then after.column else widest
    match after.takeBreak? with
    | some (mark, below) =>
      let (marks, final, left) := leadingLines steps wider below
      (mark :: marks, final, left)
    | none => ([], wider, after)

/-- Skips spaces up to the column of the block. -/
private def indentTo (indent : Nat) : Nat → Cursor → Cursor
  | 0, cursor => cursor
  | steps + 1, cursor =>
    if cursor.column < indent ∧ cursor.peek = ' ' then indentTo indent steps cursor.next else cursor

/-- Empty lines within the block, up to the indentation of the next line. -/
private def emptyLines (indent : Nat) : Nat → Cursor → List Char × Cursor
  | 0, cursor => ([], cursor)
  | steps + 1, cursor =>
    let after := indentTo indent indent cursor
    match after.takeBreak? with
    | some (mark, below) =>
      let (marks, left) := emptyLines indent steps below
      (mark :: marks, left)
    | none => ([], after)

private def startsBlank (cursor : Cursor) : Bool :=
  cursor.peek = ' ' || cursor.peek = '\t'

private structure BlockLines where
  chars : List Char
  /-- The break that ends the last line, if one does. -/
  lastBreak : List Char
  trailing : List Char
  after : Cursor

/-- A break between two lines folds to a space where both start without a blank, unless empty lines follow it. -/
private def readLines (folded : Bool) (indent : Nat) : Nat → List Char → Cursor → BlockLines
  | 0, breaks, cursor => ⟨[], [], breaks, cursor⟩
  | steps + 1, breaks, cursor =>
    if cursor.column ≠ indent ∨ cursor.peek = endMark then ⟨[], [], breaks, cursor⟩
    else
      let (line, lineEnd) := cursor.span (!isBreak ·)
      let (lastBreak, below) := match lineEnd.takeBreak? with
        | some (mark, below) => ([mark], below)
        | none => ([], lineEnd)
      let (marks, after) := emptyLines indent below.maxSteps below
      if after.column = indent ∧ after.peek ≠ endMark then
        let join :=
          if folded && lastBreak = ['\n'] && !startsBlank cursor && !startsBlank after then
            if marks.isEmpty then [' '] else []
          else lastBreak
        let further := readLines folded indent steps marks after
        ⟨breaks ++ line ++ join ++ further.chars, further.lastBreak, further.trailing, further.after⟩
      else ⟨breaks ++ line, lastBreak, marks, after⟩

/-- From the indicator on. `parent` is the indentation of the collection around the scalar. -/
def readBlock (parent : Int) (cursor : Cursor) : Except Error (Token × Cursor) := do
  let (header, first) ← readHeader cursor.next
  let least := (parent + 1).toNat.max 1
  let steps := first.maxSteps
  let (indent, breaks, start) := match header.increment with
    | some increment =>
      let indent := least + increment - 1
      let (breaks, start) := emptyLines indent steps first
      (indent, breaks, start)
    | none =>
      let (breaks, widest, start) := leadingLines steps 0 first
      (least.max widest, breaks, start)
  let lines := readLines (cursor.peek = '>') indent steps breaks start
  let tail := match header.chomping with
    | .strip => []
    | .clip => lines.lastBreak
    | .keep => lines.lastBreak ++ lines.trailing
  return (.scalar (.ofChars (lines.chars ++ tail)) false, lines.after)

end CacheSeal.Yaml
