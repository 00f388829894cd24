/-!
A place in the characters of a document. Lines and columns count, for the indentation of a line is part of its meaning.
-/

namespace CacheSeal.Yaml

/-- Stands for the character after the last one; no document holds it. -/
def endMark : Char := '\x00'

def byteOrderMark : Char := '\ufeff'

def isBreak (c : Char) : Bool :=
  c = '\n' || c = '\u0085' || c = '\u2028' || c = '\u2029'

def isBreakOrEnd (c : Char) : Bool :=
  isBreak c || c = endMark

def isSpaceOrEnd (c : Char) : Bool :=
  c = ' ' || isBreakOrEnd c

/-- Space, tab, line break or end. -/
def isGap (c : Char) : Bool :=
  c = '\t' || isSpaceOrEnd c

structure Cursor where
  rest : List Char
  index : Nat
  line : Nat
  column : Nat
  /-- The index of the end. -/
  stop : Nat

namespace Cursor

def start (chars : List Char) : Cursor :=
  ⟨chars, 0, 0, 0, chars.length⟩

/-- Reading from here takes no more steps than this, when each of them but the last takes a character. -/
def maxSteps (cursor : Cursor) : Nat :=
  cursor.stop - cursor.index + 1

def peek (cursor : Cursor) : Char :=
  cursor.rest.headD endMark

def peekAt (cursor : Cursor) (distance : Nat) : Char :=
  cursor.rest.getD distance endMark

/-- One character on. The byte order mark has no width. -/
def next (cursor : Cursor) : Cursor :=
  match cursor.rest with
  | [] => cursor
  | c :: rest =>
    let onward := { cursor with rest, index := cursor.index + 1 }
    if isBreak c then { onward with line := cursor.line + 1, column := 0 }
    else if c = byteOrderMark then onward
    else { onward with column := cursor.column + 1 }

def skip (cursor : Cursor) : Nat → Cursor
  | 0 => cursor
  | count + 1 => cursor.next.skip count

/-- The characters up to the first that fails the test, and the place of that one. -/
def span (cursor : Cursor) (test : Char → Bool) : List Char × Cursor :=
  let taken := cursor.rest.takeWhile test
  (taken, cursor.skip taken.length)

def skipWhile (cursor : Cursor) (test : Char → Bool) : Cursor :=
  (cursor.span test).2

/-- A comment ends before the line break. -/
def skipComment (cursor : Cursor) : Cursor :=
  if cursor.peek = '#' then cursor.skipWhile (!isBreak ·) else cursor

/-- A line break, normalised to a line feed unless it is a line or paragraph separator. -/
def takeBreak? (cursor : Cursor) : Option (Char × Cursor) :=
  let c := cursor.peek
  if c = '\n' ∨ c = '\u0085' then some ('\n', cursor.next)
  else if c = '\u2028' ∨ c = '\u2029' then some (c, cursor.next)
  else none

/-- The marks between documents, at the start of a line. -/
def atDocumentMark (cursor : Cursor) : Bool :=
  let three := cursor.rest.take 3
  (three = ['-', '-', '-'] || three = ['.', '.', '.']) && isGap (cursor.peekAt 3)

end Cursor

end CacheSeal.Yaml
