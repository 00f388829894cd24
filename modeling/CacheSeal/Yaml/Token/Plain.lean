import CacheSeal.Yaml.Token.Basic

/-!
Scalars without quotes. They end where an indicator or a comment begins, and in block context at the first line that
is not indented further than the collection around them.
-/

namespace CacheSeal.Yaml

private def isFlowIndicator (c : Char) : Bool :=
  c = ',' || c = '[' || c = ']' || c = '\x7b' || c = '\x7d'

/-- How many characters belong to the scalar before the next gap or indicator. -/
private def plainLength (inFlow : Bool) : List Char → Nat
  | [] => 0
  | c :: rest =>
    let following := rest.headD endMark
    if isGap c then 0
    else if c = ':' && (isGap following || (inFlow && isFlowIndicator following)) then 0
    else if inFlow && (c = '?' || isFlowIndicator c) then 0
    else plainLength inFlow rest + 1

/-- The line breaks that follow one, unless the marks between documents do. -/
private def plainBreaks : Nat → Cursor → Option (List Char) × Cursor
  | 0, cursor => (some [], cursor)
  | steps + 1, cursor =>
    if cursor.atDocumentMark then (none, cursor)
    else
      let after := cursor.skipSpaces
      match after.takeBreak? with
      | none => (some [], after)
      | some (mark, below) =>
        let (marks, left) := plainBreaks steps below
        (marks.map (mark :: ·), left)

private structure PlainGap where
  /-- What the gap amounts to between two parts of the scalar; nothing if the scalar ends here. -/
  chars : List Char
  after : Cursor
  crossedLine : Bool

private def plainGap (cursor : Cursor) : PlainGap :=
  let (spaces, after) := cursor.span (· = ' ')
  match after.takeBreak? with
  | none => ⟨spaces, after, false⟩
  | some (mark, below) =>
    let (marks, left) := plainBreaks below.maxSteps below
    let chars := match marks with
      | none => []
      | some marks => if mark ≠ '\n' then mark :: marks else if marks.isEmpty then [' '] else marks
    ⟨chars, left, true⟩

private structure PlainPart where
  chars : List Char
  after : Cursor
  /-- The scalar ended at the start of a line, where a key may stand again. -/
  crossedLine : Bool

private def readParts (inFlow : Bool) (indent : Int) : Nat → List Char → Bool → Cursor → PlainPart
  | 0, _, crossed, cursor => ⟨[], cursor, crossed⟩
  | steps + 1, gap, crossed, cursor =>
    let length := plainLength inFlow cursor.rest
    if cursor.peek = '#' ∨ length = 0 then ⟨[], cursor, crossed⟩
    else
      let chars := gap ++ cursor.rest.take length
      let between := plainGap (cursor.skip length)
      if between.chars.isEmpty ∨ between.after.peek = '#' ∨ (!inFlow ∧ between.after.column < indent) then
        ⟨chars, between.after, between.crossedLine⟩
      else
        let part := readParts inFlow indent steps between.chars between.crossedLine between.after
        ⟨chars ++ part.chars, part.after, part.crossedLine⟩

/-- The scalar, the place behind it, and whether that is the start of a line. `indent` is the least column of a line
that continues the scalar. -/
def readPlain (inFlow : Bool) (indent : Int) (cursor : Cursor) : Token × Cursor × Bool :=
  let part := readParts inFlow indent cursor.maxSteps [] false cursor
  (.scalar (.ofChars part.chars) true, part.after, part.crossedLine)

end CacheSeal.Yaml
