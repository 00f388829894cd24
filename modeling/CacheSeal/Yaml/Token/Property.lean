import CacheSeal.Numeral
import CacheSeal.Text.Hex
import CacheSeal.Yaml.Source
import CacheSeal.Yaml.Token.Basic

/-!
Names in a document: anchors and aliases, tags, and the directives before a document. Each reader starts at the
indicator and returns the place after what it has read.
-/

namespace CacheSeal.Yaml

/-- The name after the indicator of an anchor or alias. -/
def readName (cursor : Cursor) : Except Error (List Char × Cursor) :=
  let (name, after) := cursor.next.span isNameChar
  if name.isEmpty then .error .malformed
  else if isGap after.peek || ['?', ':', ',', ']', '\x7d', '%', '@', '\x60'].contains after.peek then .ok (name, after)
  else .error .malformed

def isTagChar (c : Char) : Bool :=
  c.isAlphanum || "-;/?:@&=+$,_.!~*'()[]%".toList.contains c

/-- A run of escaped bytes, which together are UTF-8. -/
private def escapedRun : List Char → Except Error (Bytes × List Char)
  | '%' :: high :: low :: rest => do
    match Hex.value? high, Hex.value? low with
    | some highValue, some lowValue =>
      let (bytes, left) ← escapedRun rest
      return (UInt8.ofNat (16 * highValue + lowValue) :: bytes, left)
    | _, _ => throw .malformed
  | '%' :: _ => .error .malformed
  | rest => .ok ([], rest)

/-- Resolves the escapes among the characters of a tag. A run of them takes three characters or more, so a text's
length of steps is enough. -/
private def unescapeTag : Nat → List Char → Except Error (List Char)
  | 0, _ => .ok []
  | _, [] => .ok []
  | steps + 1, c :: rest =>
    if c = '%' then do
      let (bytes, left) ← escapedRun (c :: rest)
      match decode? bytes with
      | some chars => return chars ++ (← unescapeTag steps left)
      | none => throw .malformed
    else do return c :: (← unescapeTag steps rest)

def readTagText (cursor : Cursor) : Except Error (List Char × Cursor) := do
  let (raw, after) := cursor.span isTagChar
  if raw.isEmpty then throw .malformed
  return (← unescapeTag raw.length raw, after)

/-- A handle is an exclamation mark, or a name between two of them. -/
def readHandle (cursor : Cursor) : Except Error (List Char × Cursor) :=
  if cursor.peek ≠ '!' then .error .malformed
  else
    let (name, after) := cursor.next.span isNameChar
    if after.peek = '!' then .ok ('!' :: name ++ ['!'], after.next)
    else if name.isEmpty ∧ after.peek = ' ' then .ok (['!'], after)
    else .error .malformed

/-- A second exclamation mark before the next space ends a handle. -/
private def hasHandle (cursor : Cursor) : Bool :=
  (cursor.next.span fun c => !isSpaceOrEnd c && c ≠ '!').2.peek = '!'

def readTag (cursor : Cursor) : Except Error (Token × Cursor) := do
  let following := cursor.peekAt 1
  let (token, after) ←
    if following = '<' then do
      let (name, after) ← readTagText (cursor.skip 2)
      if after.peek ≠ '>' then throw .malformed
      pure (Token.tag none name, after.next)
    else if isGap following then pure (Token.tag none ['!'], cursor.next)
    else if hasHandle cursor then do
      let (handle, after) ← readHandle cursor
      let (suffix, after) ← readTagText after
      pure (Token.tag (some handle) suffix, after)
    else do
      let (suffix, after) ← readTagText cursor.next
      pure (Token.tag (some ['!']) suffix, after)
  if isSpaceOrEnd after.peek then return (token, after) else throw .malformed

private def readNumber (cursor : Cursor) : Except Error (Nat × Cursor) :=
  let (digits, after) := cursor.span Char.isDigit
  if digits.isEmpty then .error .malformed
  else if Numeral.maxDecimalDigits < digits.length then .error .badDigits
  else .ok (digits.foldl (fun total digit => total * 10 + (digit.toNat - '0'.toNat)) 0, after)

private def readVersion (cursor : Cursor) : Except Error (Directive × Cursor) := do
  let (major, after) ← readNumber cursor.skipSpaces
  if after.peek ≠ '.' then throw .malformed
  let (_, after) ← readNumber after.next
  if isSpaceOrEnd after.peek then return (.version major, after) else throw .malformed

private def readTagHandle (cursor : Cursor) : Except Error (Directive × Cursor) := do
  let (handle, after) ← readHandle cursor.skipSpaces
  if after.peek ≠ ' ' then throw .malformed
  let (expansion, after) ← readTagText after.skipSpaces
  if isSpaceOrEnd after.peek then return (.tagHandle handle expansion, after) else throw .malformed

def readDirective (cursor : Cursor) : Except Error (Token × Cursor) := do
  let (name, after) := cursor.next.span isNameChar
  if name.isEmpty || !isSpaceOrEnd after.peek then throw .malformed
  let (content, after) ←
    if name = "YAML".toList then readVersion after
    else if name = "TAG".toList then readTagHandle after
    else pure (Directive.reserved, after.skipWhile (!isBreak ·))
  return (.directive content, ← after.endLine)

end CacheSeal.Yaml
