import CacheSeal.Yaml.Token.Block
import CacheSeal.Yaml.Token.Plain
import CacheSeal.Yaml.Token.Property
import CacheSeal.Yaml.Token.Quoted

/-!
From characters to tokens. Whether something is a key is known only at the colon behind it, so every token that may
start one is remembered until then; the key's own token, and the start of a mapping, are put in front of it afterwards.
-/

namespace CacheSeal.Yaml

/-- A place where a key may have begun. -/
structure PossibleKey where
  /-- The level of flow brackets; block context is the outermost level. -/
  level : Nat
  /-- How many tokens stand before it. -/
  tokenCount : Nat
  /-- Nothing but a key can stand here, as the first thing at the indentation of a block collection. -/
  required : Bool
  index : Nat
  line : Nat
  column : Nat

structure Scanner where
  cursor : Cursor
  /-- The last of them first. -/
  tokens : List Token
  tokenCount : Nat
  /-- The column of the innermost block collection; `-1` outside of all. -/
  indent : Int
  outerIndents : List Int
  keyAllowed : Bool
  /-- How many flow brackets are open. -/
  level : Nat
  /-- The innermost level first, and at most one for a level. -/
  possibleKeys : List PossibleKey

namespace Scanner

def start (chars : List Char) : Scanner :=
  ⟨.start chars, [], 0, -1, [], true, 0, []⟩

def inFlow (scanner : Scanner) : Bool :=
  0 < scanner.level

def possibleKey? (scanner : Scanner) : Option PossibleKey :=
  scanner.possibleKeys.head?.filter (·.level = scanner.level)

def push (scanner : Scanner) (token : Token) : Scanner :=
  { scanner with tokens := token :: scanner.tokens, tokenCount := scanner.tokenCount + 1 }

def pushAt (scanner : Scanner) (after : Cursor) (token : Token) : Scanner :=
  { scanner.push token with cursor := after }

/-- Puts a token behind the first `place` ones. -/
def pushBehind (scanner : Scanner) (place : Nat) (token : Token) : Scanner :=
  let later := scanner.tokenCount - place
  { scanner with
    tokens := scanner.tokens.take later ++ token :: scanner.tokens.drop later
    tokenCount := scanner.tokenCount + 1 }

/-- A single key has to fit on a line, and within 1024 characters. -/
private def isStale (cursor : Cursor) (key : PossibleKey) : Bool :=
  key.line ≠ cursor.line || 1024 < cursor.index - key.index

private def dropStale (scanner : Scanner) : Except Error Scanner :=
  let (stale, fresh) := scanner.possibleKeys.partition (isStale scanner.cursor)
  if stale.any (·.required) then .error .malformed else .ok { scanner with possibleKeys := fresh }

private def dropKey (scanner : Scanner) : Except Error Scanner :=
  match scanner.possibleKey? with
  | some key =>
    if key.required then .error .malformed else .ok { scanner with possibleKeys := scanner.possibleKeys.drop 1 }
  | none => .ok scanner

private def rememberKey (scanner : Scanner) : Except Error Scanner := do
  if scanner.keyAllowed then
    let scanner ← scanner.dropKey
    let cursor := scanner.cursor
    let required := !scanner.inFlow && scanner.indent = cursor.column
    let key : PossibleKey := ⟨scanner.level, scanner.tokenCount, required, cursor.index, cursor.line, cursor.column⟩
    return { scanner with possibleKeys := key :: scanner.possibleKeys }
  else return scanner

/-- Closes the block collections that are indented further than `column`, of which those around the innermost are
given. -/
private def closeBlocks (column : Int) : List Int → Scanner → Scanner
  | [], scanner => scanner
  | outer :: outers, scanner =>
    if column < scanner.indent then
      closeBlocks column outers ({ scanner with indent := outer, outerIndents := outers }.push .blockEnd)
    else scanner

private def unwind (scanner : Scanner) (column : Int) : Scanner :=
  if scanner.inFlow then scanner else closeBlocks column scanner.outerIndents scanner

/-- Opens a block collection at `column`, if that is further in than the one around; `place` tokens stand before it. -/
private def openBlock (scanner : Scanner) (column place : Nat) (token : Token) : Scanner :=
  if scanner.indent < column then
    { scanner.pushBehind place token with indent := column, outerIndents := scanner.indent :: scanner.outerIndents }
  else scanner

/-- Spaces, comments and line breaks up to the next token; a line break in block context lets a key stand again. -/
private def skipToToken (inFlow : Bool) : Nat → Bool → Cursor → Bool × Cursor
  | 0, keyAllowed, cursor => (keyAllowed, cursor)
  | steps + 1, keyAllowed, cursor =>
    let after := cursor.skipSpaces.skipComment
    match after.takeBreak? with
    | some (_, below) => skipToToken inFlow steps (keyAllowed || !inFlow) below
    | none => (keyAllowed, after)

private def toNextToken (scanner : Scanner) : Except Error Scanner :=
  let cursor := scanner.cursor
  let first := if cursor.index = 0 ∧ cursor.peek = byteOrderMark then cursor.next else cursor
  let (keyAllowed, cursor) := skipToToken scanner.inFlow first.maxSteps scanner.keyAllowed first
  dropStale { scanner with keyAllowed, cursor }

private def documentMark (scanner : Scanner) (token : Token) : Except Error Scanner := do
  let scanner ← (scanner.unwind (-1)).dropKey
  return { scanner with keyAllowed := false }.pushAt (scanner.cursor.skip 3) token

private def directiveLine (scanner : Scanner) : Except Error Scanner := do
  let scanner ← (scanner.unwind (-1)).dropKey
  let (token, after) ← readDirective scanner.cursor
  return { scanner with keyAllowed := false }.pushAt after token

private def openFlow (scanner : Scanner) (token : Token) : Except Error Scanner := do
  let scanner ← scanner.rememberKey
  return { scanner with level := scanner.level + 1, keyAllowed := true }.pushAt scanner.cursor.next token

/-- A bracket that closes nothing is a fault wherever it stands. -/
private def closeFlow (scanner : Scanner) (token : Token) : Except Error Scanner := do
  let scanner ← scanner.dropKey
  match scanner.level with
  | 0 => throw .malformed
  | level + 1 => return { scanner with level, keyAllowed := false }.pushAt scanner.cursor.next token

private def flowEntry (scanner : Scanner) : Except Error Scanner := do
  let scanner ← scanner.dropKey
  return { scanner with keyAllowed := true }.pushAt scanner.cursor.next .flowEntry

/-- In block context an entry, key or value may open a collection at its column, but only where a key may stand. -/
private def openAtCursor (scanner : Scanner) (token : Token) : Except Error Scanner :=
  if scanner.inFlow then .ok scanner
  else if scanner.keyAllowed then .ok (scanner.openBlock scanner.cursor.column scanner.tokenCount token)
  else .error .malformed

private def blockEntry (scanner : Scanner) : Except Error Scanner := do
  let scanner ← (← scanner.openAtCursor .blockSequenceStart).dropKey
  return { scanner with keyAllowed := true }.pushAt scanner.cursor.next .blockEntry

private def explicitKey (scanner : Scanner) : Except Error Scanner := do
  let scanner ← (← scanner.openAtCursor .blockMappingStart).dropKey
  return { scanner with keyAllowed := !scanner.inFlow }.pushAt scanner.cursor.next .key

private def insertKey (scanner : Scanner) (key : PossibleKey) : Scanner :=
  let marked := { scanner.pushBehind key.tokenCount .key with
    possibleKeys := scanner.possibleKeys.drop 1
    keyAllowed := false }
  if marked.inFlow then marked else marked.openBlock key.column key.tokenCount .blockMappingStart

private def mappingValue (scanner : Scanner) : Except Error Scanner := do
  match scanner.possibleKey? with
  | some key =>
    let scanner := scanner.insertKey key
    return scanner.pushAt scanner.cursor.next .value
  | none =>
    let scanner ← scanner.openAtCursor .blockMappingStart
    return { scanner with keyAllowed := !scanner.inFlow }.pushAt scanner.cursor.next .value

/-- A token that may start a key, and after which none may stand. -/
private def keyLike (scanner : Scanner) (read : Cursor → Except Error (Token × Cursor)) : Except Error Scanner := do
  let scanner ← scanner.rememberKey
  let (token, after) ← read scanner.cursor
  return { scanner with keyAllowed := false }.pushAt after token

private def plainScalar (scanner : Scanner) : Except Error Scanner := do
  let scanner ← scanner.rememberKey
  let (token, after, crossedLine) := readPlain scanner.inFlow (scanner.indent + 1) scanner.cursor
  return { scanner with keyAllowed := crossedLine }.pushAt after token

private def blockScalar (scanner : Scanner) : Except Error Scanner := do
  let scanner ← scanner.dropKey
  let (token, after) ← readBlock scanner.indent scanner.cursor
  return { scanner with keyAllowed := true }.pushAt after token

/-- The characters with a meaning of their own at the start of a token. -/
def indicators : List Char :=
  "-?:,[]\x7b\x7d#&*!|>'\"%@\x60".toList

private def startsPlain (scanner : Scanner) : Bool :=
  let c := scanner.cursor.peek
  let following := scanner.cursor.peekAt 1
  (!isGap c && !indicators.contains c)
    || (!isGap following && (c = '-' || (!scanner.inFlow && (c = '?' || c = ':'))))

/-- Reads the token at the cursor. -/
private def readToken (scanner : Scanner) : Except Error Scanner :=
  let cursor := scanner.cursor
  let c := cursor.peek
  let gapFollows := isGap (cursor.peekAt 1)
  let flow := scanner.inFlow
  if c = '%' ∧ cursor.column = 0 then scanner.directiveLine
  else if cursor.column = 0 ∧ cursor.atDocumentMark then
    scanner.documentMark (if c = '-' then .documentStart else .documentEnd)
  else if c = '[' then scanner.openFlow .flowSequenceStart
  else if c = '\x7b' then scanner.openFlow .flowMappingStart
  else if c = ']' then scanner.closeFlow .flowSequenceEnd
  else if c = '\x7d' then scanner.closeFlow .flowMappingEnd
  else if c = ',' then scanner.flowEntry
  else if c = '-' ∧ gapFollows then scanner.blockEntry
  else if c = '?' ∧ (flow ∨ gapFollows) then scanner.explicitKey
  else if c = ':' ∧ (flow ∨ gapFollows) then scanner.mappingValue
  else if c = '*' then scanner.keyLike fun cursor => do
    let (name, after) ← readName cursor
    return (.alias name, after)
  else if c = '&' then scanner.keyLike fun cursor => do
    let (name, after) ← readName cursor
    return (.anchor name, after)
  else if c = '!' then scanner.keyLike readTag
  else if (c = '|' ∨ c = '>') ∧ !flow then scanner.blockScalar
  else if c = '\'' ∨ c = '"' then scanner.keyLike readQuoted
  else if scanner.startsPlain then scanner.plainScalar
  else .error .malformed

/-- At the end of the text all collections close. -/
private def finish (scanner : Scanner) : Except Error Scanner :=
  (scanner.unwind (-1)).dropKey

/-- The tokens that nothing can be put in front of any more: those before all places where a key may have begun. -/
private def settledTokens (scanner : Scanner) : List Token :=
  let keys := scanner.possibleKeys.filter (!isStale scanner.cursor ·)
  scanner.tokens.reverse.take ((keys.map (·.tokenCount)).foldl min scanner.tokenCount)

/-- Goes on by a token, or to the end of the text; and whether it is the end. -/
private def step (scanner : Scanner) : Except Error (Scanner × Bool) := do
  let reached ← scanner.toNextToken
  let scanner := reached.unwind reached.cursor.column
  if scanner.cursor.rest.isEmpty then return (← scanner.finish, true) else return (← scanner.readToken, false)

/-- The tokens up to the end, or those that are settled before a fault and the fault. Each step takes a character or is
the last. -/
private def run : Nat → Scanner → List Token × Option Error
  | 0, scanner => (scanner.tokens.reverse, none)
  | steps + 1, scanner =>
    match scanner.step with
    | .error fault => (scanner.settledTokens, some fault)
    | .ok (finished, true) => (finished.tokens.reverse, none)
    | .ok (further, false) => run steps further

end Scanner

/-- The tokens of a text and, if it breaks off, why. -/
structure TokenRun where
  tokens : List Token
  fault : Option Error

def Token.scan (chars : List Char) : TokenRun :=
  let (tokens, fault) := Scanner.run (chars.length + 1) (.start chars)
  ⟨tokens, fault⟩

end CacheSeal.Yaml
