import CacheSeal.Yaml.Resolution
import CacheSeal.Yaml.Token.Scan

/-!
The nodes of a document. An alias names a node that is there already, possibly one around it, so the nodes form a graph
and refer to each other by number.
-/

namespace CacheSeal.Yaml

inductive Node where
  | scalar (tag : Tag) (text : Text)
  | sequence (tag : Tag) (items : List Nat)
  | mapping (tag : Tag) (entries : List (Nat × Nat))
deriving Inhabited

structure Graph where
  nodes : Array Node
  /-- An empty stream has none. -/
  root : Option Nat

namespace Graph

structure Reader where
  tokens : List Token
  /-- Why the tokens break off, if they do. -/
  fault : Option Error
  nodes : Array Node
  anchors : List (List Char × Nat)
  handles : List (List Char × List Char)
  /-- How many collections are open. -/
  depth : Nat

abbrev Reading := StateT Reader (Except Error)

private def fail {α : Type} : Reading α :=
  throw .malformed

/-- The next token, or none at the end. A fault counts only when the reader gets there. -/
private def peek : Reading (Option Token) := do
  let reader ← get
  match reader.tokens, reader.fault with
  | token :: _, _ => return some token
  | [], some fault => throw fault
  | [], none => return none

private def advance : Reading Unit :=
  modify fun reader => { reader with tokens := reader.tokens.drop 1 }

/-- Passes the token if it is the one expected. -/
private def accept (token : Token) : Reading Bool := do
  if (← peek) = some token then
    advance
    return true
  else return false

private def expect (token : Token) : Reading Unit := do
  if !(← accept token) then fail

/-- Whether one of these tokens, or the end, comes next. -/
private def stopsAt (tokens : List Token) : Reading Bool := do
  match ← peek with
  | some token => return tokens.contains token
  | none => return false

private def add (node : Node) : Reading Nat :=
  modifyGet fun reader => (reader.nodes.size, { reader with nodes := reader.nodes.push node })

private def replace (number : Nat) (node : Node) : Reading Unit :=
  modify fun reader => { reader with nodes := reader.nodes.setIfInBounds number node }

private def emptyNode : Reading Nat :=
  add (.scalar .null [])

private def name (anchor : Option (List Char)) (number : Nat) : Reading Unit := do
  match anchor with
  | none => return ()
  | some anchor =>
    let reader ← get
    if reader.anchors.any (·.1 = anchor) then fail
    set { reader with anchors := (anchor, number) :: reader.anchors }

private def named (anchor : List Char) : Reading Nat := do
  match (← get).anchors.find? (·.1 = anchor) with
  | some entry => return entry.2
  | none => fail

private def readAnchor : Reading (Option (List Char)) := do
  match ← peek with
  | some (.anchor anchor) =>
    advance
    return some anchor
  | _ => return none

/-- A handle, if there is one, and a suffix. -/
abbrev TagName := Option (List Char) × List Char

private def readTagName : Reading (Option TagName) := do
  match ← peek with
  | some (.tag handle suffix) =>
    advance
    return some (handle, suffix)
  | _ => return none

private def fullTag : TagName → Reading (List Char)
  | (none, suffix) => return suffix
  | (some handle, suffix) => do
    match (← get).handles.find? (·.1 = handle) with
    | some entry => return entry.2 ++ suffix
    | none => fail

structure Properties where
  anchor : Option (List Char)
  tag : Option (List Char)

/-- An anchor and a tag, in either order. What a handle stands for is looked up when both are read. -/
private def readProperties : Reading Properties := do
  let early ← readAnchor
  let tag ← readTagName
  let anchor ← if early.isNone && tag.isSome then readAnchor else pure early
  return ⟨anchor, ← tag.mapM fullTag⟩

/-- A lone exclamation mark leaves the tag open, as no tag does. -/
private def Properties.given (properties : Properties) : Option Tag :=
  match properties.tag with
  | none | some ['!'] => none
  | some name => some (.ofName name)

private def Properties.scalarTag (properties : Properties) (text : Text) (isPlain : Bool) : Tag :=
  match properties.given with
  | some tag => tag
  | none =>
    if isPlain || properties.tag.isSome then
      match text.toChars? with
      | some chars => .ofPlain chars
      | none => .str
    else .str

inductive Context where
  | block
  /-- Where the entries of a sequence may stand at the indentation of the mapping around it. -/
  | blockMapping
  | flow
deriving DecidableEq

private def addScalar (properties : Properties) (text : Text) (isPlain : Bool) : Reading Nat := do
  let number ← add (.scalar (properties.scalarTag text isPlain) text)
  name properties.anchor number
  return number

/-- Collections within each other are followed up to this depth. -/
def maxDepth : Nat := 488

/-- Reads the content of a collection. -/
private def within {α : Type} (content : Reading α) : Reading α := do
  let depth := (← get).depth
  if maxDepth ≤ depth then throw .tooDeep
  modify fun reader => { reader with depth := depth + 1 }
  let result ← content
  modify fun reader => { reader with depth }
  return result

/-- The node is there before its items, for these may refer to it. -/
private def addSequence (properties : Properties) (items : Reading (List Nat)) : Reading Nat := do
  let tag := properties.given.getD .seq
  let number ← add (.sequence tag [])
  name properties.anchor number
  replace number (.sequence tag (← within items))
  return number

private def addMapping (properties : Properties) (entries : Reading (List (Nat × Nat))) : Reading Nat := do
  let tag := properties.given.getD .map
  let number ← add (.mapping tag [])
  name properties.anchor number
  replace number (.mapping tag (← within entries))
  return number

mutual

/-- Four steps a token are enough. -/
private def readNode : Nat → Context → Reading Nat
  | 0, _ => fail
  | steps + 1, context => do
    match ← peek with
    | some (.alias anchor) =>
      advance
      named anchor
    | _ =>
      let properties ← readProperties
      match ← peek, context with
      | some .blockEntry, .blockMapping => addSequence properties (readIndentless steps)
      | some (.scalar text isPlain), _ =>
        advance
        addScalar properties text isPlain
      | some .flowSequenceStart, _ =>
        advance
        addSequence properties (readFlowItems steps true)
      | some .flowMappingStart, _ =>
        advance
        addMapping properties (readFlowEntries steps true)
      | some .blockSequenceStart, .block | some .blockSequenceStart, .blockMapping =>
        advance
        addSequence properties (readBlockItems steps)
      | some .blockMappingStart, .block | some .blockMappingStart, .blockMapping =>
        advance
        addMapping properties (readBlockEntries steps)
      | _, _ =>
        if properties.anchor.isSome || properties.tag.isSome then addScalar properties [] true else fail

/-- A node, unless one of the tokens comes next that leave it empty. -/
private def readUnless : Nat → List Token → Context → Reading Nat
  | 0, _, _ => fail
  | steps + 1, tokens, context => do
    if ← stopsAt tokens then emptyNode else readNode steps context

private def readBlockItems : Nat → Reading (List Nat)
  | 0 => fail
  | steps + 1 => do
    if ← accept .blockEntry then
      let item ← readUnless steps [.blockEntry, .blockEnd] .block
      return item :: (← readBlockItems steps)
    else
      expect .blockEnd
      return []

private def readIndentless : Nat → Reading (List Nat)
  | 0 => fail
  | steps + 1 => do
    if ← accept .blockEntry then
      let item ← readUnless steps [.blockEntry, .key, .value, .blockEnd] .block
      return item :: (← readIndentless steps)
    else return []

/-- The value after a key, which is empty if no mark of a value follows. -/
private def readValue : Nat → List Token → Context → Reading Nat
  | 0, _, _ => fail
  | steps + 1, tokens, context => do
    if ← accept .value then readUnless steps tokens context
    else
      let _ ← peek
      emptyNode

private def readBlockEntries : Nat → Reading (List (Nat × Nat))
  | 0 => fail
  | steps + 1 => do
    if ← accept .key then
      let key ← readUnless steps [.key, .value, .blockEnd] .blockMapping
      let value ← readValue steps [.key, .value, .blockEnd] .blockMapping
      return (key, value) :: (← readBlockEntries steps)
    else
      expect .blockEnd
      return []

/-- Items are parted by commas, and one comma may follow the last. An item with the mark of a key is a mapping of one
entry. -/
private def readFlowItems : Nat → Bool → Reading (List Nat)
  | 0, _ => fail
  | steps + 1, isFirst => do
    if ← accept .flowSequenceEnd then return []
    if !isFirst then expect .flowEntry
    if ← accept .key then
      let pair : Reading (List (Nat × Nat)) := do
        let key ← readUnless steps [.value, .flowEntry, .flowSequenceEnd] .flow
        let value ← readValue steps [.flowEntry, .flowSequenceEnd] .flow
        return [(key, value)]
      let item ← addMapping ⟨none, none⟩ pair
      return item :: (← readFlowItems steps false)
    else if ← accept .flowSequenceEnd then return []
    else
      let item ← readNode steps .flow
      return item :: (← readFlowItems steps false)

private def readFlowEntries : Nat → Bool → Reading (List (Nat × Nat))
  | 0, _ => fail
  | steps + 1, isFirst => do
    if ← accept .flowMappingEnd then return []
    if !isFirst then expect .flowEntry
    if ← accept .key then
      let key ← readUnless steps [.value, .flowEntry, .flowMappingEnd] .flow
      let value ← readValue steps [.flowEntry, .flowMappingEnd] .flow
      return (key, value) :: (← readFlowEntries steps false)
    else if ← accept .flowMappingEnd then return []
    else
      let key ← readNode steps .flow
      let value ← emptyNode
      return (key, value) :: (← readFlowEntries steps false)

end

def defaultHandles : List (List Char × List Char) :=
  [(['!'], ['!']), (['!', '!'], Tag.standard)]

/-- The directives before a document. One version at most is given, and each handle once. -/
private def readDirectives : Nat → Bool → List (List Char × List Char) → Reading Unit
  | 0, _, _ => fail
  | steps + 1, hasVersion, handles => do
    match ← peek with
    | some (.directive (.version major)) =>
      if hasVersion || major ≠ 1 then fail
      advance
      readDirectives steps true handles
    | some (.directive (.tagHandle handle expansion)) =>
      if handles.any (·.1 = handle) then fail
      advance
      readDirectives steps hasVersion ((handle, expansion) :: handles)
    | some (.directive .reserved) =>
      advance
      readDirectives steps hasVersion handles
    | _ => modify fun reader => { reader with handles := handles ++ defaultHandles }

private def startsDocument : Option Token → Bool
  | some (.directive _) | some .documentStart => true
  | _ => false

private def dropDocumentEnds : Nat → Reading Unit
  | 0 => return ()
  | steps + 1 => do
    if ← accept .documentEnd then dropDocumentEnds steps

private def startDocument (steps : Nat) : Reading Unit := do
  readDirectives steps false []
  expect .documentStart

/-- The one document of a stream, which its marks may surround. What follows it is looked at as far as to the start of
another document. -/
private def readStream (steps : Nat) : Reading (Option Nat) := do
  match ← peek with
  | none => return none
  | first =>
    let root ←
      if startsDocument first then do
        startDocument steps
        match ← peek with
        | none | some .documentEnd => emptyNode
        | following => if startsDocument following then emptyNode else readNode steps .block
      else readNode steps .block
    dropDocumentEnds steps
    match ← peek with
    | none => return some root
    | some _ => do
      startDocument steps
      fail

def ofTokens (run : TokenRun) : Except Error Graph := do
  let steps := 4 * run.tokens.length + 4
  let (root, reader) ← (readStream steps).run ⟨run.tokens, run.fault, #[], [], defaultHandles, 0⟩
  return ⟨reader.nodes, root⟩

end Graph

end CacheSeal.Yaml
