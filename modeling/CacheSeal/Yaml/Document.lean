import CacheSeal.Nesting
import CacheSeal.Value.SetOrder
import CacheSeal.Yaml.Node
import CacheSeal.Yaml.Scalar
import CacheSeal.Yaml.Source

/-!
The value of a document. A container is filled after the containers around it, level by level, which decides the fault
that is reported of several. Mappings that are to be merged into another stand before its own entries, so that these
prevail. Since a container may hold itself, values are read off only when all containers are filled, and then each
where it is looked at.

The loader of documents is no part of the program, which is given its results only. The modules under this name stand
for it, so that settings can be read from the bytes of a file. What is proved of settings is about whatever a document
loads as, and takes one fact from here, `Yaml.load_keys`; only at fixed documents is the loader computed.
-/

namespace CacheSeal.Yaml

/-- A scalar, or a container by the number of its node. -/
inductive Item where
  | value (value : Value)
  | container (number : Nat)
deriving Inhabited

inductive Container where
  | list (items : Array Item)
  | pairs (items : Array (Item × Item))
  | map (entries : Array (Value × Item))
  | set (items : Array Value)

/-- What stands for a container inside itself. -/
def Container.again : Container → Value
  | .list _ | .pairs _ => .listAgain
  | .map _ | .set _ => .mapAgain

namespace Builder

structure State where
  nodes : Array Node
  /-- How many entries the mappings of the document have. -/
  entryCount : Nat
  /-- Mappings that stand for scalars, with their values. -/
  mapped : List (Nat × Value)
  /-- The containers met so far, in the order in which they are to be filled. -/
  met : Array Nat
  filled : List (Nat × Container)

abbrev Building := StateT State (Except Error)

def fail {α : Type} : Building α :=
  throw .malformed

def node (number : Nat) : Building Node := do
  return (← get).nodes.getD number default

def setNode (number : Nat) (node : Node) : Building Unit :=
  modify fun state => { state with nodes := state.nodes.setIfInBounds number node }

def tagOf : Node → Tag
  | .scalar tag _ => tag
  | .sequence tag _ => tag
  | .mapping tag _ => tag

def isContainerTag (tag : Tag) : Bool :=
  [Tag.seq, .map, .set, .omap, .pairs].contains tag

def isScalarTag (tag : Tag) : Bool :=
  [Tag.null, .bool, .int, .float, .binary, .timestamp, .str].contains tag

/-- The text of a scalar. A mapping stands for the scalar under its default key, unless the way there is too long, or
has no end because it leads back to itself. -/
def scalarText : Nat → Nat → Building Text
  | 0, _ => throw .tooDeep
  | depth + 1, number => do
    match ← node number with
    | .scalar _ text => return text
    | .sequence _ _ => fail
    | .mapping _ entries =>
      match ← entries.findM? fun entry => return tagOf (← node entry.1) = .default with
      | some entry => scalarText depth entry.2
      | none => fail

/-- A mapping that stands for a scalar is read once, for its keys may lose their tag afterwards. No mapping stands for a
timestamp. -/
def scalarOf (number : Nat) (node : Node) : Building Value := do
  let text := scalarText maxNesting number
  match node, (← get).mapped.lookup number with
  | .mapping _ _, some value => return value
  | .mapping .timestamp _, none =>
    let _ ← text
    throw .structuredTimestamp
  | .mapping tag _, none =>
    let value ← Scalar.value number tag (← text)
    modify fun state => { state with mapped := (number, value) :: state.mapped }
    return value
  | _, _ => Scalar.value number (tagOf node) (← text)

/-- What a node stands for; the content of a container comes later. -/
def item (number : Nat) : Building Item := do
  let node ← node number
  if isContainerTag (tagOf node) then
    modify fun state =>
      if state.met.contains number then state else { state with met := state.met.push number }
    return .container number
  else if isScalarTag (tagOf node) then return .value (← scalarOf number node)
  else fail

def entriesOf (number : Nat) : Building (List (Nat × Nat)) := do
  match ← node number with
  | .mapping _ entries => return entries
  | _ => fail

/-- The first merge entry, and the entries without it. -/
def splitMerge (entries : List (Nat × Nat)) : Building (Option (Nat × List (Nat × Nat))) := do
  match entries with
  | [] => return none
  | entry :: rest =>
    if tagOf (← node entry.1) = .merge then return some (entry.2, rest)
    else return (← splitMerge rest).map fun (source, others) => (source, entry :: others)

/-- A default key that is not merged is a key like any other. -/
def settleKey (entry : Nat × Nat) : Building Unit := do
  match ← node entry.1 with
  | .scalar .default text => setNode entry.1 (.scalar .str text)
  | .sequence .default items => setNode entry.1 (.sequence .str items)
  | .mapping .default entries => setNode entry.1 (.mapping .str entries)
  | _ => return ()

/-- Replaces the merge entries of a mapping by the entries that they name, which come before its own. Of several sources
in a list the first prevails. A merge entry is taken out before its sources are looked at, so a mapping may name itself,
and no more steps are taken than there are such entries; `merged` is what has been gathered so far. Sources have sources
of their own, though only so deep. -/
def flatten : Nat → Nat → Nat → List (Nat × Nat) → Building Unit
  | 0, _, _, _ => return ()
  | _ + 1, 0, _, _ => throw .tooDeep
  | steps + 1, depth + 1, number, merged => do
    match ← node number with
    | .mapping tag entries =>
      match ← splitMerge entries with
      | some (source, others) =>
        setNode number (.mapping tag others)
        let sources ← match ← node source with
          | .mapping _ _ => pure [source]
          | .sequence _ sources => pure sources
          | .scalar _ _ => fail
        let gathered ← sources.mapM fun source => do
          flatten steps depth source []
          entriesOf source
        flatten steps (depth + 1) number (merged ++ gathered.reverse.flatten)
      | none =>
        entries.forM settleKey
        setNode number (.mapping tag (merged ++ entries))
    | _ => return ()

def keyValue (number : Nat) : Building Value := do
  match ← item number with
  | .value value => return value
  | .container _ => fail

def mapEntries (number : Nat) : Building (List (Value × Item)) := do
  flatten ((← get).entryCount + 1) maxNesting number []
  let entries ← entriesOf number
  entries.foldlM (fun filled (key, value) => do
    return Value.putEntry filled (← keyValue key) (← item value)) []

def pairItem (number : Nat) : Building (Item × Item) := do
  match ← entriesOf number with
  | [(key, value)] => return (← item key, ← item value)
  | _ => fail

def content (number : Nat) : Building Container := do
  match ← node number with
  | .sequence .seq items => return .list (← items.mapM item).toArray
  | .sequence .omap items | .sequence .pairs items => return .pairs (← items.mapM pairItem).toArray
  | .mapping .map _ => return .map (← mapEntries number).toArray
  | .mapping .set _ => return .set (SetOrder.arrange ((← mapEntries number).map (·.1))).toArray
  | _ => fail

/-- Fills the containers from the `next` one on; more of them may be met on the way, each node once. -/
def fillAll : Nat → Nat → Building Unit
  | 0, _ => return ()
  | steps + 1, next => do
    match (← get).met[next]? with
    | none => return ()
    | some number =>
      let container ← content number
      modify fun state => { state with filled := (number, container) :: state.filled }
      fillAll steps (next + 1)

/-- The containers by the numbers of their nodes. -/
abbrev Filled := Array (Option Container)

def State.containers (state : State) : Filled :=
  state.filled.foldl (fun filled entry => filled.setIfInBounds entry.1 (some entry.2))
    (Array.replicate state.nodes.size none)

/-- The value of an item inside the `around` containers, of which there are so many at most. -/
def readOff (filled : Filled) : Nat → List Nat → Item → Value
  | _, _, .value value => value
  | 0, _, .container _ => .null
  | depth + 1, around, .container number =>
    let inner := readOff filled depth (number :: around)
    match filled.getD number none with
    | none => .null
    | some container =>
      if around.contains number then container.again
      else
        match container with
        | .list items => .list items.size fun place => inner items[place]
        | .pairs items => .list items.size fun place => .pair (inner items[place].1) (inner items[place].2)
        | .map entries => .map entries.size (fun place => entries[place].1) fun place => inner entries[place].2
        | .set items => .set items.size fun place => items[place]

/-- Each entry of a mapping at the root is read off by itself, so that a reference to the root shows its entries. -/
def document (state : State) (root : Item) : Value :=
  let filled := state.containers
  let value := readOff filled (filled.size + 1) []
  match root with
  | .value value => value
  | .container number =>
    match filled.getD number none with
    | some (.map entries) => .map entries.size (fun place => entries[place].1) fun place => value entries[place].2
    | _ => value root

end Builder

def Graph.entryCount (graph : Graph) : Nat :=
  let entriesIn : Node → Nat
    | .mapping _ entries => entries.length
    | _ => 0
  graph.nodes.foldl (fun count node => count + entriesIn node) 0

/-- The value of the graph's root; that of an empty stream is nothing. -/
def Graph.value (graph : Graph) : Except Error Value := do
  match graph.root with
  | none => return .null
  | some root =>
    let building : Builder.Building Item := do
      let item ← Builder.item root
      Builder.fillAll (graph.nodes.size + 1) 0
      return item
    let (item, state) ← building.run ⟨graph.nodes, graph.entryCount, [], #[], []⟩
    return Builder.document state item

/-- The value of the document that the characters are. -/
def load (chars : List Char) : Except Error Value := do
  let chars ← source chars
  (← Graph.ofTokens (Token.scan chars)).value

end CacheSeal.Yaml
