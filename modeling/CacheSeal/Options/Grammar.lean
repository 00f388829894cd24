import CacheSeal.Argument
import CacheSeal.Options.Usage
import CacheSeal.Text.Digit

/-!
Telling options from operands. An option may be written in full or by a start that no other has, with its value joined
or in the next argument; options of one letter may share an argument. What looks like a negative number, holds a
space or follows a lone pair of dashes is an operand.
-/

namespace CacheSeal.Options

structure Switch (α : Type) where
  spellings : List String
  takesValue : Bool
  meaning : α

variable {α : Type}

/-- All spellings, as messages name the option. -/
def Switch.name (switch : Switch α) : String :=
  String.intercalate "/" switch.spellings

structure Found (α : Type) where
  switch : Switch α
  spelling : String
  /-- What the argument of the option holds besides, after an equals sign or without one. -/
  joined : Option Text

/-- What an argument is taken for. -/
inductive Mark (α : Type) where
  | operand
  | dashes
  | switch (found : Found α)
  | unknown

def spelled (switches : List (Switch α)) : List (String × Switch α) :=
  switches.flatMap fun switch => switch.spellings.map (·, switch)

/-- The option that is spelled like this, with the spelling. -/
def switchOf? (switches : List (Switch α)) (text : Text) : Option (Switch α × String) :=
  ((spelled switches).find? fun (spelling, _) => Text.ofString spelling = text).map fun (spelling, switch) =>
    (switch, spelling)

def dash : CodePoint := '-'

def equalsSign : CodePoint := '='

/-- The text before the first equals sign, and the text behind it if there is one. -/
def splitEquals (text : Text) : Text × Option Text :=
  let before := text.takeWhile (· ≠ equalsSign)
  match text.drop before.length with
  | _ :: behind => (before, some behind)
  | [] => (before, none)

def isLong (text : Text) : Bool :=
  text.take 2 = [dash, dash]

/-- All options that an argument may be short for. -/
def candidates (switches : List (Switch α)) (text : Text) : List (Found α) :=
  if isLong text then
    let (start, joined) := splitEquals text
    (spelled switches).filterMap fun (spelling, switch) =>
      if start.isPrefixOf (Text.ofString spelling) then some ⟨switch, spelling, joined⟩ else none
  else
    (spelled switches).filterMap fun (spelling, switch) =>
      if Text.ofString spelling = text.take 2 then some ⟨switch, spelling, some (text.drop 2)⟩
      else if text.isPrefixOf (Text.ofString spelling) then some ⟨switch, spelling, none⟩
      else none

def isDigitOfAnyScript (point : CodePoint) : Bool :=
  (point.toChar?.bind Digit.value?).isSome

/-- A minus sign and a number, perhaps with a point; a line feed may end it. -/
def isNegativeNumber (text : Text) : Bool :=
  let line := if text.getLast? = some (.ofChar '\n') then text.dropLast else text
  match line with
  | sign :: number =>
    let whole := number.takeWhile isDigitOfAnyScript
    sign = dash && match number.drop whole.length with
      | [] => !whole.isEmpty
      | mark :: fraction => mark = .ofChar '.' && !fraction.isEmpty && fraction.all isDigitOfAnyScript
  | [] => false

/-- An argument that starts with a dash and is longer than that. -/
def markDashed (switches : List (Switch α)) (argument : Text) : Except Usage (Mark α) :=
  match switchOf? switches argument with
  | some switch => .ok (.switch ⟨switch.1, switch.2, none⟩)
  | none =>
    let (before, joined) := splitEquals argument
    match joined, switchOf? switches before with
    | some _, some switch => .ok (.switch ⟨switch.1, switch.2, joined⟩)
    | _, _ =>
      match candidates switches argument with
      | [found] => .ok (.switch found)
      | [] => .ok (if isNegativeNumber argument || argument.contains ' ' then .operand else .unknown)
      | several => .error (.ambiguous argument (several.map (·.spelling)))

def mark (switches : List (Switch α)) (argument : Text) : Except Usage (Mark α) :=
  if argument.head? = some dash && argument ≠ [dash] then markDashed switches argument else .ok .operand

/-- Everything behind a lone pair of dashes is an operand. -/
def markAll (switches : List (Switch α)) : List Text → Except Usage (List (Text × Mark α))
  | [] => .ok []
  | argument :: rest =>
    if argument = [dash, dash] then .ok ((argument, .dashes) :: rest.map (·, .operand))
    else do return (argument, ← mark switches argument) :: (← markAll switches rest)

/-- What the arguments say, one after the other. -/
inductive Event (α : Type) where
  | switch (switch : Switch α) (value : Argument Text)
  | operand (arguments : List Text)

/-- An argument of options taken apart. -/
structure Cluster (α : Type) where
  events : List (Event α)
  /-- The last option still looks for its value in the arguments that follow. -/
  waiting : Option (Switch α)

def Cluster.before (event : Event α) (cluster : Cluster α) : Cluster α :=
  { cluster with events := event :: cluster.events }

/-- An option without a joined value. -/
def alone (switch : Switch α) : Cluster α :=
  if switch.takesValue then ⟨[], some switch⟩ else ⟨[.switch switch .absent], none⟩

/-- An option with the value joined to it. A pair of dashes is no value, wherever it stands. -/
def withValue (switch : Switch α) (text : Text) : Cluster α :=
  ⟨[.switch switch (if text = [dash, dash] then .empty else .given text)], none⟩

/-- The text joined to an option of one letter is its value, or further such options. -/
def readCluster (switches : List (Switch α)) (switch : Switch α) (joined : Text) : Except Usage (Cluster α) :=
  if switch.takesValue then .ok (withValue switch joined)
  else
    match joined with
    | [] => .error (.needlessValue switch.name joined)
    | letter :: rest =>
      match switchOf? switches [dash, letter] with
      | none => .error (.needlessValue switch.name joined)
      | some (next, _) => do
        let cluster ← if rest.isEmpty then .ok (alone next) else readCluster switches next rest
        return cluster.before (.switch switch .absent)

def takeApart (switches : List (Switch α)) (found : Found α) : Except Usage (Cluster α) :=
  match found.joined with
  | none => .ok (alone found.switch)
  | some joined =>
    if isLong (.ofString found.spelling) then
      if found.switch.takesValue then .ok (withValue found.switch joined)
      else .error (.needlessValue found.switch.name joined)
    else readCluster switches found.switch joined

/-- What a command line takes as operands: one argument, or a command with all that follows it. -/
inductive Operands where
  | single
  | command
deriving DecidableEq

def isDashes : Text × Mark α → Bool
  | (_, .dashes) => true
  | _ => false

/-- The operand at the start of the arguments; the pair of dashes beside a single one does not belong to it. -/
def takeOperand? (operands : Operands) (arguments : List (Text × Mark α)) :
    Option (List Text × List (Text × Mark α)) :=
  let leading := arguments.takeWhile isDashes
  match arguments.drop leading.length with
  | (argument, .operand) :: rest =>
    match operands with
    | .command => some (arguments.map (·.1), [])
    | .single => some ([argument], rest.dropWhile isDashes)
  | _ => none

structure Outcome (α : Type) where
  events : List (Event α)
  /-- Arguments that nobody asked for. -/
  unclaimed : List Text
  /-- Why the reading broke off, if it did; what was read before counts first. -/
  fault : Option Usage

def Outcome.after (events : List (Event α)) (unclaimed : List Text) (outcome : Outcome α) : Outcome α :=
  { outcome with events := events ++ outcome.events, unclaimed := unclaimed ++ outcome.unclaimed }

def isOption : Text × Mark α → Bool
  | (_, .switch _) | (_, .unknown) => true
  | _ => false

/-- Each step takes an argument or more. -/
def readMarked (switches : List (Switch α)) (operands : Operands) :
    Nat → Bool → List (Text × Mark α) → Outcome α
  | 0, _, _ => ⟨[], [], none⟩
  | steps + 1, isOpen, arguments =>
    match arguments with
    | (argument, .unknown) :: rest => (readMarked switches operands steps isOpen rest).after [] [argument]
    | (_, .switch found) :: rest =>
      match takeApart switches found with
      | .error fault => ⟨[], [], some fault⟩
      | .ok cluster =>
        match cluster.waiting with
        | none => (readMarked switches operands steps isOpen rest).after cluster.events []
        | some switch =>
          match rest with
          | (value, .operand) :: rest =>
            (readMarked switches operands steps isOpen rest).after
              (cluster.events ++ [.switch switch (.given value)]) []
          | _ => ⟨[], [], some (.missingValue switch.name)⟩
    | _ =>
      match if isOpen then takeOperand? operands arguments else none with
      | some (operand, rest) => (readMarked switches operands steps false rest).after [.operand operand] []
      | none =>
        let unclaimed := (arguments.takeWhile (!isOption ·)).map (·.1)
        match arguments.dropWhile (!isOption ·) with
        | [] => ⟨[], unclaimed, none⟩
        | rest => (readMarked switches operands steps isOpen rest).after [] unclaimed

/-- Reads a command line. An argument that may be short for several options spoils it as a whole. -/
def read (switches : List (Switch α)) (operands : Operands) (arguments : List Text) : Except Usage (Outcome α) := do
  return readMarked switches operands (arguments.length + 1) true (← markAll switches arguments)

end CacheSeal.Options
