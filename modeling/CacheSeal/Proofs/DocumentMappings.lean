import CacheSeal.Settings.Entries
import CacheSeal.Yaml.Document
import Mathlib.Data.List.Basic

/-! The mappings of a document. Their keys are scalars and no two of them are the same, because an entry whose key is
there already is put into the place of the earlier one; so an entry is found by its key, wherever it stands. This is all
that the theory of settings takes from the loader of documents, and any loader with this property would do. -/

namespace CacheSeal

namespace Value
variable {α : Type} {entries : List (Value × α)} {key : Value}

/-- Scalars, no two of them the same. -/
structure AreKeys (keys : List Value) : Prop where
  scalar : ∀ key ∈ keys, key.isKey = true
  distinct : keys.Pairwise fun first second => first.sameKey second = false

theorem areKeys_nil : AreKeys [] :=
  ⟨nofun, .nil⟩

theorem keys_putEntry (entries : List (Value × α)) (key : Value) (item : α) :
    (putEntry entries key item).map (·.1) = entries.map (·.1) ∨
      (putEntry entries key item).map (·.1) = entries.map (·.1) ++ [key] ∧
        ∀ there ∈ entries.map (·.1), there.sameKey key = false := by
  induction entries with
  | nil => exact .inr ⟨rfl, nofun⟩
  | cons entry rest ih =>
    unfold putEntry
    split
    next => exact .inl rfl
    next other =>
      simp only [List.map_cons, List.cons_append, List.cons.injEq, true_and, List.forall_mem_cons]
      refine ih.imp_right ?_
      rintro ⟨added, apart⟩
      exact ⟨added, Bool.eq_false_iff.mpr other, apart⟩

theorem AreKeys.putEntry (areKeys : AreKeys (entries.map (·.1))) (scalar : key.isKey = true) (item : α) :
    AreKeys ((putEntry entries key item).map (·.1)) := by
  obtain same | ⟨added, apart⟩ := keys_putEntry entries key item
  · rwa [same]
  · rw [added]
    constructor
    · rw [List.forall_mem_append, List.forall_mem_singleton]
      exact ⟨areKeys.scalar, scalar⟩
    · rw [List.pairwise_append]
      refine ⟨areKeys.distinct, List.pairwise_singleton _ _, ?_⟩
      intro there member other only
      obtain rfl := List.mem_singleton.mp only
      exact apart there member

theorem isKey_ofFloat (source : Nat) (value : Float) : (ofFloat source value).isKey = true := by
  unfold ofFloat
  split <;> rfl

end Value

namespace Yaml

/-- The value, if there is one, is so. -/
def Gives {ε α : Type} (post : α → Prop) (result : Except ε α) : Prop :=
  ∀ value, result = .ok value → post value

namespace Gives
variable {ε α β : Type} {post : β → Prop}

theorem ok {value : β} (holds : post value) : Gives post (.ok value : Except ε β) := by
  intro other same
  cases same
  exact holds

theorem error (error : ε) : Gives post (.error error : Except ε β) :=
  nofun

theorem bind (first : Except ε α) {next : α → Except ε β} (gives : ∀ value, Gives post (next value)) :
    Gives post (first >>= next) := by
  cases first with
  | error => exact nofun
  | ok value => exact gives value

end Gives

namespace Scalar

/-- Whatever a scalar stands for can be a key. -/
theorem value_isKey (number : Nat) (tag : Tag) (text : Text) :
    Gives (fun read => read.isKey = true) (value number tag text) := by
  cases tag with
  | null => exact .ok rfl
  | str => exact .ok rfl
  | bool =>
    unfold value bool
    dsimp only
    split
    next => exact .ok rfl
    next => exact .error _
  | int =>
    apply Gives.bind
    intro chars
    apply Gives.bind
    intro signed
    apply Gives.bind
    intro whole
    exact .ok rfl
  | float =>
    apply Gives.bind
    intro chars
    apply Gives.bind
    intro signed
    have made (value : Float) : Gives (fun read => read.isKey = true)
        (.ok (Value.ofFloat (number + 1) (if signed.1 then -value else value)) : Except Error Value) :=
      .ok (Value.isKey_ofFloat _ _)
    dsimp only
    split
    next => exact .ok rfl
    next =>
      split
      next => exact made _
      next =>
        split
        next => exact .bind _ fun parts => .bind _ made
        next => exact .bind _ made
  | binary =>
    unfold value binary
    dsimp only
    split
    next =>
      split
      next =>
        split
        next => exact .ok rfl
        next => exact .error _
      next => exact .error _
    next => exact .error _
  | timestamp =>
    unfold value timestamp
    dsimp only
    split
    next => exact .error _
    next =>
      split
      next =>
        split
        next => exact .ok rfl
        next => exact .error _
      next =>
        split
        next => exact .ok rfl
        next => exact .error _
  | _ => exact .error _

end Scalar

/-- A mapping has keys that are told apart; other containers have none. -/
def Container.Proper : Container → Prop
  | .map entries => Value.AreKeys (entries.toList.map (·.1))
  | _ => True

namespace Builder

/-- All mappings that are filled are proper, and the scalars that mappings stand for can be keys. -/
structure Proper (state : State) : Prop where
  mapped : ∀ entry ∈ state.mapped, entry.2.isKey = true
  filled : ∀ entry ∈ state.filled, entry.2.Proper

/-- From a proper state the building comes to a proper one, and gives a value that is so. -/
def Builds {α : Type} (post : α → Prop) (building : Building α) : Prop :=
  ∀ state, Proper state → Gives (fun outcome => Proper outcome.2 ∧ post outcome.1) (building.run state)

namespace Builds
variable {α β : Type} {post : β → Prop} {between : α → Prop}

theorem pure {value : β} (holds : post value) : Builds post (Pure.pure value) :=
  fun _ proper => .ok ⟨proper, holds⟩

theorem throw (error : Error) : Builds post (MonadExcept.throw error : Building β) :=
  fun _ _ => .error error

theorem bind {first : Building α} {next : α → Building β} (builds : Builds between first)
    (goesOn : ∀ value, between value → Builds post (next value)) : Builds post (first >>= next) := by
  intro state proper
  have ends := builds state proper
  change Gives _ (first.run state >>= fun outcome => (next outcome.1).run outcome.2)
  cases ran : first.run state with
  | error error => exact nofun
  | ok outcome =>
    obtain ⟨kept, holds⟩ := ends outcome ran
    exact goesOn outcome.1 holds outcome.2 kept

theorem get : Builds Proper MonadState.get :=
  fun _ proper => .ok ⟨proper, proper⟩

theorem modify {change : State → State} (keeps : ∀ state, Proper state → Proper (change state)) :
    Builds (fun _ => True) (modify change : Building Unit) :=
  fun state proper => .ok ⟨keeps state proper, trivial⟩

theorem lift {result : Except Error β} (gives : Gives post result) : Builds post (liftM result : Building β) := by
  intro state proper
  cases result with
  | error error => exact nofun
  | ok value => exact .ok ⟨proper, gives value rfl⟩

theorem mapM {run : α → Building β} (builds : ∀ item, Builds post (run item)) (items : List α) :
    Builds (fun _ => True) (items.mapM run) := by
  induction items with
  | nil => exact .pure trivial
  | cons first rest ih =>
    rw [List.mapM_cons]
    exact (builds first).bind fun _ _ => ih.bind fun _ _ => .pure trivial

theorem forM {run : α → Building PUnit} (builds : ∀ item, Builds (fun _ => True) (run item)) (items : List α) :
    Builds (fun _ => True) (items.forM run) := by
  induction items with
  | nil => exact .pure trivial
  | cons first rest ih => exact (builds first).bind fun _ _ => ih

theorem findM? {test : α → Building Bool} (builds : ∀ item, Builds (fun _ => True) (test item)) (items : List α) :
    Builds (fun _ => True) (items.findM? test) := by
  induction items with
  | nil => exact .pure trivial
  | cons first rest ih =>
    refine (builds first).bind fun found _ => ?_
    cases found with
    | true => exact .pure trivial
    | false => exact ih

/-- What holds of what is gathered at first, and is kept by each step, holds of all that is gathered. -/
theorem foldlM {step : β → α → Building β} (builds : ∀ gathered item, post gathered → Builds post (step gathered item))
    (items : List α) {start : β} (holds : post start) : Builds post (items.foldlM step start) := by
  induction items generalizing start with
  | nil => exact .pure holds
  | cons first rest ih =>
    rw [List.foldlM_cons]
    exact (builds start first holds).bind fun _ kept => ih kept

end Builds

/-- What an item stands for, if it is no container, can be a key. -/
def IsKeyItem : Item → Prop
  | .value value => value.isKey = true
  | .container _ => True

theorem builds_fail {α : Type} {post : α → Prop} : Builds post (fail : Building α) :=
  .throw .malformed

theorem builds_node (number : Nat) : Builds (fun _ => True) (node number) :=
  Builds.get.bind fun _ _ => .pure trivial

theorem builds_setNode (number : Nat) (node : Node) : Builds (fun _ => True) (setNode number node) :=
  .modify fun _ proper => ⟨proper.mapped, proper.filled⟩

theorem builds_scalarText (depth number : Nat) : Builds (fun _ => True) (scalarText depth number) := by
  induction depth generalizing number with
  | zero => exact .throw .tooDeep
  | succ depth ih =>
    refine (builds_node number).bind fun node _ => ?_
    cases node with
    | scalar tag text => exact .pure trivial
    | sequence tag items => exact builds_fail
    | mapping tag entries =>
      apply Builds.bind
      · apply Builds.findM?
        intro entry
        exact (builds_node entry.1).bind fun _ _ => .pure trivial
      · intro entry _
        cases entry with
        | none => exact builds_fail
        | some entry => exact ih entry.2

theorem builds_scalarOf (number : Nat) (node : Node) : Builds (fun value => value.isKey = true) (scalarOf number node) := by
  have text := builds_scalarText maxNesting number
  unfold scalarOf
  refine Builds.get.bind fun state proper => ?_
  split
  next value found =>
    obtain ⟨before, after, same, -⟩ := List.lookup_eq_some_iff.mp found
    exact .pure (proper.mapped (number, value) (same ▸ List.mem_append_right before List.mem_cons_self))
  next => exact text.bind fun _ _ => .throw .structuredTimestamp
  next =>
    refine text.bind fun text _ => (Builds.lift (Scalar.value_isKey number _ text)).bind fun value isKey => ?_
    refine Builds.bind (.modify fun state proper => ⟨?_, proper.filled⟩) fun _ _ => .pure isKey
    exact List.forall_mem_cons.mpr ⟨isKey, proper.mapped⟩
  next => exact text.bind fun text _ => .lift (Scalar.value_isKey number _ text)

theorem builds_item (number : Nat) : Builds IsKeyItem (item number) := by
  refine (builds_node number).bind fun node _ => ?_
  split
  next =>
    refine Builds.bind (.modify fun state proper => ?_) fun _ _ => .pure trivial
    split
    next => exact proper
    next => exact ⟨proper.mapped, proper.filled⟩
  next =>
    split
    next => exact (builds_scalarOf number node).bind fun _ isKey => .pure isKey
    next => exact builds_fail

theorem builds_entriesOf (number : Nat) : Builds (fun _ => True) (entriesOf number) := by
  refine (builds_node number).bind fun node _ => ?_
  cases node with
  | mapping tag entries => exact .pure trivial
  | scalar tag text => exact builds_fail
  | sequence tag items => exact builds_fail

theorem builds_splitMerge (entries : List (Nat × Nat)) : Builds (fun _ => True) (splitMerge entries) := by
  induction entries with
  | nil => exact .pure trivial
  | cons entry rest ih =>
    refine (builds_node entry.1).bind fun node _ => ?_
    split
    next => exact .pure trivial
    next => exact ih.bind fun _ _ => .pure trivial

theorem builds_settleKey (entry : Nat × Nat) : Builds (fun _ => True) (settleKey entry) := by
  refine (builds_node entry.1).bind fun node _ => ?_
  split
  next => exact builds_setNode _ _
  next => exact builds_setNode _ _
  next => exact builds_setNode _ _
  next => exact .pure trivial

theorem builds_flatten (steps depth number : Nat) (merged : List (Nat × Nat)) :
    Builds (fun _ => True) (flatten steps depth number merged) := by
  induction steps generalizing depth number merged with
  | zero => exact .pure trivial
  | succ steps ih =>
    cases depth with
    | zero => exact .throw .tooDeep
    | succ depth =>
      refine (builds_node number).bind fun node _ => ?_
      split
      next tag entries =>
        refine (builds_splitMerge entries).bind fun merge _ => ?_
        split
        next source others =>
          have gathers (sources : List Nat) : Builds (fun _ => True) (do
              let gathered ← sources.mapM fun source => do
                flatten steps depth source []
                entriesOf source
              flatten steps (depth + 1) number (merged ++ gathered.reverse.flatten)) :=
            Builds.bind (.mapM (fun source => (ih depth source []).bind fun _ _ => builds_entriesOf source) sources)
              fun _ _ => ih (depth + 1) number _
          refine (builds_setNode number _).bind fun _ _ => (builds_node source).bind fun node _ => ?_
          cases node with
          | mapping tag entries => exact gathers [source]
          | sequence tag sources => exact gathers sources
          | scalar tag text => exact (@builds_fail (List Nat) fun _ => True).bind fun sources _ => gathers sources
        next =>
          exact (Builds.forM builds_settleKey entries).bind fun _ _ => builds_setNode number _
      next => exact .pure trivial

theorem builds_keyValue (number : Nat) : Builds (fun value => value.isKey = true) (keyValue number) := by
  refine (builds_item number).bind fun item isKey => ?_
  cases item with
  | value value => exact .pure isKey
  | container number => exact builds_fail

theorem builds_mapEntries (number : Nat) :
    Builds (fun entries => Value.AreKeys (entries.map (·.1))) (mapEntries number) := by
  refine Builds.get.bind fun state _ => (builds_flatten _ _ _ _).bind fun _ _ => ?_
  refine (builds_entriesOf number).bind fun entries _ => .foldlM (fun filled entry areKeys => ?_) entries Value.areKeys_nil
  refine (builds_keyValue entry.1).bind fun key isKey => (builds_item entry.2).bind fun item _ => ?_
  exact .pure (areKeys.putEntry isKey item)

theorem builds_pairItem (number : Nat) : Builds (fun _ => True) (pairItem number) := by
  refine (builds_entriesOf number).bind fun entries _ => ?_
  split
  next => exact (builds_item _).bind fun _ _ => (builds_item _).bind fun _ _ => .pure trivial
  next => exact builds_fail

theorem builds_content (number : Nat) : Builds Container.Proper (content number) := by
  refine (builds_node number).bind fun node _ => ?_
  split
  next => exact (Builds.mapM builds_item _).bind fun _ _ => .pure trivial
  next => exact (Builds.mapM builds_pairItem _).bind fun _ _ => .pure trivial
  next => exact (Builds.mapM builds_pairItem _).bind fun _ _ => .pure trivial
  next => exact (builds_mapEntries number).bind fun _ areKeys => .pure areKeys
  next => exact (builds_mapEntries number).bind fun _ _ => .pure trivial
  next => exact builds_fail

theorem builds_fillAll (steps next : Nat) : Builds (fun _ => True) (fillAll steps next) := by
  induction steps generalizing next with
  | zero => exact .pure trivial
  | succ steps ih =>
    refine Builds.get.bind fun state _ => ?_
    split
    next => exact .pure trivial
    next number _ =>
      refine (builds_content number).bind fun container proper => ?_
      refine Builds.bind (.modify fun state kept => ⟨kept.mapped, ?_⟩) fun _ _ => ih (next + 1)
      exact List.forall_mem_cons.mpr ⟨proper, kept.filled⟩

theorem mem_of_getD {filled : Filled} {number : Nat} {container : Container}
    (held : filled.getD number none = some container) : some container ∈ filled := by
  rw [Array.getD_eq_getD_getElem?] at held
  cases found : filled[number]? with
  | none =>
    rw [found] at held
    cases held
  | some there =>
    rw [found] at held
    cases held
    exact Array.mem_of_getElem? found

theorem containers_proper {state : State} (proper : Proper state) {container : Container}
    (held : some container ∈ state.containers) : container.Proper := by
  have gathers (entries : List (Nat × Container)) (all : ∀ entry ∈ entries, entry.2.Proper) (filled : Filled)
      (before : ∀ container, some container ∈ filled → container.Proper) :
      ∀ container, some container ∈ entries.foldl (fun filled entry => filled.setIfInBounds entry.1 (some entry.2)) filled →
        container.Proper := by
    induction entries generalizing filled with
    | nil => exact before
    | cons entry rest ih =>
      obtain ⟨here, others⟩ := List.forall_mem_cons.mp all
      refine ih others _ fun container held => ?_
      obtain member | same := Array.mem_or_eq_of_mem_setIfInBounds held
      · exact before container member
      · cases same
        exact here
  refine gathers state.filled proper.filled _ (fun container held => ?_) container held
  cases (Array.mem_replicate.mp held).2

theorem entries?_of_isKey {value : Value} (isKey : value.isKey = true) {entries : Settings.Entries}
    (held : Settings.entries? value = some entries) : entries = [] := by
  cases value with
  | null =>
    cases held
    rfl
  | map => cases isKey
  | _ => cases held

/-- The root of a document is read off with the keys that were filled in. -/
theorem document_keys {state : State} (proper : Proper state) {root : Item} (isKey : IsKeyItem root)
    {entries : Settings.Entries} (held : Settings.entries? (document state root) = some entries) :
    Value.AreKeys (entries.map (·.1)) := by
  cases root with
  | value value =>
    cases entries?_of_isKey isKey held
    exact Value.areKeys_nil
  | container number =>
    unfold document at held
    dsimp only at held
    split at held
    next filled found =>
      have areKeys : Value.AreKeys (filled.toList.map (·.1)) := containers_proper proper (mem_of_getD found)
      cases held
      have keys : (List.ofFn fun place : Fin filled.size => filled[place].1) = filled.toList.map (·.1) := by
        apply List.ext_getElem <;> simp
      rw [List.map_ofFn]
      exact keys ▸ areKeys
    next other =>
      unfold readOff at held
      cases found : state.containers.getD number none with
      | none =>
        rw [found] at held
        cases held
        exact Value.areKeys_nil
      | some container =>
        rw [found] at held
        cases container with
        | map entries => exact absurd found (other entries)
        | list items => cases held
        | pairs items => cases held
        | set items => cases held

end Builder

/-- The keys of a document that is a mapping are scalars, no two of them the same. -/
theorem load_keys (chars : List Char) : Gives (fun value => ∀ entries, Settings.entries? value = some entries →
    Value.AreKeys (entries.map (·.1))) (load chars) := by
  refine .bind _ fun chars => .bind _ fun graph => ?_
  unfold Graph.value
  cases graph.root with
  | none =>
    refine .ok fun entries held => ?_
    cases held
    exact Value.areKeys_nil
  | some root =>
    have builds : Builder.Builds Builder.IsKeyItem (do
        let item ← Builder.item root
        Builder.fillAll (graph.nodes.size + 1) 0
        return item) :=
      (Builder.builds_item root).bind fun item isKey => (Builder.builds_fillAll _ _).bind fun _ _ => .pure isKey
    have ends := builds ⟨graph.nodes, graph.entryCount, [], #[], []⟩ ⟨nofun, nofun⟩
    dsimp only
    cases ran : StateT.run _ (⟨graph.nodes, graph.entryCount, [], #[], []⟩ : Builder.State) with
    | error error => exact .error error
    | ok outcome =>
      obtain ⟨proper, isKey⟩ := ends outcome ran
      exact .ok fun entries held => Builder.document_keys proper isKey held

end Yaml

end CacheSeal
