import CacheSeal.Options.Invocation
import CacheSeal.Proofs.FailingRuns
import CacheSeal.Proofs.ReportFileWrites

/-! The paths of a command line. Each of them is read from a text, so none has parts that lead nowhere. -/

namespace CacheSeal

/-- The path of an option, if it has one, is plain. -/
def Argument.Plain : Argument Path → Prop
  | .given path => path.Plain
  | _ => True

theorem Argument.plain_map (text : Argument Text) : (text.map Path.ofText).Plain := by
  cases text with
  | given text => exact Path.plain_ofText text
  | absent => trivial
  | empty => trivial

theorem Argument.Plain.of_mem {argument : Argument Path} (plain : argument.Plain) {path : Path}
    (member : path ∈ argument.value?.toList) : path.Plain := by
  cases argument with
  | given given =>
    obtain rfl := List.mem_singleton.mp member
    exact plain
  | absent => cases member
  | empty => cases member

namespace Options
open Proofs.FailingRuns

structure Given.Plain (given : Given) : Prop where
  path : ∀ path ∈ given.path, path.Plain
  settings : given.settings.Plain
  output : given.output.Plain
  donor : given.donor.Plain

theorem Given.plain_nothing : Given.nothing.Plain :=
  ⟨nofun, trivial, trivial, trivial⟩

theorem Given.Plain.take {given next : Given} {event : Event Setting} (plain : given.Plain)
    (taken : given.take event = .ok next) : next.Plain := by
  cases event with
  | operand arguments =>
    cases taken
    refine ⟨?_, plain.settings, plain.output, plain.donor⟩
    intro path named
    obtain ⟨text, -, rfl⟩ := Option.map_eq_some_iff.mp named
    exact Path.plain_ofText text
  | switch switch value =>
    rw [Given.take] at taken
    cases meaning : switch.meaning <;> rw [meaning] at taken <;> dsimp only at taken
    case help => cases taken
    case width =>
      obtain ⟨width, -, ⟨⟩⟩ := bind_ok_iff.mp taken
      exact ⟨plain.path, plain.settings, plain.output, plain.donor⟩
    case order =>
      obtain ⟨order, -, ⟨⟩⟩ := bind_ok_iff.mp taken
      exact ⟨plain.path, plain.settings, plain.output, plain.donor⟩
    case settings =>
      cases taken
      exact ⟨plain.path, Argument.plain_map value, plain.output, plain.donor⟩
    case output =>
      cases taken
      exact ⟨plain.path, plain.settings, Argument.plain_map value, plain.donor⟩
    case donor =>
      cases taken
      exact ⟨plain.path, plain.settings, plain.output, Argument.plain_map value⟩
    all_goals
      cases taken
      exact ⟨plain.path, plain.settings, plain.output, plain.donor⟩

theorem Given.Plain.takeAll {given final : Given} {events : List (Event Setting)} (plain : given.Plain)
    (taken : events.foldlM Given.take given = .ok final) : final.Plain := by
  induction events generalizing given with
  | nil =>
    cases taken
    exact plain
  | cons event rest ih =>
    rw [List.foldlM_cons] at taken
    obtain ⟨next, first, further⟩ := bind_ok_iff.mp taken
    exact ih (plain.take first) further

theorem Given.Plain.invocation {given : Given} (plain : given.Plain) {path : Path} (named : path ∈ given.path)
    (command : Command) : ∀ other ∈ (given.invocation command path).paths, other.Plain := by
  intro other member
  rw [Invocation.paths, List.mem_cons, List.mem_append] at member
  obtain same | settings | tasked := member
  · exact same ▸ plain.path path named
  · exact plain.settings.of_mem settings
  · cases command with
    | validate => exact plain.output.of_mem tasked
    | rehash => exact plain.output.of_mem tasked
    | transplant =>
      obtain donor | output := List.mem_append.mp tasked
      · exact plain.donor.of_mem donor
      · exact plain.output.of_mem output

theorem Command.plain_of_request {command : Command} {arguments unclaimed : List Text} {invocation : Invocation}
    (asked : command.request arguments = .ok (invocation, unclaimed)) : ∀ path ∈ invocation.paths, path.Plain := by
  rw [Command.request] at asked
  obtain ⟨outcome, -, asked⟩ := bind_ok_iff.mp asked
  obtain ⟨given, taken, asked⟩ := bind_ok_iff.mp asked
  have plain := Given.plain_nothing.takeAll taken
  cases fault : outcome.fault with
  | some usage =>
    rw [fault] at asked
    cases asked
  | none =>
    rw [fault] at asked
    cases named : given.path with
    | none =>
      rw [named] at asked
      cases asked
    | some path =>
      rw [named] at asked
      cases lacking : given.missing command with
      | cons _ _ =>
        rw [lacking] at asked
        cases asked
      | nil =>
        rw [lacking] at asked
        cases asked
        exact plain.invocation named command

/-- All paths that the program is run with are plain. -/
theorem plain_of_asked {arguments : List Text} {invocation : Invocation}
    (asked : Request.ofArguments arguments = .run invocation) : ∀ path ∈ invocation.paths, path.Plain := by
  rw [Request.ofArguments] at asked
  split at asked
  · cases asked
  · rename_i outcome _
    cases events : outcome.events with
    | nil =>
      rw [events] at asked
      cases asked
    | cons event rest =>
      rw [events] at asked
      cases event with
      | switch switch value =>
        rw [topRequest] at asked
        cases meaning : switch.meaning <;> rw [meaning] at asked <;> cases asked
      | operand operands =>
        rw [topRequest, operandRequest] at asked
        split at asked
        · cases asked
        · rename_i command _
          dsimp only at asked
          split at asked
          · cases asked
          · cases asked
          · rename_i found further requested
            split at asked
            · cases asked
              exact Command.plain_of_request requested
            · cases asked

theorem plain_of_report {arguments : List Text} {invocation : Invocation} {path : Path}
    {json failOnMismatch noColor : Bool} (asked : Request.ofArguments arguments = .run invocation)
    (task : invocation.task = .validate json (.given path) failOnMismatch noColor) : path.Plain := by
  apply plain_of_asked asked path
  rw [Invocation.paths, task]
  simp [Task.paths, Argument.value?]

end Options

end CacheSeal
