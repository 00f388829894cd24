import CacheSeal.FileTree.Resolve
import CacheSeal.Proofs.TreeWalks

/-! Where the resolution of a path ends. The location has only proper names, and if no circle of links was met then
none of them stands for a link. -/

namespace CacheSeal

/-- A location of names only, as the root and the working directory are. -/
def Location.Proper (location : Location) : Prop :=
  ∀ name ∈ location, Path.isVoid name = false ∧ Path.isUpwards name = false

namespace Location.Proper

theorem root : Proper [] := by
  intro name member
  cases member

theorem dropLast {location : Location} (proper : Proper location) : Proper location.dropLast :=
  fun name member => proper name (List.dropLast_subset location member)

theorem snoc {location : Location} {name : Text} (proper : Proper location) (present : ¬ Path.isVoid name = true)
    (onwards : ¬ Path.isUpwards name = true) : Proper (location ++ [name]) := by
  intro other member
  rcases List.mem_append.mp member with before | last
  · exact proper other before
  · rw [List.mem_singleton.mp last]
    exact ⟨Bool.eq_false_iff.mpr present, Bool.eq_false_iff.mpr onwards⟩

theorem climb {location : Location} (proper : Proper location) (parts : List Text) :
    Proper (Path.climb location parts) := by
  induction parts generalizing location with
  | nil => exact proper
  | cons part rest ih =>
    rw [Path.climb]
    split
    · exact ih proper
    · split
      · exact ih proper.dropLast
      · exact ih (proper.snoc ‹_› ‹_›)

end Location.Proper

namespace FileTree

/-- A location at which, and on the way to which, no link stands. -/
structure Settled (tree : FileTree) (location : Location) : Prop where
  proper : location.Proper
  unlinked : ∀ front, front <+: location → ∀ text, tree.get? (front.map Name.stored) ≠ some (.link text)

namespace Settled
variable {tree : FileTree} {location : Location}

theorem root : tree.Settled [] := by
  refine ⟨.root, ?_⟩
  intro front before text
  rw [List.prefix_nil.mp before, List.map_nil, get?_root]
  rintro ⟨⟩

theorem dropLast (settled : tree.Settled location) : tree.Settled location.dropLast :=
  ⟨settled.proper.dropLast, fun front before => settled.unlinked front (before.trans location.dropLast_prefix)⟩

theorem snoc {name : Text} (settled : tree.Settled location) (present : ¬ Path.isVoid name = true)
    (onwards : ¬ Path.isUpwards name = true)
    (unlinked : ∀ text, tree.get? ((location ++ [name]).map Name.stored) ≠ some (.link text)) :
    tree.Settled (location ++ [name]) := by
  refine ⟨settled.proper.snoc present onwards, ?_⟩
  intro front before
  rcases List.prefix_concat_iff.mp before with whole | before
  · rw [whole]
    exact unlinked
  · exact settled.unlinked front before

theorem linkBase (settled : tree.Settled location) (target : Text) : tree.Settled (linkBase location target) := by
  unfold FileTree.linkBase
  split
  · exact root
  · exact settled

theorem base (settled : tree.Settled location) (path : Path) : tree.Settled (path.base location) := by
  unfold Path.base
  split
  · exact root
  · exact settled

end Settled

theorem leave_proper {location : Location} (proper : location.Proper) (rest : List Text) :
    (leave location rest).Proper := by
  unfold leave
  split
  · exact Location.Proper.climb .root _
  · exact proper.climb rest

/-- Links are remembered only with settled locations. -/
def Remembers (tree : FileTree) (known : Known) : Prop :=
  ∀ entry ∈ known, tree.Settled entry.2

namespace Remembers
variable {tree : FileTree} {known : Known} {link reached : Location}

theorem nothing : tree.Remembers [] := by
  intro entry member
  cases member

theorem cons (remembers : tree.Remembers known) (settled : tree.Settled reached) :
    tree.Remembers ((link, reached) :: known) := by
  intro entry member
  rcases List.mem_cons.mp member with same | old
  · rw [same]
    exact settled
  · exact remembers entry old

theorem settled (remembers : tree.Remembers known) (found : known.lookup link = some reached) :
    tree.Settled reached := by
  obtain ⟨before, after, split, -⟩ := List.lookup_eq_some_iff.mp found
  have member : (link, reached) ∈ known := by
    rw [split]
    exact List.mem_append_right before List.mem_cons_self
  exact remembers _ member

end Remembers

/-- What holds of every outcome of following parts. -/
structure Outcome (tree : FileTree) (outcome : (Location × Bool) × Known) : Prop where
  proper : outcome.1.1.Proper
  settled : outcome.1.2 = true → tree.Settled outcome.1.1
  remembers : tree.Remembers outcome.2

variable {tree : FileTree}

theorem run_bind_ok {α β : Type} {first : Resolving α} {next : α → Resolving β} {known : Known} {result : β × Known}
    (runs : (first >>= next).run known = .ok result) :
    ∃ value between, first.run known = .ok (value, between) ∧ (next value).run between = .ok result := by
  rw [StateT.run_bind] at runs
  cases ran : first.run known with
  | error _ =>
    rw [ran] at runs
    cases runs
  | ok pair =>
    rw [ran] at runs
    exact ⟨pair.1, pair.2, rfl, runs⟩

/-- Following parts is as good as entering the links on the way. -/
theorem settleParts_outcome {enter : Location → Location → List Text → Resolving (Location × Bool)}
    (enters : ∀ link start target known outcome, link.Proper → tree.Settled start →
      tree.Remembers known → (enter link start target).run known = .ok outcome → tree.Outcome outcome)
    {here : Location} {parts : List Text} {known : Known} {outcome : (Location × Bool) × Known}
    (settled : tree.Settled here) (remembers : tree.Remembers known)
    (runs : (tree.settleParts enter here parts).run known = .ok outcome) : tree.Outcome outcome := by
  induction parts generalizing here known with
  | nil =>
    cases runs
    exact ⟨settled.proper, fun _ => settled, remembers⟩
  | cons part rest ih =>
    rw [settleParts] at runs
    by_cases void : Path.isVoid part = true
    · rw [if_pos void] at runs
      exact ih settled remembers runs
    by_cases upwards : Path.isUpwards part = true
    · rw [if_neg void, if_pos upwards] at runs
      exact ih settled.dropLast remembers runs
    rw [if_neg void, if_neg upwards] at runs
    obtain ⟨_, _, asked, runs⟩ := run_bind_ok runs
    cases asked
    split at runs
    · cases runs
    · rename_i reached _ _ found
      exact ih (remembers.settled found) remembers runs
    · rename_i target _ _ _
      obtain ⟨⟨reached, isWhole⟩, between, entered, runs⟩ := run_bind_ok runs
      have inside := enters _ _ _ _ _ (settled.proper.snoc void upwards) (settled.linkBase target) remembers entered
      cases isWhole with
      | true =>
        obtain ⟨_, _, noted, runs⟩ := run_bind_ok runs
        cases noted
        exact ih (inside.settled rfl) (inside.remembers.cons (inside.settled rfl)) runs
      | false =>
        cases runs
        exact ⟨leave_proper inside.proper rest, by rintro ⟨⟩, inside.remembers⟩
    · rename_i notKnown notNew
      refine ih (settled.snoc void upwards ?_) remembers runs
      intro target link
      cases found : List.lookup (here ++ [part]) known with
      | none => exact notNew target link found
      | some reached => exact notKnown target reached link found

theorem settle_outcome (depth : Nat) (openLinks : List Location) {here : Location} {parts : List Text} {known : Known}
    {outcome : (Location × Bool) × Known} (settled : tree.Settled here) (remembers : tree.Remembers known)
    (runs : (tree.settle depth openLinks here parts).run known = .ok outcome) : tree.Outcome outcome := by
  induction depth generalizing openLinks here parts known outcome with
  | zero => cases runs
  | succ depth ih =>
    rw [settle] at runs
    refine settleParts_outcome ?_ settled remembers runs
    intro link start target known outcome proper settled remembers entered
    split at entered
    · -- A link within itself is not settled, but its own location is a proper one.
      cases entered
      exact ⟨proper, by rintro ⟨⟩, remembers⟩
    · exact ih _ settled remembers entered

/-- No circle of links is met on the way that a path describes. -/
def IsWhole (tree : FileTree) (here : Location) (path : Path) : Prop :=
  ∃ location known, (tree.settle maxNesting [] (path.base here) path.parts).run [] = .ok ((location, true), known)

theorem resolve_ok {here location : Location} {path : Path} (resolved : tree.resolve here path = .ok location) :
    ∃ isWhole known,
      (tree.settle maxNesting [] (path.base here) path.parts).run [] = .ok ((location, isWhole), known) := by
  unfold resolve at resolved
  cases ran : (tree.settle maxNesting [] (path.base here) path.parts).run [] with
  | error _ =>
    rw [ran] at resolved
    cases resolved
  | ok outcome =>
    obtain ⟨⟨found, isWhole⟩, known⟩ := outcome
    rw [ran] at resolved
    simp only [bind, Except.bind] at resolved
    split at resolved <;> cases resolved
    exact ⟨isWhole, known, rfl⟩

variable {here location : Location} {path : Path}

theorem resolve_proper (settled : tree.Settled here) (resolved : tree.resolve here path = .ok location) :
    location.Proper := by
  obtain ⟨isWhole, known, ran⟩ := resolve_ok resolved
  exact (settle_outcome maxNesting [] (settled.base path) .nothing ran).proper

/-- Where no circle is met, all links are followed. -/
theorem resolve_settled (settled : tree.Settled here) (whole : tree.IsWhole here path)
    (resolved : tree.resolve here path = .ok location) : tree.Settled location := by
  obtain ⟨isWhole, known, ran⟩ := resolve_ok resolved
  obtain ⟨other, otherKnown, whole⟩ := whole
  rw [whole] at ran
  cases ran
  exact (settle_outcome maxNesting [] (settled.base path) .nothing whole).settled rfl

private theorem advance_settled (before : List Text) {parts : List Text} {halt : Halt}
    (settled : tree.Settled (before ++ parts)) (halts : tree.advance (before.map Name.stored) parts = .ok halt) :
    halt = .reached ((before ++ parts).map Name.stored) := by
  induction parts generalizing before with
  | nil =>
    cases halts
    rw [List.append_nil]
  | cons part rest ih =>
    have member : part ∈ before ++ part :: rest := List.mem_append_right before List.mem_cons_self
    obtain ⟨present, onwards⟩ := settled.proper part member
    have same : before ++ part :: rest = (before ++ [part]) ++ rest := List.append_cons before part rest
    have unlinked := settled.unlinked (before ++ [part]) ⟨rest, same.symm⟩
    rw [advance, if_neg (by rw [present]; decide), if_neg (by rw [onwards]; decide)] at halts
    have stored : before.map Name.stored ++ [Name.stored part] = (before ++ [part]).map Name.stored := by
      rw [List.map_append, List.map_singleton]
    split at halts
    · cases halts
    · dsimp only at halts
      rw [stored] at halts
      rw [same] at settled ⊢
      split at halts
      · cases rest with
        | nil =>
          cases halts
          rw [List.append_nil]
        | cons _ _ => cases halts
      · exact ih _ settled halts
      · cases rest with
        | nil =>
          cases halts
          rw [List.append_nil]
        | cons _ _ => cases halts
      · rename_i target link
        exact absurd link (unlinked target)

/-- A settled location is found where it says. -/
theorem Settled.follow_ok {reached : Location} (settled : tree.Settled location)
    (leads : tree.follow [] location.toPath = .ok reached) : reached = location.map Name.stored := by
  obtain ⟨-, arrives⟩ := follow_ok_iff.mp leads
  obtain halts | ⟨_, _, _, _, -, halts, -⟩ := walk_ok_iff.mp arrives
  · cases advance_settled [] settled halts
    rfl
  · cases advance_settled [] settled halts

end FileTree

end CacheSeal
