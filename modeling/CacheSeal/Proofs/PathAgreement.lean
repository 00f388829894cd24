import CacheSeal.Proofs.PathResolution

/-! A path that can be looked up is resolved to the place where the lookup arrives. A lookup counts the links that it
goes over, and so it meets no link within itself: the target of a link, met again, would take as many links once more.
No circle stops the resolution then, and what it remembers of a link is where a lookup of its target arrives. -/

namespace CacheSeal

structure Path.IsName (part : Text) : Prop where
  present : ¬ isVoid part = true
  onwards : ¬ isUpwards part = true
  short : ¬ isLongName part = true

namespace FileTree
/-- Nothing leads on from the location: nothing is there, or a file is. -/
def Leaf (tree : FileTree) (location : Location) : Prop :=
  tree.get? location = none ∨ ∃ mode data, tree.get? location = some (.file mode data)

/-- The directory in which a walk goes on behind a part. -/
inductive Steps (tree : FileTree) (here : Location) (part : Text) : Location → Prop where
  | void (isVoid : Path.isVoid part = true) : Steps tree here part here
  | upwards (present : ¬ Path.isVoid part = true) (isUpwards : Path.isUpwards part = true) :
      Steps tree here part here.dropLast
  | directory (named : Path.IsName part) (stands : tree.get? (here ++ [Name.stored part]) = some .directory) :
      Steps tree here part (here ++ [Name.stored part])

inductive Advances (tree : FileTree) : Location → List Text → Halt → Prop where
  | done {here} : Advances tree here [] (.reached here)
  | onward {here there part rest halt} (steps : tree.Steps here part there) (goesOn : Advances tree there rest halt) :
      Advances tree here (part :: rest) halt
  | leaf {here part} (named : Path.IsName part) (stands : tree.Leaf (here ++ [Name.stored part])) :
      Advances tree here [part] (.reached (here ++ [Name.stored part]))
  | link {here part rest text} (named : Path.IsName part)
      (stands : tree.get? (here ++ [Name.stored part]) = some (.link text)) :
      Advances tree here (part :: rest) (.link here text rest)

/-- Parts lead to a location over so many links. -/
inductive Leads (tree : FileTree) : Location → List Text → Nat → Location → Prop where
  | reached {here parts location} (halts : tree.Advances here parts (.reached location)) :
      Leads tree here parts 0 location
  | link {here parts around text rest count location} (halts : tree.Advances here parts (.link around text rest))
      (further : Leads tree (linkBase around text) (Path.pieces text ++ rest) count location) :
      Leads tree here parts (count + 1) location

variable {tree before after : FileTree} {here location other target : Location} {part : Text}
  {parts first rest : List Text} {halt : Halt} {count : Nat}

theorem not_leaf {entry : Entry} (stands : tree.get? location = some entry)
    (leadsOn : ∀ mode data, entry ≠ .file mode data) : ¬ tree.Leaf location := by
  intro leaf
  obtain absent | ⟨mode, data, file⟩ := leaf
  · cases absent.symm.trans stands
  · cases file.symm.trans stands
    exact leadsOn mode data rfl

theorem advance_ok_iff : tree.advance here parts = .ok halt ↔ tree.Advances here parts halt := by
  constructor
  · intro halts
    induction parts generalizing here with
    | nil =>
      cases halts
      exact .done
    | cons part rest ih =>
      rw [advance] at halts
      by_cases void : Path.isVoid part = true
      · rw [if_pos void] at halts
        exact .onward (.void void) (ih halts)
      by_cases upwards : Path.isUpwards part = true
      · rw [if_neg void, if_pos upwards] at halts
        exact .onward (.upwards void upwards) (ih halts)
      by_cases long : Path.isLongName part = true
      · rw [if_neg void, if_neg upwards, if_pos long] at halts
        cases halts
      rw [if_neg void, if_neg upwards, if_neg long] at halts
      have named : Path.IsName part := ⟨void, upwards, long⟩
      dsimp only at halts
      split at halts
      next absent =>
        cases rest with
        | nil =>
          cases halts
          exact .leaf named (.inl absent)
        | cons _ _ => cases halts
      next stands => exact .onward (.directory named stands) (ih halts)
      next stands =>
        cases rest with
        | nil =>
          cases halts
          exact .leaf named (.inr ⟨_, _, stands⟩)
        | cons _ _ => cases halts
      next stands =>
        cases halts
        exact .link named stands
  · intro advances
    induction advances with
    | done => rfl
    | onward steps _ ih =>
      cases steps with
      | void isVoid => rw [advance, if_pos isVoid, ih]
      | upwards present isUpwards => rw [advance, if_neg present, if_pos isUpwards, ih]
      | directory named stands =>
        simp only [advance, if_neg named.present, if_neg named.onwards, if_neg named.short, stands, ih]
    | leaf named stands =>
      simp only [advance, if_neg named.present, if_neg named.onwards, if_neg named.short]
      obtain absent | ⟨mode, data, file⟩ := stands
      · simp only [absent, List.isEmpty_nil, if_true]
      · simp only [file, List.isEmpty_nil, if_true]
    | link named stands =>
      simp only [advance, if_neg named.present, if_neg named.onwards, if_neg named.short, stands]

/-- A halt behind more parts is one behind the first of them, or lies further on. -/
theorem Advances.split (advances : tree.Advances here (first ++ rest) halt) :
    (∃ middle, tree.Advances here first (.reached middle) ∧ tree.Advances middle rest halt) ∨
      ∃ around text left, tree.Advances here first (.link around text left) ∧ halt = .link around text (left ++ rest) := by
  induction first generalizing here with
  | nil => exact .inl ⟨here, .done, advances⟩
  | cons part more ih =>
    rw [List.cons_append] at advances
    generalize whole : more ++ rest = onward at advances
    cases advances with
    | onward steps goesOn =>
      obtain ⟨middle, start, finish⟩ | ⟨around, text, left, start, same⟩ := ih (whole ▸ goesOn)
      · exact .inl ⟨middle, .onward steps start, finish⟩
      · exact .inr ⟨around, text, left, .onward steps start, same⟩
    | leaf named stands =>
      obtain ⟨rfl, rfl⟩ := List.append_eq_nil_iff.mp whole
      exact .inl ⟨_, .leaf named stands, .done⟩
    | link named stands => exact .inr ⟨_, _, more, .link named stands, by rw [whole]⟩

theorem walk_ok_iff_leads {links : Nat} :
    tree.walk links here parts = .ok location ↔ ∃ count ≤ links, tree.Leads here parts count location := by
  induction links generalizing here parts with
  | zero =>
    rw [walk_ok_iff]
    constructor
    · rintro (halts | ⟨_, _, _, _, ⟨⟩, _⟩)
      exact ⟨0, Nat.le_refl 0, .reached (advance_ok_iff.mp halts)⟩
    · intro course
      obtain ⟨count, few, leads⟩ := course
      cases leads with
      | reached halts => exact .inl (advance_ok_iff.mpr halts)
      | link _ _ => omega
  | succ links ih =>
    rw [walk_ok_iff]
    constructor
    · rintro (halts | ⟨_, around, text, rest, ⟨⟩, halts, further⟩)
      · exact ⟨0, Nat.zero_le _, .reached (advance_ok_iff.mp halts)⟩
      · obtain ⟨count, few, leads⟩ := ih.mp further
        exact ⟨count + 1, by omega, .link (advance_ok_iff.mp halts) leads⟩
    · intro course
      obtain ⟨count, few, leads⟩ := course
      cases leads with
      | reached halts => exact .inl (advance_ok_iff.mpr halts)
      | link halts further =>
        exact .inr ⟨links, _, _, _, rfl, advance_ok_iff.mpr halts, ih.mpr ⟨_, by omega, further⟩⟩

namespace Leads

theorem unique {otherCount : Nat} (leads : tree.Leads here parts count location)
    (again : tree.Leads here parts otherCount other) : count = otherCount ∧ location = other := by
  induction leads generalizing otherCount with
  | reached halts =>
    have course := advance_ok_iff.mpr halts
    cases again with
    | reached otherHalts =>
      rw [advance_ok_iff.mpr otherHalts] at course
      cases course
      exact ⟨rfl, rfl⟩
    | link otherHalts _ =>
      rw [advance_ok_iff.mpr otherHalts] at course
      cases course
  | link halts _ ih =>
    have course := advance_ok_iff.mpr halts
    cases again with
    | reached otherHalts =>
      rw [advance_ok_iff.mpr otherHalts] at course
      cases course
    | link otherHalts further =>
      rw [advance_ok_iff.mpr otherHalts] at course
      cases course
      obtain ⟨sameCount, sameLocation⟩ := ih further
      exact ⟨congrArg (· + 1) sameCount, sameLocation⟩

theorem split (leads : tree.Leads here (first ++ rest) count location) :
    ∃ middle before after, tree.Leads here first before middle ∧ tree.Leads middle rest after location ∧
      count = before + after := by
  generalize whole : first ++ rest = parts at leads
  induction leads generalizing first with
  | reached halts =>
    obtain ⟨middle, start, finish⟩ | ⟨_, _, _, _, ⟨⟩⟩ := (whole ▸ halts).split
    exact ⟨middle, 0, 0, .reached start, .reached finish, rfl⟩
  | @link _ _ around text left count _ halts further ih =>
    obtain ⟨middle, start, finish⟩ | ⟨_, _, remaining, start, same⟩ := (whole ▸ halts).split
    · exact ⟨middle, 0, count + 1, .reached start, .link finish further, (Nat.zero_add _).symm⟩
    · cases same
      obtain ⟨middle, before, after, start', finish, total⟩ := ih (List.append_assoc _ remaining rest)
      exact ⟨middle, before + 1, after, .link start start', finish, by omega⟩

theorem of_advances {there : Location} (leads : tree.Leads here parts count location)
    (onwards : ∀ halt, tree.Advances here parts halt → tree.Advances there rest halt) :
    tree.Leads there rest count location := by
  cases leads with
  | reached halts => exact .reached (onwards _ halts)
  | link halts further => exact .link (onwards _ halts) further

theorem void (leads : tree.Leads here (part :: rest) count location) (isVoid : Path.isVoid part = true) :
    tree.Leads here rest count location := by
  apply leads.of_advances
  intro halt halts
  rw [← advance_ok_iff] at *
  rwa [advance, if_pos isVoid] at halts

theorem upwards (leads : tree.Leads here (part :: rest) count location) (present : ¬ Path.isVoid part = true)
    (isUpwards : Path.isUpwards part = true) : tree.Leads here.dropLast rest count location := by
  apply leads.of_advances
  intro halt halts
  rw [← advance_ok_iff] at *
  rwa [advance, if_neg present, if_pos isUpwards] at halts

/-- Behind a name that is no link the walk goes on where the name says, if there is anything left to go. -/
theorem unlinked (leads : tree.Leads here (part :: rest) count location) (present : ¬ Path.isVoid part = true)
    (onwards : ¬ Path.isUpwards part = true) (noLink : ∀ text, tree.get? (here ++ [Name.stored part]) ≠ some (.link text)) :
    tree.Leads (here ++ [Name.stored part]) rest count location := by
  apply leads.of_advances
  intro halt halts
  cases halts with
  | onward steps goesOn =>
    cases steps with
    | void isVoid => exact absurd isVoid present
    | upwards _ isUpwards => exact absurd isUpwards onwards
    | directory _ _ => exact goesOn
  | leaf _ _ => exact .done
  | link _ stands => exact absurd stands (noLink _)

theorem linked {text : Text} (leads : tree.Leads here (part :: rest) count location)
    (present : ¬ Path.isVoid part = true) (onwards : ¬ Path.isUpwards part = true)
    (link : tree.get? (here ++ [Name.stored part]) = some (.link text)) :
    ∃ reached inside left, tree.Leads (linkBase here text) (Path.pieces text) inside reached ∧
      tree.Leads reached rest left location ∧ count = inside + left + 1 := by
  have stops {halt : Halt} (halts : tree.Advances here (part :: rest) halt) : halt = .link here text rest := by
    cases halts with
    | onward steps _ =>
      cases steps with
      | void isVoid => exact absurd isVoid present
      | upwards _ isUpwards => exact absurd isUpwards onwards
      | directory _ stands => cases link.symm.trans stands
    | leaf _ stands => exact absurd stands (not_leaf link nofun)
    | link _ stands =>
      rw [link] at stands
      cases stands
      rfl
  cases leads with
  | reached halts => cases stops halts
  | link halts further =>
    cases stops halts
    obtain ⟨reached, inside, left, target, finish, total⟩ := further.split
    exact ⟨reached, inside, left, target, finish, congrArg (· + 1) total⟩

end Leads

/-- Following the target of a link comes to a location over so many links. -/
def LinkLeads (tree : FileTree) (link : Location) (count : Nat) (location : Location) : Prop :=
  ∃ text, tree.get? (link.map Name.stored) = some (.link text) ∧
    tree.Leads (linkBase (link.dropLast.map Name.stored) text) (Path.pieces text) count location

theorem LinkLeads.unique {link : Location} {otherCount : Nat} (leads : tree.LinkLeads link count location)
    (again : tree.LinkLeads link otherCount other) : count = otherCount ∧ location = other := by
  obtain ⟨text, stands, leads⟩ := leads
  obtain ⟨_, found, again⟩ := again
  rw [stands] at found
  cases found
  exact leads.unique again

theorem map_snoc (here : Location) (part : Text) :
    (here ++ [part]).map Name.stored = here.map Name.stored ++ [Name.stored part] := by
  rw [List.map_append, List.map_singleton]

theorem Leads.entered {text : Text} (leads : tree.Leads (here.map Name.stored) (part :: rest) count location)
    (present : ¬ Path.isVoid part = true) (onwards : ¬ Path.isUpwards part = true)
    (link : tree.get? ((here ++ [part]).map Name.stored) = some (.link text)) :
    ∃ reached inside left, tree.LinkLeads (here ++ [part]) inside reached ∧ tree.Leads reached rest left location ∧
      inside + left < count := by
  obtain ⟨reached, inside, left, entered, finish, total⟩ := leads.linked present onwards (map_snoc here part ▸ link)
  exact ⟨reached, inside, left, ⟨text, link, by rwa [List.dropLast_concat]⟩, finish, by omega⟩

/-- What is remembered of links is where lookups of them arrive. -/
def Right (tree : FileTree) (known : Known) : Prop :=
  ∀ entry ∈ known, ∀ count location, tree.LinkLeads entry.1 count location → location = entry.2.map Name.stored

theorem Right.cons {known : Known} {link reached : Location} (right : tree.Right known)
    (leads : tree.LinkLeads link count (reached.map Name.stored)) : tree.Right ((link, reached) :: known) := by
  intro entry member otherCount location again
  rcases List.mem_cons.mp member with rfl | old
  · exact (again.unique leads).2
  · exact right entry old otherCount location again

theorem Right.lookup {known : Known} {link reached : Location} (right : tree.Right known)
    (found : known.lookup link = some reached) (leads : tree.LinkLeads link count location) :
    location = reached.map Name.stored := by
  obtain ⟨front, back, split, -⟩ := List.lookup_eq_some_iff.mp found
  have member : (link, reached) ∈ known := by
    rw [split]
    exact List.mem_append_right front List.mem_cons_self
  exact right _ member count location leads

/-- Parts were followed without a circle, to where a lookup of them arrives. -/
structure Agrees (tree : FileTree) (location : Location) (outcome : (Location × Bool) × Known) : Prop where
  whole : outcome.1.2 = true
  same : location = outcome.1.1.map Name.stored
  right : tree.Right outcome.2

theorem map_linkBase (location : Location) (text : Text) :
    (linkBase location text).map Name.stored = linkBase (location.map Name.stored) text := by
  unfold linkBase
  split <;> rfl

/-- Following parts agrees with a lookup that takes no more than so many links, if entering the links on the way does
for lookups that take fewer. -/
theorem settleParts_agrees {enter : Location → Location → List Text → Resolving (Location × Bool)} {limit : Nat}
    (enters : ∀ link start text count location known outcome, tree.get? (link.map Name.stored) = some (.link text) →
      start.map Name.stored = linkBase (link.dropLast.map Name.stored) text →
      tree.LinkLeads link count location → count < limit → tree.Right known →
      (enter link start (Path.pieces text)).run known = .ok outcome → tree.Agrees location outcome)
    {known : Known} {outcome : (Location × Bool) × Known}
    (leads : tree.Leads (here.map Name.stored) parts count location) (few : count ≤ limit) (right : tree.Right known)
    (runs : (tree.settleParts enter here parts).run known = .ok outcome) : tree.Agrees location outcome := by
  induction parts generalizing here count known with
  | nil =>
    cases runs
    cases leads with
    | reached halts =>
      cases halts
      exact ⟨rfl, rfl, right⟩
    | link halts _ => cases halts
  | cons part rest ih =>
    rw [settleParts] at runs
    by_cases void : Path.isVoid part = true
    · rw [if_pos void] at runs
      exact ih (leads.void void) few right runs
    by_cases upwards : Path.isUpwards part = true
    · rw [if_neg void, if_pos upwards] at runs
      have above := leads.upwards void upwards
      rw [← List.map_dropLast] at above
      exact ih above few right runs
    rw [if_neg void, if_neg upwards] at runs
    obtain ⟨_, _, asked, runs⟩ := run_bind_ok runs
    cases asked
    split at runs
    · cases runs
    -- a link that is remembered, a new one, and what is no link
    · rename_i link found
      obtain ⟨middle, inside, left, linkLeads, finish, fewer⟩ := leads.entered void upwards link
      rw [right.lookup found linkLeads] at finish
      exact ih finish (by omega) right runs
    · rename_i text _ link _
      obtain ⟨middle, inside, left, linkLeads, finish, fewer⟩ := leads.entered void upwards link
      obtain ⟨⟨reached, isWhole⟩, between, ran, runs⟩ := run_bind_ok runs
      have agrees := enters _ _ text _ _ _ _ link (by rw [map_linkBase, List.dropLast_concat]) linkLeads (by omega)
        right ran
      cases agrees.whole
      cases agrees.same
      obtain ⟨_, _, noted, runs⟩ := run_bind_ok runs
      cases noted
      exact ih finish (by omega) (agrees.right.cons linkLeads) runs
    · rename_i notKnown notNew
      have noLink : ∀ text, tree.get? ((here ++ [part]).map Name.stored) ≠ some (.link text) := by
        intro text link
        cases found : List.lookup (here ++ [part]) known with
        | none => exact notNew text link found
        | some reached => exact notKnown text reached link found
      have onwards := leads.unlinked void upwards (map_snoc here part ▸ noLink)
      rw [← map_snoc] at onwards
      exact ih onwards few right runs

theorem settle_agrees (depth : Nat) {openLinks : List Location} {known : Known}
    {outcome : (Location × Bool) × Known} (leads : tree.Leads (here.map Name.stored) parts count location)
    (inside : ∀ link ∈ openLinks, ∀ linkCount reached, tree.LinkLeads link linkCount reached → count ≤ linkCount)
    (right : tree.Right known) (runs : (tree.settle depth openLinks here parts).run known = .ok outcome) :
    tree.Agrees location outcome := by
  induction depth generalizing openLinks here parts count location known outcome with
  | zero => cases runs
  | succ depth ih =>
    rw [settle] at runs
    refine settleParts_agrees ?_ leads (Nat.le_refl count) right runs
    intro link start text linkCount reached known outcome stands started linkLeads fewer right entered
    split at entered
    next isOpen =>
      -- the target of an open link takes all links that are left, and its own would come on top
      have more := inside link (List.contains_iff_mem.mp isOpen) linkCount reached linkLeads
      omega
    next =>
      have follows := linkLeads
      obtain ⟨_, found, onwards⟩ := follows
      rw [stands] at found
      cases found
      rw [← started] at onwards
      refine ih onwards ?_ right entered
      intro other member otherCount otherReached otherLeads
      rcases List.mem_cons.mp member with rfl | old
      · exact Nat.le_of_eq (linkLeads.unique otherLeads).1
      · exact Nat.le_trans (Nat.le_of_lt fewer) (inside other old otherCount otherReached otherLeads)

/-- If a path can be looked up at all, it is resolved without a circle, and to the same place. -/
theorem resolve_agrees {path : Path} {reached : Location} (stored : here.map Name.stored = here)
    (found : tree.follow here path = .ok reached) (resolved : tree.resolve here path = .ok location) :
    tree.IsWhole here path ∧ reached = location.map Name.stored := by
  obtain ⟨-, arrives⟩ := follow_ok_iff.mp found
  obtain ⟨count, -, leads⟩ := walk_ok_iff_leads.mp arrives
  obtain ⟨isWhole, known, ran⟩ := resolve_ok resolved
  have start : (path.base here).map Name.stored = path.base here := by
    unfold Path.base
    split
    · rfl
    · exact stored
  rw [← start] at leads
  have agrees := settle_agrees maxNesting leads (by simp) (by intro _ member; cases member) ran
  cases agrees.whole
  exact ⟨⟨location, known, ran⟩, agrees.same⟩

/-- Two trees that differ at one place only, from which nothing leads on in either. -/
structure SameWays (before after : FileTree) (place : Location) : Prop where
  elsewhere : ∀ other, other ≠ place → after.get? other = before.get? other
  leafBefore : before.Leaf place
  leafAfter : after.Leaf place

namespace SameWays
variable {place : Location}

theorem symm (ways : SameWays before after place) : SameWays after before place :=
  ⟨fun other different => (ways.elsewhere other different).symm, ways.leafAfter, ways.leafBefore⟩

theorem ne_of_not_leaf (ways : SameWays before after place) (leadsOn : ¬ before.Leaf other) : other ≠ place := by
  intro same
  exact leadsOn (same ▸ ways.leafBefore)

theorem leaf (ways : SameWays before after place) (leaf : before.Leaf other) : after.Leaf other := by
  by_cases here : other = place
  · rw [here]
    exact ways.leafAfter
  · rwa [Leaf, ways.elsewhere other here]

theorem steps {there : Location} (ways : SameWays before after place) (steps : before.Steps here part there) :
    after.Steps here part there := by
  cases steps with
  | void isVoid => exact .void isVoid
  | upwards present isUpwards => exact .upwards present isUpwards
  | directory named stands =>
    exact .directory named ((ways.elsewhere _ (ways.ne_of_not_leaf (not_leaf stands nofun))).trans stands)

theorem advances (ways : SameWays before after place) (advances : before.Advances here parts halt) :
    after.Advances here parts halt := by
  induction advances with
  | done => exact .done
  | onward steps _ ih => exact .onward (ways.steps steps) ih
  | leaf named stands => exact .leaf named (ways.leaf stands)
  | link named stands =>
    exact .link named ((ways.elsewhere _ (ways.ne_of_not_leaf (not_leaf stands nofun))).trans stands)

theorem leads (ways : SameWays before after place) (leads : before.Leads here parts count location) :
    after.Leads here parts count location := by
  induction leads with
  | reached halts => exact .reached (ways.advances halts)
  | link halts _ ih => exact .link (ways.advances halts) ih

theorem follow {path : Path} (ways : SameWays before after place) (found : before.follow here path = .ok location) :
    after.follow here path = .ok location := by
  obtain ⟨checked, arrives⟩ := follow_ok_iff.mp found
  obtain ⟨count, few, course⟩ := walk_ok_iff_leads.mp arrives
  exact follow_ok_iff.mpr ⟨checked, walk_ok_iff_leads.mpr ⟨count, few, ways.leads course⟩⟩

end SameWays

end FileTree

end CacheSeal
