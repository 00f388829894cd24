import CacheSeal.Proofs.CacheOperations
import Mathlib.Logic.Function.Basic

/-! Buffers under any sequence of rehashes and transplants, each under a layout of its own. What is written never
reaches what is checksummed or what another kind of step writes, so in the end the hashes tell of the transplants alone,
and the checksum of the last rehash alone. -/

namespace CacheSeal.Proofs.CacheHistory
open Cache

inductive Action (ι : Type) where
  | rehash (target : ι)
  | transplant (target donor : ι)

structure Step (ι : Type) where
  layout : Layout
  action : Action ι

variable {ι : Type} [DecidableEq ι]

namespace Step

/-- The buffers with the outcome of the step in place of its target. -/
def apply (step : Step ι) (buffers : ι → Bytes) : Except Header.Truncated (ι → Bytes) :=
  match step.action with
  | .rehash target => do
    return Function.update buffers target (← rehash step.layout (buffers target)).data
  | .transplant target donor => do
    return Function.update buffers target (← transplant step.layout (buffers target) (buffers donor)).data

/-- A step that fails replaces nothing. -/
def next (buffers : ι → Bytes) (step : Step ι) : ι → Bytes :=
  match step.apply buffers with
  | .ok after => after
  | .error _ => buffers

/-- All buffers of the step hold a header. -/
def Fits (lengths : ι → Nat) (step : Step ι) : Prop :=
  match step.action with
  | .rehash target => step.layout.headerSize ≤ lengths target
  | .transplant target donor =>
    step.layout.headerSize ≤ lengths target ∧ step.layout.headerSize ≤ lengths donor

instance (lengths : ι → Nat) (step : Step ι) : Decidable (step.Fits lengths) := by
  unfold Fits
  split <;> infer_instance

def isTransplant (step : Step ι) : Bool :=
  match step.action with
  | .rehash _ => false
  | .transplant _ _ => true

end Step

def run (steps : List (Step ι)) (buffers : ι → Bytes) : ι → Bytes :=
  steps.foldl Step.next buffers

/-- A transplant that succeeds is an assignment of all three hashes at once. -/
def assign (lengths : ι → Nat) (origin : ι → ι) (step : Step ι) : ι → ι :=
  match step.action with
  | .rehash _ => origin
  | .transplant target donor =>
    if step.Fits lengths then Function.update origin target (origin donor) else origin

/-- The buffer whose hashes each buffer has in the end. -/
def origins (lengths : ι → Nat) (steps : List (Step ι)) : ι → ι :=
  steps.foldl (assign lengths) id

def reseal (lengths : ι → Nat) (sealed : ι → Option Layout) (step : Step ι) : ι → Option Layout :=
  match step.action with
  | .rehash target => if step.Fits lengths then Function.update sealed target (some step.layout) else sealed
  | .transplant _ _ => sealed

/-- The layout of the last rehash of each buffer that succeeded. -/
def seals (lengths : ι → Nat) (steps : List (Step ι)) : ι → Option Layout :=
  steps.foldl (reseal lengths) fun _ => none

/-- The checksum of a buffer that was last rehashed under this layout, if ever. It is that of the original region. -/
def checksumAfter (sealed : Option Layout) (original : Bytes) : Bytes :=
  match sealed with
  | none => original.extract 24 28
  | some layout => checksumBytes layout original

/-- A buffer that differs from the original in its hashes and its checksum at most, with what it has there. -/
structure Trace (original hashes checksum current : Bytes) : Prop where
  length : current.length = original.length
  magic : current.extract 0 4 = original.extract 0 4
  hashes : current.extract 4 16 = hashes
  counts : current.extract 16 24 = original.extract 16 24
  checksum : current.extract 24 28 = checksum
  rest : current.drop 28 = original.drop 28

variable {original hashes checksum current other : Bytes}

/-- The windows make up the whole buffer. -/
theorem Trace.unique (first : Trace original hashes checksum current) (second : Trace original hashes checksum other) :
    current = other := by
  have whole (buffer : Bytes) : buffer =
      buffer.extract 0 4 ++ (buffer.extract 4 16 ++ (buffer.extract 16 24 ++ (buffer.extract 24 28 ++ buffer.drop 28))) := by
    simp only [List.extract_eq_take_drop]
    have behind (start count : Nat) : buffer.drop start = (buffer.drop start).take count ++ buffer.drop (start + count) := by
      rw [← List.drop_drop, List.take_append_drop]
    rw [← behind 24 4, ← behind 16 8, ← behind 4 12, ← behind 0 4, List.drop_zero]
  rw [whole current, whole other, first.magic, second.magic, first.hashes, second.hashes, first.counts, second.counts,
    first.checksum, second.checksum, first.rest, second.rest]

/-- No rehash changes what a later one computes. -/
theorem Trace.checksumBytes_eq (trace : Trace original hashes checksum current) (layout : Layout) :
    checksumBytes layout current = checksumBytes layout original := by
  obtain ⟨padding, size⟩ := Nat.exists_eq_add_of_le layout.unalignedSize_le_headerSize
  have behind (buffer : Bytes) : region layout buffer = (buffer.drop 28).drop padding := by
    rw [region, size, List.drop_drop]
    rfl
  rw [checksumBytes, checksumBytes, behind current, behind original, trace.rest]

theorem Trace.rehashed (trace : Trace original hashes checksum current) (layout : Layout)
    (fits : layout.headerSize ≤ original.length) :
    Trace original hashes (checksumBytes layout original) (current.splice 24 (checksumBytes layout current)) := by
  have four := length_checksumBytes layout current
  have room : 28 ≤ current.length := by
    rw [trace.length]
    exact Layout.fields_fit fits
  have inside : 24 + (checksumBytes layout current).length ≤ current.length := by omega
  have written := Bytes.extract_splice_self inside
  rw [four] at written
  constructor
  · rw [Bytes.length_splice inside, trace.length]
  · rw [Bytes.extract_splice_of_apart inside (by omega), trace.magic]
  · rw [Bytes.extract_splice_of_apart inside (by omega), trace.hashes]
  · rw [Bytes.extract_splice_of_apart inside (by omega), trace.counts]
  · rw [written, trace.checksumBytes_eq]
  · rw [Bytes.drop_splice_of_le inside (by omega), trace.rest]

theorem Trace.transplanted (trace : Trace original hashes checksum current) (fits : 28 ≤ original.length)
    {donor : Bytes} (donorFits : 28 ≤ donor.length) :
    Trace original (donor.extract 4 16) checksum (current.splice 4 (donor.extract 4 16)) := by
  have twelve : (donor.extract 4 16).length = 12 := Bytes.length_extract (by omega)
  have same := trace.length
  have inside : 4 + (donor.extract 4 16).length ≤ current.length := by omega
  have written := Bytes.extract_splice_self inside
  rw [twelve] at written
  constructor
  · rw [Bytes.length_splice inside, same]
  · rw [Bytes.extract_splice_of_apart inside (by omega), trace.magic]
  · exact written
  · rw [Bytes.extract_splice_of_apart inside (by omega), trace.counts]
  · rw [Bytes.extract_splice_of_apart inside (by omega), trace.checksum]
  · rw [Bytes.drop_splice_of_le inside (by omega), trace.rest]

variable {buffers now : ι → Bytes}

theorem Step.next_rehash {layout : Layout} {target : ι} (fits : layout.headerSize ≤ (buffers target).length) :
    Step.next buffers ⟨layout, .rehash target⟩ =
      Function.update buffers target ((buffers target).splice 24 (checksumBytes layout (buffers target))) := by
  obtain ⟨notices, done⟩ := rehash_ok fits
  simp only [Step.next, Step.apply, done, bind, Except.bind, pure, Except.pure]

theorem Step.next_transplant {layout : Layout} {target donor : ι}
    (fits : layout.headerSize ≤ (buffers target).length) (donorFits : layout.headerSize ≤ (buffers donor).length) :
    Step.next buffers ⟨layout, .transplant target donor⟩ =
      Function.update buffers target ((buffers target).splice 4 ((buffers donor).extract 4 16)) := by
  simp only [Step.next, Step.apply, transplant_ok fits donorFits, bind, Except.bind, pure, Except.pure]

/-- A step succeeds by the lengths of its buffers alone. -/
theorem Step.apply_ok_iff (step : Step ι) (buffers : ι → Bytes) :
    (∃ after, step.apply buffers = .ok after) ↔ step.Fits fun index => (buffers index).length := by
  obtain ⟨layout, action⟩ := step
  cases action with
  | rehash target =>
    simp only [Step.apply, Step.Fits]
    by_cases fits : layout.headerSize ≤ (buffers target).length
    · obtain ⟨notices, done⟩ := rehash_ok fits
      simp [done, fits, bind, Except.bind, pure, Except.pure]
    · simp [rehash_error (Nat.lt_of_not_le fits), fits, bind, Except.bind]
  | transplant target donor =>
    simp only [Step.apply, Step.Fits]
    by_cases fits : layout.headerSize ≤ (buffers target).length
    · by_cases donorFits : layout.headerSize ≤ (buffers donor).length
      · simp [transplant_ok fits donorFits, fits, donorFits, bind, Except.bind, pure, Except.pure]
      · simp [transplant_donor_error fits (Nat.lt_of_not_le donorFits), donorFits, bind, Except.bind]
    · simp [transplant_error (Nat.lt_of_not_le fits), fits, bind, Except.bind]

theorem Step.next_of_not_fits {step : Step ι} (short : ¬ step.Fits fun index => (buffers index).length) :
    step.next buffers = buffers := by
  unfold Step.next
  split
  next after done => exact absurd ((step.apply_ok_iff buffers).mp ⟨after, done⟩) short
  next => rfl

/-- What the buffers hold, given whose hashes and what checksum each of them came to have. -/
def Traces (buffers : ι → Bytes) (origin : ι → ι) (sealed : ι → Option Layout) (now : ι → Bytes) : Prop :=
  ∀ index, Trace (buffers index) ((buffers (origin index)).extract 4 16) (checksumAfter (sealed index) (buffers index))
    (now index)

omit [DecidableEq ι] in
theorem Traces.start (buffers : ι → Bytes) : Traces buffers id (fun _ => none) buffers :=
  fun _ => ⟨rfl, rfl, rfl, rfl, rfl, rfl⟩

variable {origin : ι → ι} {sealed : ι → Option Layout}

theorem Traces.rehashed (traces : Traces buffers origin sealed now) {layout : Layout} {target : ι}
    (fits : layout.headerSize ≤ (buffers target).length) :
    Traces buffers origin (Function.update sealed target (some layout))
      (Function.update now target ((now target).splice 24 (checksumBytes layout (now target)))) := by
  intro index
  by_cases same : index = target
  · subst same
    simp only [Function.update_self]
    exact (traces index).rehashed layout fits
  · simp only [Function.update_of_ne same]
    exact traces index

theorem Traces.transplanted (traces : Traces buffers origin sealed now) {target donor : ι}
    (fits : 28 ≤ (buffers target).length) (donorFits : 28 ≤ (now donor).length) :
    Traces buffers (Function.update origin target (origin donor)) sealed
      (Function.update now target ((now target).splice 4 ((now donor).extract 4 16))) := by
  intro index
  by_cases same : index = target
  · subst same
    rw [Function.update_self, Function.update_self, ← (traces donor).hashes]
    exact (traces index).transplanted fits donorFits
  · rw [Function.update_of_ne same, Function.update_of_ne same]
    exact traces index

theorem Traces.next (traces : Traces buffers origin sealed now) (step : Step ι) :
    Traces buffers (assign (fun index => (buffers index).length) origin step)
      (reseal (fun index => (buffers index).length) sealed step) (step.next now) := by
  have lengths : (fun index => (now index).length) = fun index => (buffers index).length :=
    funext fun index => (traces index).length
  by_cases fits : step.Fits fun index => (buffers index).length
  · obtain ⟨layout, action⟩ := step
    cases action with
    | rehash target =>
      have room : layout.headerSize ≤ (now target).length := (traces target).length ▸ fits
      have resealed : reseal (fun index => (buffers index).length) sealed ⟨layout, .rehash target⟩ =
          Function.update sealed target (some layout) := if_pos fits
      rw [Step.next_rehash room, resealed]
      exact traces.rehashed fits
    | transplant target donor =>
      have room : layout.headerSize ≤ (now target).length := (traces target).length ▸ fits.1
      have donorRoom : layout.headerSize ≤ (now donor).length := (traces donor).length ▸ fits.2
      have assigned : assign (fun index => (buffers index).length) origin ⟨layout, .transplant target donor⟩ =
          Function.update origin target (origin donor) := if_pos fits
      rw [Step.next_transplant room donorRoom, assigned]
      apply traces.transplanted
      · exact Layout.fields_fit fits.1
      · exact Layout.fields_fit donorRoom
  · rw [Step.next_of_not_fits (lengths ▸ fits)]
    have idle : assign (fun index => (buffers index).length) origin step = origin ∧
        reseal (fun index => (buffers index).length) sealed step = sealed := by
      unfold assign reseal
      constructor <;> split <;> simp only [if_neg fits]
    rwa [idle.1, idle.2]

/-- Whatever came before, every further step adds to it as the replays say. -/
theorem Traces.run (traces : Traces buffers origin sealed now) (steps : List (Step ι)) :
    Traces buffers (steps.foldl (assign fun index => (buffers index).length) origin)
      (steps.foldl (reseal fun index => (buffers index).length) sealed) (run steps now) := by
  induction steps generalizing origin sealed now with
  | nil => exact traces
  | cons step steps ih => exact ih (traces.next step)

private theorem foldl_filter_of_idle {α β : Type} (f : β → α → β) (counts : α → Bool)
    (idle : ∀ state item, counts item = false → f state item = state) (items : List α) (state : β) :
    (items.filter counts).foldl f state = items.foldl f state := by
  induction items generalizing state with
  | nil => rfl
  | cons item items ih =>
    cases counted : counts item with
    | true => simp only [List.filter_cons_of_pos counted, List.foldl_cons, ih]
    | false =>
      rw [List.filter_cons_of_neg (by simp [counted]), List.foldl_cons, idle _ _ counted, ih]

/-- Rehashes do not move hashes. -/
theorem origins_filter (lengths : ι → Nat) (steps : List (Step ι)) :
    origins lengths (steps.filter Step.isTransplant) = origins lengths steps := by
  apply foldl_filter_of_idle
  intro origin step rehashes
  cases action : step.action with
  | rehash target => simp only [assign, action]
  | transplant target donor => simp [Step.isTransplant, action] at rehashes

/-- Transplants do not touch checksums. -/
theorem seals_filter (lengths : ι → Nat) (steps : List (Step ι)) :
    seals lengths (steps.filter (!·.isTransplant)) = seals lengths steps := by
  apply foldl_filter_of_idle
  intro sealed step transplants
  cases action : step.action with
  | rehash target => simp [Step.isTransplant, action] at transplants
  | transplant target donor => simp only [reseal, action]

/-- The outcome of any run, buffer by buffer; which steps succeed; and that rehashes and transplants do not get in each
other's way: all transplants may come first, and all rehashes then. -/
theorem run_history (steps : List (Step ι)) (buffers : ι → Bytes) :
    let lengths := fun index => (buffers index).length
    (∀ index, Trace (buffers index) ((buffers (origins lengths steps index)).extract 4 16)
      (checksumAfter (seals lengths steps index) (buffers index)) (run steps buffers index)) ∧
    (∀ step, (∃ after, Step.apply step (run steps buffers) = .ok after) ↔ step.Fits lengths) ∧
    run steps buffers = run (steps.filter Step.isTransplant ++ steps.filter (!·.isTransplant)) buffers := by
  intro lengths
  have traces : ∀ steps, Traces buffers (origins lengths steps) (seals lengths steps) (run steps buffers) :=
    (Traces.start buffers).run
  refine ⟨traces steps, ?_, ?_⟩
  · intro step
    have same : (fun index => (run steps buffers index).length) = lengths :=
      funext fun index => (traces steps index).length
    rw [Step.apply_ok_iff, same]
  · let sorted := steps.filter Step.isTransplant ++ steps.filter (!·.isTransplant)
    have origin : origins lengths sorted = origins lengths steps := by
      rw [← origins_filter lengths sorted, ← origins_filter lengths steps]
      simp [sorted, List.filter_append, List.filter_filter]
    have sealed : seals lengths sorted = seals lengths steps := by
      rw [← seals_filter lengths sorted, ← seals_filter lengths steps]
      simp [sorted, List.filter_append, List.filter_filter]
    have other := traces sorted
    rw [origin, sealed] at other
    exact funext fun index => (traces steps index).unique (other index)

end CacheSeal.Proofs.CacheHistory
