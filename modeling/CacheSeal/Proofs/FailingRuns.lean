/-! Runs on a state that may fail, and keep the state that they had come to. Calls on a tree and whole sessions are of
this one kind. -/

namespace CacheSeal.Proofs.FailingRuns
variable {ε σ α β : Type}

theorem bind_ok_iff {first : Except ε α} {next : α → Except ε β} {result : β} :
    first >>= next = .ok result ↔ ∃ value, first = .ok value ∧ next value = .ok result := by
  cases first <;> simp [bind, Except.bind]

theorem bind_error_iff {first : Except ε α} {next : α → Except ε β} {error : ε} :
    first >>= next = .error error ↔ first = .error error ∨ ∃ value, first = .ok value ∧ next value = .error error := by
  cases first <;> simp [bind, Except.bind]

theorem mapError_ok_iff {δ : Type} {result : Except ε α} {failure : ε → δ} {value : α} :
    result.mapError failure = .ok value ↔ result = .ok value := by
  cases result with
  | error error => exact iff_of_false nofun nofun
  | ok value =>
    constructor
    · rintro ⟨⟩
      rfl
    · rintro ⟨⟩
      rfl

theorem mapError_error_iff {δ : Type} {result : Except ε α} {failure : ε → δ} {error : δ} :
    result.mapError failure = .error error ↔ ∃ cause, result = .error cause ∧ failure cause = error := by
  cases result with
  | error cause =>
    constructor
    · rintro ⟨⟩
      exact ⟨cause, rfl, rfl⟩
    · rintro ⟨_, ⟨⟩, rfl⟩
      rfl
  | ok value => exact iff_of_false nofun nofun

theorem map_bind {γ : Type} {first : Except ε α} {next : α → Except ε β} {change : β → γ} :
    (first >>= next).map change = first >>= fun value => (next value).map change := by
  cases first <;> rfl

theorem bind_map {γ : Type} {first : Except ε α} {change : α → γ} {next : γ → Except ε β} :
    first.map change >>= next = first >>= fun value => next (change value) := by
  cases first <;> rfl

theorem map_mapError {γ δ : Type} {result : Except ε α} {failure : ε → δ} {change : α → γ} :
    (result.mapError failure).map change = (result.map change).mapError failure := by
  cases result <;> rfl

theorem bind_congr_ok {first : Except ε α} {next other : α → Except ε β}
    (same : ∀ value, first = .ok value → next value = other value) : first >>= next = first >>= other := by
  cases first with
  | error error => rfl
  | ok value => exact same value rfl

theorem run_bind (first : ExceptT ε (StateM σ) α) (next : α → ExceptT ε (StateM σ) β) (state : σ) :
    (first >>= next).run state =
      match first.run state with
      | (.ok value, after) => (next value).run after
      | (.error error, after) => (.error error, after) := by
  change ExceptT.bindCont next (first.run state).1 (first.run state).2 = _
  rcases first.run state with ⟨result, after⟩
  cases result <;> rfl

theorem run_tryCatch (body : ExceptT ε (StateM σ) α) (handle : ε → ExceptT ε (StateM σ) α) (state : σ) :
    (tryCatch body handle).run state =
      match body.run state with
      | (.ok value, after) => (.ok value, after)
      | (.error error, after) => (handle error).run after := by
  change (match (body.run state).1 with
    | .ok value => pure (.ok value)
    | .error error => handle error : StateM σ (Except ε α)) (body.run state).2 = _
  rcases body.run state with ⟨result, after⟩
  cases result <;> rfl

theorem run_discard (run : ExceptT ε (StateM σ) α) (state : σ) :
    (discard run).run state =
      match run.run state with
      | (.ok _, after) => (.ok ⟨⟩, after)
      | (.error error, after) => (.error error, after) := by
  change (match (run.run state).1 with
    | .ok _ => pure (.ok ⟨⟩)
    | .error error => pure (.error error) : StateM σ (Except ε PUnit)) (run.run state).2 = _
  rcases run.run state with ⟨result, after⟩
  cases result <;> rfl

theorem run_pure (value : α) (state : σ) : (pure value : ExceptT ε (StateM σ) α).run state = (.ok value, state) := rfl

theorem run_throw (error : ε) (state : σ) : (throw error : ExceptT ε (StateM σ) α).run state = (.error error, state) :=
  rfl

theorem run_get (state : σ) : (get : ExceptT ε (StateM σ) σ).run state = (.ok state, state) := rfl

theorem run_modify (change : σ → σ) (state : σ) :
    (modify change : ExceptT ε (StateM σ) PUnit).run state = (.ok ⟨⟩, change state) := rfl

/-- A run has ended in a state of which the assertion holds, and if it has failed, then in one of these ways. -/
structure Ends (keeps : σ → Prop) (allowed : ε → Prop) (outcome : Except ε α × σ) : Prop where
  kept : keeps outcome.2
  fails : ∀ error, outcome.1 = .error error → allowed error

/-- The run keeps an assertion about its state, and where it fails, it fails in one of these ways. -/
def FailsOnly (keeps : σ → Prop) (allowed : ε → Prop) (run : ExceptT ε (StateM σ) α) : Prop :=
  ∀ state, keeps state → Ends keeps allowed (run.run state)

section Ends
variable {keeps : σ → Prop} {allowed : ε → Prop} {state : σ}

theorem Ends.ok (kept : keeps state) (value : α) : Ends keeps allowed (.ok value, state) := by
  refine ⟨kept, ?_⟩
  intro error failed
  cases failed

theorem Ends.error {error : ε} (kept : keeps state) (holds : allowed error) :
    Ends keeps allowed ((.error error, state) : Except ε α × σ) := by
  refine ⟨kept, ?_⟩
  intro other failed
  cases failed
  exact holds

end Ends

namespace FailsOnly
variable {keeps : σ → Prop} {allowed between : ε → Prop} {run : ExceptT ε (StateM σ) α}

theorem weaken {other : ε → Prop} (fails : FailsOnly keeps allowed run) (implies : ∀ error, allowed error → other error) :
    FailsOnly keeps other run := by
  intro state holds
  have ends := fails state holds
  exact ⟨ends.kept, fun error failed => implies error (ends.fails error failed)⟩

theorem bind {next : α → ExceptT ε (StateM σ) β} (first : FailsOnly keeps allowed run)
    (rest : ∀ value, FailsOnly keeps allowed (next value)) : FailsOnly keeps allowed (run >>= next) := by
  intro state holds
  have ends := first state holds
  rw [run_bind]
  rcases ran : run.run state with ⟨result, after⟩
  rw [ran] at ends
  cases result with
  | error error => exact .error ends.kept (ends.fails error rfl)
  | ok value => exact rest value after ends.kept

theorem bind_get {next : σ → ExceptT ε (StateM σ) β}
    (rest : ∀ state, keeps state → FailsOnly keeps allowed (next state)) : FailsOnly keeps allowed (get >>= next) := by
  intro state holds
  rw [run_bind, run_get]
  exact rest state holds state holds

theorem tryCatch {handle : ε → ExceptT ε (StateM σ) α} (body : FailsOnly keeps between run)
    (rescue : ∀ error, between error → FailsOnly keeps allowed (handle error)) :
    FailsOnly keeps allowed (tryCatch run handle) := by
  intro state holds
  have ends := body state holds
  rw [run_tryCatch]
  rcases ran : run.run state with ⟨result, after⟩
  rw [ran] at ends
  cases result with
  | error error => exact rescue error (ends.fails error rfl) after ends.kept
  | ok value => exact .ok ends.kept value

theorem discard (fails : FailsOnly keeps allowed run) : FailsOnly keeps allowed (discard run) := by
  intro state holds
  have ends := fails state holds
  rw [run_discard]
  rcases ran : run.run state with ⟨result, after⟩
  rw [ran] at ends
  cases result with
  | error error => exact .error ends.kept (ends.fails error rfl)
  | ok value => exact .ok ends.kept PUnit.unit

theorem pure (value : α) : FailsOnly keeps allowed (Pure.pure value : ExceptT ε (StateM σ) α) :=
  fun _ holds => .ok holds value

theorem throw {error : ε} (holds : allowed error) :
    FailsOnly keeps allowed (MonadExcept.throw error : ExceptT ε (StateM σ) α) :=
  fun _ kept => .error kept holds

theorem throw_bind {error : ε} (next : α → ExceptT ε (StateM σ) β) (holds : allowed error) :
    FailsOnly keeps allowed (MonadExcept.throw error >>= next) :=
  FailsOnly.throw holds

theorem modify {change : σ → σ} (kept : ∀ state, keeps state → keeps (change state)) :
    FailsOnly keeps allowed (modify change : ExceptT ε (StateM σ) PUnit) :=
  fun state holds => .ok (kept state holds) PUnit.unit

theorem set {state : σ} (kept : keeps state) :
    FailsOnly keeps allowed (MonadStateOf.set state : ExceptT ε (StateM σ) PUnit) :=
  fun _ _ => .ok kept PUnit.unit

end FailsOnly

/-- From states that are alike two runs end alike: with the same result, and in states that are alike again. -/
def InStep (alike : σ → σ → Prop) (left right : ExceptT ε (StateM σ) α) : Prop :=
  ∀ first second, alike first second →
    (left.run first).1 = (right.run second).1 ∧ alike (left.run first).2 (right.run second).2

namespace InStep
variable {alike : σ → σ → Prop} {left right : ExceptT ε (StateM σ) α}

theorem refl (run : ExceptT ε (StateM σ) α) : InStep Eq run run := by
  rintro state _ rfl
  exact ⟨rfl, rfl⟩

theorem bind {leftNext rightNext : α → ExceptT ε (StateM σ) β} (runs : InStep alike left right)
    (rest : ∀ value, InStep alike (leftNext value) (rightNext value)) :
    InStep alike (left >>= leftNext) (right >>= rightNext) := by
  intro first second related
  obtain ⟨same, after⟩ := runs first second related
  rw [run_bind, run_bind]
  rcases ran : left.run first with ⟨result, leftAfter⟩
  rcases also : right.run second with ⟨other, rightAfter⟩
  rw [ran, also] at same after
  obtain rfl : result = other := same
  cases result with
  | error error => exact ⟨rfl, after⟩
  | ok value => exact rest value leftAfter rightAfter after

theorem bind_get {leftNext rightNext : σ → ExceptT ε (StateM σ) β}
    (rest : ∀ first second, alike first second → InStep alike (leftNext first) (rightNext second)) :
    InStep alike (get >>= leftNext) (get >>= rightNext) := by
  intro first second related
  rw [run_bind, run_bind, run_get, run_get]
  exact rest first second related first second related

theorem tryCatch {leftHandle rightHandle : ε → ExceptT ε (StateM σ) α} (body : InStep alike left right)
    (rescue : ∀ error, InStep alike (leftHandle error) (rightHandle error)) :
    InStep alike (tryCatch left leftHandle) (tryCatch right rightHandle) := by
  intro first second related
  obtain ⟨same, after⟩ := body first second related
  rw [run_tryCatch, run_tryCatch]
  rcases ran : left.run first with ⟨result, leftAfter⟩
  rcases also : right.run second with ⟨other, rightAfter⟩
  rw [ran, also] at same after
  obtain rfl : result = other := same
  cases result with
  | error error => exact rescue error leftAfter rightAfter after
  | ok value => exact ⟨rfl, after⟩

theorem pure (value : α) : InStep alike (Pure.pure value : ExceptT ε (StateM σ) α) (Pure.pure value) :=
  fun _ _ related => ⟨rfl, related⟩

theorem throw (error : ε) :
    InStep alike (MonadExcept.throw error : ExceptT ε (StateM σ) α) (MonadExcept.throw error) :=
  fun _ _ related => ⟨rfl, related⟩

theorem modify {change other : σ → σ} (kept : ∀ first second, alike first second → alike (change first) (other second)) :
    InStep alike (modify change : ExceptT ε (StateM σ) PUnit) (modify other) :=
  fun first second related => ⟨rfl, kept first second related⟩

theorem set {first second : σ} (related : alike first second) :
    InStep alike (MonadStateOf.set first : ExceptT ε (StateM σ) PUnit) (MonadStateOf.set second) :=
  fun _ _ _ => ⟨rfl, related⟩

end InStep

end CacheSeal.Proofs.FailingRuns
