import Sekas.Api

/-!
# Sekas.Client.Migrate

`MigrateClient` of `client/migrate_client.rs`.  Each method loops: an iteration makes a fresh
client and calls the method on it; `Ok` ends the loop, and an error goes to
`retry_state.retry(err)`, which lets the loop go on or ends it with an error.
`setup_migration` alone returns an `EpochNotMatch` at once, without asking the retry state.

`RetryState` is not among the sources and is modelled from the spec: a state and a step that,
given an error, goes on with a new state or gives up with an error.  The clients an iteration
builds are not either (the `group_client.rs` of the sources has no `setup_migration` or
`commit_migration`, and its `lazy` takes other arguments): an iteration is what its call
returned, and a run is the list of those answers.

* `retryLoop_errors`: errors are handed to the retry state in order, until it gives up;
* `retryLoop_errors_ok`: so the loop returns the first `Ok`, unless the retry state gave up on an
  error before it;
* `setupMigration_epochNotMatch`: `setup_migration` returns an `EpochNotMatch` as it came,
  where `commit_migration` hands it to the retry state.
-/

namespace Sekas

/-- Modelled from the spec: `RetryState`, a backoff policy.  `init` is `RetryState::new(None)`;
`retry` is one `retry(err)`: the state after the sleep, or the error that ends the loop. -/
structure RetryState (σ : Type) where
  init : σ
  retry : σ → Error → Except Error σ

variable {σ V : Type}

/-- The loop of the `MigrateClient` methods over the answers of their iterations: the first `Ok`
is returned, and each error goes to `retry`; `none` when the answers run out. -/
def retryLoop (retry : σ → Error → Except Error σ) : σ → List (Except Error V) → Option (Except Error V)
  | _, [] => none
  | _, .ok v :: _ => some (.ok v)
  | s, .error err :: answers =>
    match retry s err with
    | .error e => some (.error e)
    | .ok s => retryLoop retry s answers

/-- The loop of `setup_migration`: an `EpochNotMatch` is returned at once. -/
def setupMigrationLoop (retry : σ → Error → Except Error σ) :
    σ → List (Except Error Unit) → Option (Except Error Unit)
  | _, [] => none
  | _, .ok () :: _ => some (.ok ())
  | _, .error (.epochNotMatch desc) :: _ => some (.error (.epochNotMatch desc))
  | s, .error err :: answers =>
    match retry s err with
    | .error e => some (.error e)
    | .ok s => setupMigrationLoop retry s answers

namespace MigrateClient

variable (retryState : RetryState σ)

/-- `MigrateClient::setup_migration`. -/
def setupMigration (answers : List (Except Error Unit)) : Option (Except Error Unit) :=
  setupMigrationLoop retryState.retry retryState.init answers

/-- `MigrateClient::commit_migration`. -/
def commitMigration (answers : List (Except Error Unit)) : Option (Except Error Unit) :=
  retryLoop retryState.retry retryState.init answers

/-- `MigrateClient::pull_shard_chunk`: each iteration with a fresh `ShardClient`. -/
def pullShardChunk (answers : List (Except Error V)) : Option (Except Error V) :=
  retryLoop retryState.retry retryState.init answers

/-- `MigrateClient::forward`. -/
def forward (answers : List (Except Error V)) : Option (Except Error V) :=
  retryLoop retryState.retry retryState.init answers

end MigrateClient

/-! ## The loop -/

variable (retry : σ → Error → Except Error σ)

/-- **Errors go to the retry state in order.**  Over a run of errors the loop hands each to
`retry`: it ends with the error `retry` gives up with, or goes on from the state `retry`
reached. -/
theorem retryLoop_errors (s : σ) (errs : List Error) (rest : List (Except Error V)) :
    retryLoop retry s (errs.map .error ++ rest) =
      match errs.foldlM retry s with
      | .error e => some (.error e)
      | .ok s' => retryLoop retry s' rest := by
  induction errs generalizing s with
  | nil => rfl
  | cons err errs ih =>
    rw [List.map_cons, List.cons_append, retryLoop, List.foldlM_cons]
    cases retry s err with
    | error e => rfl
    | ok s' => exact ih s'

/-- **The first `Ok` wins.**  Whatever the retry state, a run of errors then `Ok(v)` returns
`Ok(v)` when the retry state went on after each of the errors, and the error it gave up with
otherwise. -/
theorem retryLoop_errors_ok (s : σ) (errs : List Error) (v : V) (rest : List (Except Error V)) :
    retryLoop retry s (errs.map .error ++ .ok v :: rest) =
      some ((errs.foldlM retry s).map fun _ => v) := by
  rw [retryLoop_errors]
  cases errs.foldlM retry s <;> rfl

/-- Any error but `EpochNotMatch` goes to the retry state in `setup_migration` too. -/
theorem setupMigrationLoop_error (s : σ) (err : Error) (hne : ∀ d, err ≠ .epochNotMatch d)
    (answers : List (Except Error Unit)) :
    setupMigrationLoop retry s (.error err :: answers) =
      match retry s err with
      | .error e => some (.error e)
      | .ok s => setupMigrationLoop retry s answers := by
  cases err <;> first | exact absurd rfl (hne _) | rfl

/-- **`setup_migration` does not retry an `EpochNotMatch`.**  After a run of other errors, an
`EpochNotMatch(desc)` ends `setup_migration` with that very error, unless the retry state gave up
before; `commit_migration` hands it to the retry state and goes on as it decides. -/
theorem setupMigration_epochNotMatch (s : σ) (errs : List Error)
    (herrs : ∀ err ∈ errs, ∀ d, err ≠ .epochNotMatch d) (desc : GroupDesc)
    (rest : List (Except Error Unit)) :
    setupMigrationLoop retry s (errs.map .error ++ .error (.epochNotMatch desc) :: rest) =
        some ((errs.foldlM retry s).bind fun _ => .error (.epochNotMatch desc)) ∧
      retryLoop retry s (errs.map .error ++ .error (.epochNotMatch desc) :: rest) =
        match (errs ++ [Error.epochNotMatch desc]).foldlM retry s with
        | .error e => some (.error e)
        | .ok s' => retryLoop retry s' rest := by
  refine ⟨?_, by rw [← List.singleton_append, ← List.append_assoc, ← List.map_singleton,
    ← List.map_append, retryLoop_errors]⟩
  induction errs generalizing s with
  | nil => rfl
  | cons err errs ih =>
    rw [List.map_cons, List.cons_append, setupMigrationLoop_error retry s err (herrs err (.head _)),
      List.foldlM_cons]
    cases retry s err with
    | error e => rfl
    | ok s' => exact ih s' fun e he => herrs e (.tail _ he)

end Sekas
