import Sekas.Root.GroupState

/-!
# Sekas.Root.NextId

`Schema::next_id` under concurrency.  A call reads the counter of its id type with one `get`,
writes it back one higher with one `batch_write`, and returns what it read.  The root store
makes each of these one atomic step, not the pair: calls made at the same time interleave
between the two, as the source's `TODO(zojw): replace with INC` anticipates.

A call is a small state machine (`NextIdCall`): it starts, reads, and is done (or fails to
read a counter).  A run schedules one call per step.  A call alone is `next_id` itself
(`nextId_eq_steps`).  Calls one after another hand out consecutive ids
(`run_serialSchedule`); two calls that both read before either writes hand out the same id.
-/

namespace Sekas

open Schema

/-- Where one `next_id` call stands. -/
inductive NextIdCall where
  | start
  | read (id : UInt64)
  | done (id : UInt64)
  | failed (e : ServerError)
  deriving DecidableEq, Repr

namespace NextIdCall

variable (b : BootstrapIds) (idType : String)

/-- One atomic step of a `next_id` call on the counter of `idType`: the `get` of the counter,
or the `batch_write` of the counter one higher. -/
def step (store : RootStore) : NextIdCall → NextIdCall × RootStore
  | start =>
    match getMeta b store (asBytes idType) with
    | none => (failed (.invalidData (idType ++ " id")), store)
    | some id =>
      match u64FromLeBytes id with
      | none => (failed (.invalidData (idType ++ " id")), store)
      | some id => (read id, store)
  | read id =>
    (done id, batchWrite store
      (PutBatchBuilder.empty.putMeta b (asBytes idType) (u64ToLeBytes (id + 1))).build)
  | done id => (done id, store)
  | failed e => (failed e, store)

/-- **A call alone is `next_id`.**  Its first step fails as `next_id` fails, or reads the id
`next_id` returns; its second step is then done with that id and leaves the store `next_id`
leaves. -/
theorem nextId_eq_steps (store : RootStore) :
    (∃ e, step b idType store start = (failed e, store) ∧ nextId b store idType = .error e) ∨
    (∃ id, step b idType store start = (read id, store) ∧
      (step b idType store (read id)).1 = done id ∧
      nextId b store idType = .ok (id, (step b idType store (read id)).2)) := by
  rcases hm : getMeta b store (asBytes idType) with _ | bytes
  · exact .inl ⟨.invalidData (idType ++ " id"), by simp [step, hm], by simp [nextId, hm]⟩
  · rcases hd : u64FromLeBytes bytes with _ | id
    · exact .inl ⟨.invalidData (idType ++ " id"), by simp [step, hm, hd], by simp [nextId, hm, hd]⟩
    · exact .inr ⟨id, by simp [step, hm, hd], rfl, by simp [nextId, step, hm, hd]⟩

end NextIdCall

/-- Concurrent `next_id` calls on one id type: the store and every call. -/
structure NextIds where
  store : RootStore
  calls : List NextIdCall

namespace NextIds

variable (b : BootstrapIds) (idType : String)

/-- Schedule call `k` for one step. -/
def step (s : NextIds) (k : Nat) : NextIds :=
  match s.calls[k]? with
  | none => s
  | some c => ⟨(c.step b idType s.store).2, s.calls.set k (c.step b idType s.store).1⟩

/-- Run a schedule: the call each step schedules, in order. -/
def run (s : NextIds) (schedule : List Nat) : NextIds := schedule.foldl (step b idType) s

/-- Each call of `n` runs its two steps before the next call starts. -/
def serialSchedule (n : Nat) : List Nat := (List.range n).flatMap fun k => [k, k]

/-- The counter of `idType` holds `k`. -/
def CounterIs (store : RootStore) (k : UInt64) : Prop :=
  getMeta b store (asBytes idType) = some (u64ToLeBytes k)

variable {b idType}

theorem serialSchedule_succ (n : Nat) : serialSchedule (n + 1) = serialSchedule n ++ [n, n] := by
  simp [serialSchedule, List.range_succ]

/-- Running two schedules is running one after the other. -/
theorem run_append (s : NextIds) (xs ys : List Nat) :
    run b idType s (xs ++ ys) = run b idType (run b idType s xs) ys :=
  List.foldl_append _ _ _ _

/-- A step of one of the first calls leaves the later ones alone. -/
theorem step_append_left {store : RootStore} {l r : List NextIdCall} {k : Nat} (hk : k < l.length) :
    step b idType ⟨store, l ++ r⟩ k =
      ⟨(step b idType ⟨store, l⟩ k).store, (step b idType ⟨store, l⟩ k).calls ++ r⟩ := by
  simp [step, List.getElem?_append_left hk, List.getElem?_eq_getElem hk, List.set_append_left _ _ hk]

/-- A step of one of the later calls leaves the first ones alone. -/
theorem step_append_right {store : RootStore} {l r : List NextIdCall} {k : Nat} :
    step b idType ⟨store, l ++ r⟩ (l.length + k) =
      ⟨(step b idType ⟨store, r⟩ k).store, l ++ (step b idType ⟨store, r⟩ k).calls⟩ := by
  simp only [step, List.getElem?_append_right (Nat.le_add_right _ _), Nat.add_sub_cancel_left]
  split <;> simp [List.set_append_right _ _ (Nat.le_add_right _ _)]

/-- **Frame.**  A schedule of the first calls runs as if the later ones were not there. -/
theorem run_append_left : ∀ (schedule : List Nat) (store : RootStore) (l r : List NextIdCall),
    (∀ k ∈ schedule, k < l.length) →
      run b idType ⟨store, l ++ r⟩ schedule =
        ⟨(run b idType ⟨store, l⟩ schedule).store, (run b idType ⟨store, l⟩ schedule).calls ++ r⟩
  | [], _, _, _, _ => rfl
  | k :: schedule, store, l, r, h => by
    have hk := h k (.head _)
    have hlen : (step b idType ⟨store, l⟩ k).calls.length = l.length := by
      simp only [step, List.getElem?_eq_getElem hk, List.length_set]
    simp only [run, List.foldl_cons] at *
    rw [step_append_left hk]
    exact run_append_left schedule _ _ r fun k' hk' => hlen ▸ h k' (.tail _ hk')

/-- **Frame.**  A schedule of the later calls runs as if the first ones were not there. -/
theorem run_append_right : ∀ (schedule : List Nat) (store : RootStore) (l r : List NextIdCall),
    run b idType ⟨store, l ++ r⟩ (schedule.map (l.length + ·)) =
      ⟨(run b idType ⟨store, r⟩ schedule).store, l ++ (run b idType ⟨store, r⟩ schedule).calls⟩
  | [], _, _, _ => rfl
  | k :: schedule, store, l, r => by
    simp only [run, List.map_cons, List.foldl_cons] at *
    rw [step_append_right]
    exact run_append_right schedule _ l _

/-- **One call alone**, from a counter at `k`: it returns `k` and leaves the counter at
`k + 1`. -/
theorem run_single {store : RootStore} {k : UInt64} (h : CounterIs b idType store k) :
    (run b idType ⟨store, [.start]⟩ [0, 0]).calls = [.done k] ∧
      CounterIs b idType (run b idType ⟨store, [.start]⟩ [0, 0]).store (k + 1) := by
  simp only [CounterIs] at h ⊢
  simp only [run, List.foldl_cons, List.foldl_nil, step, NextIdCall.step, h,
    u64FromLeBytes_u64ToLeBytes, List.getElem?_cons_zero, List.set_cons_zero, true_and]
  exact get_batchWrite_put_self

/-- **Calls one after another hand out consecutive ids.**  From a counter at `k`, `n` calls,
each running both steps before the next starts, return `k`, `k + 1`, … and leave the counter
at `k + n`. -/
theorem run_serialSchedule {store : RootStore} {k : UInt64} (h : CounterIs b idType store k) :
    ∀ n : Nat,
      (run b idType ⟨store, List.replicate n .start⟩ (serialSchedule n)).calls =
          (List.range n).map (fun i => .done (k + UInt64.ofNat i)) ∧
        CounterIs b idType (run b idType ⟨store, List.replicate n .start⟩ (serialSchedule n)).store
          (k + UInt64.ofNat n)
  | 0 => ⟨rfl, by simpa [CounterIs] using h⟩
  | n + 1 => by
    obtain ⟨ihc, ihs⟩ := run_serialSchedule h n
    have hsched : ∀ j ∈ serialSchedule n, j < (List.replicate n NextIdCall.start).length := by
      simp [serialSchedule]
    have hlen : [n, n] = [0, 0].map
        (((List.range n).map fun i => NextIdCall.done (k + UInt64.ofNat i)).length + ·) := by
      simp
    rw [List.replicate_succ', serialSchedule_succ, run_append, run_append_left _ _ _ _ hsched, ihc,
      hlen, run_append_right]
    obtain ⟨hc, hs⟩ := run_single ihs
    refine ⟨by rw [hc, List.range_succ, List.map_append]; rfl, ?_⟩
    rwa [uint64_ofNat_succ, ← add_assoc]

/-- A store holding only the node-id counter, at `5`. -/
def nodeCounterStore (b : BootstrapIds) : RootStore :=
  RootStore.batchWrite ∅ (PutBatchBuilder.empty.putMeta b (asBytes metaNodeIdKey) (u64ToLeBytes 5)).build

/-- Two serial calls from the node-id counter at `5` return `5` and `6` and leave it at `7`. -/
theorem run_serialSchedule_nodeIds :
    CounterIs exampleIds metaNodeIdKey (nodeCounterStore exampleIds) 5 ∧
      (run exampleIds metaNodeIdKey ⟨nodeCounterStore exampleIds, List.replicate 2 .start⟩
          (serialSchedule 2)).calls = (List.range 2).map (fun i => .done (5 + UInt64.ofNat i)) ∧
      CounterIs exampleIds metaNodeIdKey (run exampleIds metaNodeIdKey
        ⟨nodeCounterStore exampleIds, List.replicate 2 .start⟩ (serialSchedule 2)).store (5 + UInt64.ofNat 2) :=
  have h : CounterIs exampleIds metaNodeIdKey (nodeCounterStore exampleIds) 5 := get_batchWrite_put_self
  ⟨h, run_serialSchedule h 2⟩

/-- **Two calls that both read before either writes return the same id**, and the counter
moves on by one only. -/
theorem run_interleaved {store : RootStore} {k : UInt64} (h : CounterIs b idType store k) :
    (run b idType ⟨store, [.start, .start]⟩ [0, 1, 0, 1]).calls = [.done k, .done k] ∧
      CounterIs b idType (run b idType ⟨store, [.start, .start]⟩ [0, 1, 0, 1]).store (k + 1) := by
  simp only [CounterIs] at h ⊢
  simp only [run, List.foldl_cons, List.foldl_nil, step, NextIdCall.step, h,
    u64FromLeBytes_u64ToLeBytes, List.getElem?_cons_zero, List.getElem?_cons_succ,
    List.set_cons_zero, List.set_cons_succ, true_and]
  exact get_batchWrite_put_self

/-- The bootstrapped store's database-id counter is past the system database's id. -/
theorem counterIs_bootstrapped (cs : Codecs) (b : BootstrapIds) (addr : String) (clusterId : Bytes) :
    CounterIs b metaDatabaseIdKey (bootstrapped cs b addr clusterId) (systemDatabaseId + 1) := by
  simp +decide only [CounterIs, getMeta, bootstrapped, bootstrapBatch, initSystemCollections,
    initMetaCollection, PutBatchBuilder.putCollection, PutBatchBuilder.putMeta,
    PutBatchBuilder.putDatabase, PutBatchBuilder.putNode, PutBatchBuilder.putGroup,
    PutBatchBuilder.putReplicaState, get_batchWrite_put, systemCollectionCollectionId,
    systemDatabaseCollectionId, systemMateCollectionId, systemNodeCollectionId,
    systemGroupCollectionId, systemReplicaStateCollectionId, add_right_inj, false_and, true_and,
    ↓reduceIte]

/-- From the bootstrapped store, two `next_id` calls for database ids that both read the
counter before either writes it back both return id `2`, so two `create_database` calls give
their databases the same id. -/
theorem concurrent_next_id_duplicates (cs : Codecs) (b : BootstrapIds) (addr : String)
    (clusterId : Bytes) :
    (run b metaDatabaseIdKey ⟨bootstrapped cs b addr clusterId, [.start, .start]⟩ [0, 1, 0, 1]).calls =
      [.done 2, .done 2] :=
  (run_interleaved (counterIs_bootstrapped cs b addr clusterId)).1

end NextIds

end Sekas
