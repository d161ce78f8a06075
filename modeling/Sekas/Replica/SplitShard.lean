import Sekas.Shard

/-!
# Sekas.Replica.SplitShard

`split_shard` of `replica/eval/cmd_split_shard.rs`: the evaluation of a `SplitShardRequest` on
a replica.  A split key the user provides is checked with `shard::belong_to` against the old
shard's range; without one, the engine estimates a key.  The `GroupEngine` is not among the
sources: what `split_shard` asks of it is a `GroupEngine` argument.

`belong_to` holds of the range's own start (`start ≤ key`), so a user key equal to the start
passes; when the start is not empty, the split leaves the empty left range `[start, start)`
(`splitShard_at_start`).

* `splitShard_of_shardDesc_error`, `splitShard_none`, `splitShard_some`: the three paths;
* `splitShard_user_key`: with a user key, the split is that key exactly when the key lies in
  `[start, end)`, and `InvalidArgument` otherwise.
-/

namespace Sekas

/-- `SplitShardRequest`. -/
structure SplitShardRequest where
  oldShardId : Nat
  newShardId : Nat
  splitKey : Option (List UInt8)
  deriving DecidableEq, Repr

/-- `SplitShard`, the sync op of a split.  The `EvalResult` that `split_shard` returns has no
batch and a `SyncOp` with only this field set, so the split stands for it. -/
structure SplitShard where
  oldShardId : Nat
  newShardId : Nat
  splitKey : List UInt8
  deriving DecidableEq, Repr

/-- What `split_shard` asks of the `GroupEngine` (not among the sources): the descriptor of one
of its shards, and an estimated split key of that shard. -/
structure GroupEngine where
  shardDesc : Nat → Except ServerError ShardDesc
  estimateSplitKey : Nat → Except ServerError (Option (List UInt8))

/-- `split_shard`.  The `debug_assert!` on the chosen key is left out, as in a release
build. -/
def splitShard (engine : GroupEngine) (req : SplitShardRequest) :
    Except ServerError SplitShard := do
  let oldShardId := req.oldShardId
  let newShardId := req.newShardId
  let shardDesc ← engine.shardDesc oldShardId
  let splitKey ← match req.splitKey with
    | some splitKey =>
      if !belongTo shardDesc splitKey then
        throw (.invalidArgument
          s!"the user provided split key is not belong to the shard {oldShardId}")
      else pure splitKey
    | none => do
      match ← engine.estimateSplitKey oldShardId with
      | some splitKey => pure splitKey
      | none => throw (.invalidArgument
          s!"shard estimated split keys is empty, shard id {oldShardId}")
  pure ⟨oldShardId, newShardId, splitKey⟩

/-! ## The three paths -/

section Paths

variable {engine : GroupEngine} {oldShardId newShardId : Nat}

/-- An engine that does not hold the old shard fails the split with its own error. -/
theorem splitShard_of_shardDesc_error {e : ServerError} (splitKey : Option (List UInt8))
    (he : engine.shardDesc oldShardId = .error e) :
    splitShard engine ⟨oldShardId, newShardId, splitKey⟩ = .error e := by
  simp only [splitShard, he]
  rfl

variable {desc : ShardDesc}

/-- Without a user key the split is the engine's estimate, whatever the shard's range. -/
theorem splitShard_none (hdesc : engine.shardDesc oldShardId = .ok desc) :
    splitShard engine ⟨oldShardId, newShardId, none⟩ =
      match engine.estimateSplitKey oldShardId with
      | .error e => .error e
      | .ok (some k) => .ok ⟨oldShardId, newShardId, k⟩
      | .ok none => .error (.invalidArgument
          s!"shard estimated split keys is empty, shard id {oldShardId}") := by
  simp only [splitShard, hdesc]
  rcases engine.estimateSplitKey oldShardId with e | _ | k <;> rfl

/-- A user key is the split when it belongs to the old shard, and `InvalidArgument`
otherwise. -/
theorem splitShard_some (hdesc : engine.shardDesc oldShardId = .ok desc) (k : List UInt8) :
    splitShard engine ⟨oldShardId, newShardId, some k⟩ =
      if belongTo desc k then .ok ⟨oldShardId, newShardId, k⟩
      else .error (.invalidArgument
        s!"the user provided split key is not belong to the shard {oldShardId}") := by
  cases h : belongTo desc k with
  | false => simp [splitShard, hdesc, h, bind, Except.bind]
  | true => simp [splitShard, hdesc, h, bind, Except.bind]; rfl

end Paths

/-! ## The user's split key -/

/-- **The user's split key.**  Given the descriptor of the old shard, with range `[start, end)`
(an empty `end` for +∞), `split_shard` splits at a user key `k` exactly when `start ≤ k` and
(`k < end` or `end` is empty), and rejects every other key with `InvalidArgument`. -/
theorem splitShard_user_key (engine : GroupEngine) (desc : ShardDesc)
    (oldShardId newShardId : Nat) (k : List UInt8)
    (hdesc : engine.shardDesc oldShardId = .ok desc) :
    (splitShard engine ⟨oldShardId, newShardId, some k⟩ = .ok ⟨oldShardId, newShardId, k⟩ ↔
        ¬ List.lt k desc.range.start ∧ (List.lt k desc.range.«end» ∨ desc.range.«end» = [])) ∧
      (splitShard engine ⟨oldShardId, newShardId, some k⟩ = .ok ⟨oldShardId, newShardId, k⟩ ∨
        splitShard engine ⟨oldShardId, newShardId, some k⟩ = .error (.invalidArgument
          s!"the user provided split key is not belong to the shard {oldShardId}")) := by
  rw [splitShard_some hdesc, ← belongTo_iff]
  cases belongTo desc k <;> simp

/-- An engine holding shard `10` of collection `1`, the keys from `"a"` up to `"z"`, that
estimates no key. -/
def letterEngine : GroupEngine := ⟨fun _ => .ok ⟨10, 1, ⟨[97], [122]⟩⟩, fun _ => .ok none⟩

/-- `splitShard_user_key` at the key `"m"` inside shard `10`. -/
theorem splitShard_user_key_m :
    letterEngine.shardDesc 10 = .ok ⟨10, 1, ⟨[97], [122]⟩⟩ ∧
      ((splitShard letterEngine ⟨10, 11, some [109]⟩ = .ok ⟨10, 11, [109]⟩ ↔
          ¬ List.lt ([109] : List UInt8) [97] ∧
            (List.lt ([109] : List UInt8) [122] ∨ ([122] : List UInt8) = [])) ∧
        (splitShard letterEngine ⟨10, 11, some [109]⟩ = .ok ⟨10, 11, [109]⟩ ∨
          splitShard letterEngine ⟨10, 11, some [109]⟩ = .error (.invalidArgument
            s!"the user provided split key is not belong to the shard {10}"))) :=
  ⟨rfl, splitShard_user_key letterEngine ⟨10, 1, ⟨[97], [122]⟩⟩ 10 11 [109] rfl⟩

/-- A user key equal to the shard's start is accepted, and the split leaves the empty left
range `["a", "a")`. -/
theorem splitShard_at_start :
    splitShard letterEngine ⟨10, 11, some [97]⟩ = .ok ⟨10, 11, [97]⟩ := rfl

end Sekas
