import Sekas.Shard
import Mathlib.Data.List.Nodup

/-!
# Sekas.Client.Executable

The executability predicate of `group_client.rs`: whether a group descriptor returned with
`EpochNotMatch` still holds every key a request touches, so that the client may retry the
request under that descriptor.

The headline result, `isExecutable_iff_keys`, reads the predicate as a statement about the
request's shard and keys.  It needs the descriptor's shard ids to be distinct:
`is_target_shard_exists` looks at the *first* shard with the id.
-/

namespace Sekas

/-! ## The predicate -/

/-- `is_read_only_request`: `Get` and `Scan`. -/
def isReadOnlyRequest : Request → Bool
  | .get .. | .scan => true
  | _ => false

/-- `is_target_shard_exists`: the first shard of the descriptor with the id holds the key. -/
def isTargetShardExists (desc : GroupDesc) (shardId : Nat) (key : List UInt8) : Bool :=
  ((desc.shards.find? fun s => s.id = shardId).map fun s => belongTo s key).getD false

/-- `is_all_target_shard_exists`: every delete's key, then every put's key, passes
`isTargetShardExists`. -/
def isAllTargetShardExists (descriptor : GroupDesc) (shardId : Nat)
    (deletes : List DeleteRequest) (puts : List PutRequest) : Bool :=
  if !deletes.all fun delete => isTargetShardExists descriptor shardId delete.key then false
  else if !puts.all fun put => isTargetShardExists descriptor shardId put.key then false
  else true

/-- `is_executable`. -/
def isExecutable (descriptor : GroupDesc) : Request → Bool
  | .get shardId userKey => isTargetShardExists descriptor shardId userKey
  | .write shardId deletes puts => isAllTargetShardExists descriptor shardId deletes puts
  | .writeIntent shardId (some (.delete delete)) => isTargetShardExists descriptor shardId delete.key
  | .writeIntent shardId (some (.put put)) => isTargetShardExists descriptor shardId put.key
  | .commitIntent shardId userKey => isTargetShardExists descriptor shardId userKey
  | .clearIntent shardId userKey => isTargetShardExists descriptor shardId userKey
  | _ => false

/-! ## What a request references -/

/-- The shard a keyed request targets and the keys it references: the user key of a `Get`,
`CommitIntent` or `ClearIntent`, the key of an intent's write, every delete and put key of a
`Write`.  `none` for the other requests. -/
def Request.targetKeys : Request → Option (Nat × List (List UInt8))
  | .get shardId userKey => some (shardId, [userKey])
  | .write shardId deletes puts => some (shardId, deletes.map (·.key) ++ puts.map (·.key))
  | .writeIntent shardId (some (.delete delete)) => some (shardId, [delete.key])
  | .writeIntent shardId (some (.put put)) => some (shardId, [put.key])
  | .commitIntent shardId userKey => some (shardId, [userKey])
  | .clearIntent shardId userKey => some (shardId, [userKey])
  | _ => none

/-- Some shard of the descriptor with the id holds the key. -/
def HoldsKey (desc : GroupDesc) (shardId : Nat) (key : List UInt8) : Prop :=
  ∃ s ∈ desc.shards, s.id = shardId ∧ belongTo s key = true

/-! ## Shard lookup under distinct ids -/

section Distinct

variable {desc : GroupDesc} (hd : (desc.shards.map (·.id)).Nodup)
include hd

/-- With distinct ids, `find?` by id returns exactly the shard carrying that id. -/
theorem find?_id_eq_some_iff {shardId : Nat} {s : ShardDesc} :
    desc.shards.find? (fun s => s.id = shardId) = some s ↔ s ∈ desc.shards ∧ s.id = shardId := by
  refine ⟨fun h => ⟨List.mem_of_find?_eq_some h, by simpa using List.find?_some h⟩, ?_⟩
  rintro ⟨hs, rfl⟩
  obtain ⟨t, ht⟩ : ∃ t, desc.shards.find? (fun s' => s'.id = s.id) = some t :=
    Option.ne_none_iff_exists'.mp (by simpa [List.find?_eq_none] using ⟨s, hs, rfl⟩)
  have htid : t.id = s.id := by simpa using List.find?_some ht
  rw [ht, List.inj_on_of_nodup_map hd (List.mem_of_find?_eq_some ht) hs htid]

/-- `isTargetShardExists` is `HoldsKey` once shard ids are distinct. -/
theorem isTargetShardExists_iff {shardId : Nat} {key : List UInt8} :
    isTargetShardExists desc shardId key = true ↔ HoldsKey desc shardId key := by
  unfold isTargetShardExists HoldsKey
  cases h : desc.shards.find? (fun s => s.id = shardId) with
  | none =>
    simp only [List.find?_eq_none, decide_eq_true_eq] at h
    exact ⟨fun h' => by simp at h', fun ⟨s, hs, hid, _⟩ => absurd hid (h s hs)⟩
  | some t =>
    have ht := (find?_id_eq_some_iff hd).mp h
    refine ⟨fun hk => ⟨t, ht.1, ht.2, by simpa using hk⟩, ?_⟩
    rintro ⟨s, hs, hid, hk⟩
    rw [List.inj_on_of_nodup_map hd ht.1 hs (ht.2.trans hid.symm)]
    simpa using hk

/-- Keys held one by one are held by one shard: the shard with the id is unique. -/
theorem forall_holdsKey_iff {shardId : Nat} {keys : List (List UInt8)} :
    (∀ k ∈ keys, HoldsKey desc shardId k) ↔
      keys = [] ∨ ∃ s ∈ desc.shards, s.id = shardId ∧ ∀ k ∈ keys, belongTo s k = true := by
  constructor
  · intro h
    cases keys with
    | nil => exact .inl rfl
    | cons k ks =>
      obtain ⟨s, hs, hid, -⟩ := h k (List.mem_cons_self k ks)
      refine .inr ⟨s, hs, hid, fun k' hk' => ?_⟩
      obtain ⟨s', hs', hid', hk⟩ := h k' hk'
      rwa [List.inj_on_of_nodup_map hd hs hs' (hid.trans hid'.symm)]
  · rintro (rfl | ⟨s, hs, hid, hk⟩) k hk'
    · simp at hk'
    · exact ⟨s, hs, hid, hk k hk'⟩

end Distinct

/-! ## Executability -/

/-- `isExecutable` asks `HoldsKey` of every referenced key, one key at a time. -/
theorem isExecutable_iff_forall {desc : GroupDesc} (hd : (desc.shards.map (·.id)).Nodup)
    (r : Request) :
    isExecutable desc r = true ↔
      ∃ shardId keys, r.targetKeys = some (shardId, keys) ∧ ∀ k ∈ keys, HoldsKey desc shardId k := by
  rcases r with _ | _ | ⟨shardId, deletes, puts⟩ | ⟨_, _ | _ | _⟩ | _ | _ | _ <;>
    simp [isExecutable, Request.targetKeys, isAllTargetShardExists, isTargetShardExists_iff hd,
      or_imp, forall_and, and_assoc, exists_and_left, exists_eq_left']

/-- **Executability.**  Under distinct shard ids, a request is executable under a descriptor
exactly when it is a keyed request and either it references no key at all (a `Write` with
neither puts nor deletes) or the descriptor's shard with the request's shard id holds every
key it references. -/
theorem isExecutable_iff_keys {desc : GroupDesc} (hd : (desc.shards.map (·.id)).Nodup)
    (r : Request) :
    isExecutable desc r = true ↔
      ∃ shardId keys, r.targetKeys = some (shardId, keys) ∧
        (keys = [] ∨ ∃ s ∈ desc.shards, s.id = shardId ∧ ∀ k ∈ keys, belongTo s k = true) := by
  simp only [isExecutable_iff_forall hd, forall_holdsKey_iff hd]

/-- Group `1` at epoch `9` with two shards of collection `1`: shard `10` covers `["", "z")`,
shard `11` covers `["z", +∞)`. -/
def scenarioDesc : GroupDesc :=
  ⟨1, 9, [], [⟨10, 1, ⟨[], [122]⟩⟩, ⟨11, 1, ⟨[122], []⟩⟩]⟩

/-- `isExecutable_iff_keys` at a `Get` of `"m"` on shard `10`. -/
theorem isExecutable_iff_keys_get_m :
    (scenarioDesc.shards.map (·.id)).Nodup ∧
      (isExecutable scenarioDesc (.get 10 [109]) = true ↔
        ∃ shardId keys, (Request.get 10 [109]).targetKeys = some (shardId, keys) ∧
          (keys = [] ∨ ∃ s ∈ scenarioDesc.shards, s.id = shardId ∧
            ∀ k ∈ keys, belongTo s k = true)) :=
  ⟨by decide, isExecutable_iff_keys (by decide) _⟩

/-- Executability without the empty-batch case fails: a `Write` with neither puts nor deletes
is executable under a descriptor that has no shard at all. -/
theorem isExecutable_empty_write_without_shard :
    ¬ (isExecutable ⟨0, 0, [], []⟩ (.write 0 [] []) = true ↔
      ∃ shardId keys, (Request.write 0 [] []).targetKeys = some (shardId, keys) ∧
        ∃ s ∈ (⟨0, 0, [], []⟩ : GroupDesc).shards, s.id = shardId ∧
          ∀ k ∈ keys, belongTo s k = true) := by
  simp [isExecutable, isAllTargetShardExists]

end Sekas
