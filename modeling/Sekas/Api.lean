import Mathlib.Data.List.Basic
import Mathlib.Algebra.Group.Nat.Basic

/-!
# Sekas.Api

The messages of the `sekas.server.v1` API that the group client reads: replica, shard and
group descriptors, the group requests whose keys decide executability, the router's
snapshot of a group, and the client's error kinds.  The root store's batch writes use the same
`PutRequest`.

Identifiers (`u64` in the API) are `Nat`: the client only compares them for equality.  Epochs
and Raft terms stay `UInt64`, because the client orders them and the width bounds how often
they can grow.  Fields that no modelled function reads (a replica's `role`, a shard's
`table_id`) are left out.
-/

namespace Sekas

/-! ## Descriptors -/

/-- `ReplicaDesc`: a replica of a group and the node that hosts it. -/
structure ReplicaDesc where
  id : Nat
  nodeId : Nat
  deriving DecidableEq, Repr

/-- `RangePartition`: the half-open key range `[start, end)` of a shard. -/
structure RangePartition where
  start : List UInt8
  «end» : List UInt8
  deriving DecidableEq, Repr

/-- `ShardDesc`: a shard, the collection it belongs to (`parent_id`), and its key range. -/
structure ShardDesc where
  id : Nat
  parentId : Nat
  range : RangePartition
  deriving DecidableEq, Repr

/-- `GroupDesc`: a group's epoch, replicas and shards, as a server reports it in
`EpochNotMatch`. -/
structure GroupDesc where
  id : Nat
  epoch : UInt64
  replicas : List ReplicaDesc
  shards : List ShardDesc
  deriving DecidableEq, Repr

/-- `RouterGroupState`: the router's snapshot of a group.  `replicas` is a `HashMap` from
replica id to descriptor in the source; it is the list of its entries in iteration order,
with the keys distinct as a map's are. -/
structure RouterGroupState where
  id : Nat
  epoch : UInt64
  leaderState : Option (Nat × UInt64)
  replicas : List (Nat × ReplicaDesc)
  nodup : (replicas.map Prod.fst).Nodup

/-! ## Requests -/

/-- `DeleteRequest` of a batch write; only its key is read. -/
structure DeleteRequest where
  key : List UInt8
  deriving DecidableEq, Repr

/-- `PutRequest`: a key and its value.  The group client reads only the key; the root store
writes both. -/
structure PutRequest where
  key : List UInt8
  value : List UInt8
  deriving DecidableEq, Repr

/-- `write_intent_request::Write`: the single write an intent carries. -/
inductive WriteIntentWrite where
  | delete (delete : DeleteRequest)
  | put (put : PutRequest)
  deriving DecidableEq, Repr

/-- `group_request_union::Request`, with the variants that `is_executable` and
`is_read_only_request` tell apart; every other variant (`MoveReplicas`, `WatchKey`, the
schedule and migration requests) is `other`. -/
inductive Request where
  | get (shardId : Nat) (userKey : List UInt8)
  | scan
  | write (shardId : Nat) (deletes : List DeleteRequest) (puts : List PutRequest)
  | writeIntent (shardId : Nat) (write : Option WriteIntentWrite)
  | commitIntent (shardId : Nat) (userKey : List UInt8)
  | clearIntent (shardId : Nat) (userKey : List UInt8)
  | other
  deriving DecidableEq, Repr

/-! ## Errors -/

/-- The client's `Error`, after `Error::from(status)` has classified a server status.  The
transport statuses are kept as their messages. -/
inductive Error where
  | groupNotFound (groupId : Nat)
  | notLeader (groupId : Nat) (term : UInt64) (leader : Option ReplicaDesc)
  | connect (status : String)
  | transport (status : String)
  | epochNotMatch (desc : GroupDesc)
  | casFailed
  | invalidArgument (msg : String)
  | txnConflict
  | deadlineExceeded (msg : String)
  | groupNotAccessable (groupId : Nat)
  | internal (msg : String)
  | other (msg : String)
  deriving DecidableEq, Repr

/-- The server's `Error`, the variants the root schema and the replica's command evaluation
return. -/
inductive ServerError where
  | invalidData (msg : String)
  | databaseNotFound (name : String)
  | clusterNotMatch
  | invalidArgument (msg : String)
  deriving DecidableEq, Repr

/-- Epochs and terms compare as their values. -/
theorem uint64_lt_iff {a b : UInt64} : a < b ↔ a.toNat < b.toNat := Iff.rfl

/-- Epochs and terms compare as their values. -/
theorem uint64_le_iff {a b : UInt64} : a ≤ b ↔ a.toNat ≤ b.toNat := Iff.rfl

/-- No epoch is below `0`. -/
theorem uint64_zero_le (a : UInt64) : 0 ≤ a := uint64_le_iff.mpr (Nat.zero_le _)

/-- An epoch above a non-zero one is non-zero. -/
theorem uint64_ne_zero_of_le {a b : UInt64} (h : a ≤ b) (ha : a ≠ 0) : b ≠ 0 := by
  rintro rfl
  exact ha (UInt64.toNat.inj (Nat.le_zero.mp (uint64_le_iff.mp h)))

/-- Counting up in `u64` adds one. -/
theorem uint64_ofNat_succ (n : Nat) : UInt64.ofNat (n + 1) = UInt64.ofNat n + 1 :=
  congrArg UInt64.mk (BitVec.ofNat_add n 1)

/-- A `u64` is below `2 ^ 64`. -/
theorem uint64_toNat_lt (a : UInt64) : a.toNat < 2 ^ 64 := a.toNat_lt_size

/-- A Rust panic that ends a client call. -/
inductive Panic where
  /-- `next_access_index % replicas.len()` with no replicas. -/
  | remainderByZero
  /-- The `panic!` of `apply_epoch_not_match_status` on a remote epoch that is not newer. -/
  | epochNotAdvanced
  deriving DecidableEq, Repr

/-- How a client function ends: `Ok`, `Err`, or a panic. -/
inductive Outcome (α : Type) where
  | ok (a : α)
  | err (e : Error)
  | panic (p : Panic)
  deriving DecidableEq, Repr

end Sekas
