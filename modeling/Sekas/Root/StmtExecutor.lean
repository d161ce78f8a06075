import Sekas.Root.Schema

/-!
# Sekas.Root.StmtExecutor

`SHOW databases` and `SHOW groups` of `root/stmt_executor.rs`: a statement without a `FROM`
clause lists the databases or the groups, one row each.  The root's `list_database` and
`list_groups` are not among the sources: what they return is an argument.  The other
properties read fields the modelled descriptors do not have (a table's properties, a replica's
role, a shard's table id) and are left out.

A group's epoch packs two counters: the shard epoch in its high 32 bits and the config epoch
in its low 32 bits.  `SHOW groups` prints them apart.

* `groupToRow_epoch`: a group's row holds the two halves of its epoch, which recombine to it;
* `handleShowGroups_epochs`: `SHOW groups` prints one such row per listed group, in order.
-/

namespace Sekas

/-- `serde_json::Value`, as the rows use it. -/
inductive JsonValue where
  | number (n : Nat)
  | string (s : String)
  deriving DecidableEq, Repr

/-- `Row`. -/
structure Row where
  values : List JsonValue
  deriving DecidableEq, Repr

/-- `ColumnResult`. -/
structure ColumnResult where
  columns : List String
  rows : List Row
  deriving DecidableEq, Repr

/-- `ExecuteResult`. -/
inductive ExecuteResult where
  | none
  | msg (msg : String)
  | data (result : ColumnResult)
  deriving DecidableEq, Repr

/-- `ShowStatement`. -/
structure ShowStatement where
  property : String
  «from» : Option String
  deriving DecidableEq, Repr

namespace Root

/-- `Root::handle_show_databases`, on what `list_database` returns. -/
def handleShowDatabases (showStmt : ShowStatement) (databases : Except ServerError (List DatabaseDesc)) :
    Except ServerError ExecuteResult :=
  if showStmt.«from».isSome then .ok (.msg "FROM clause is not required by 'databases' property")
  else do
    let databases ← databases
    let columns := ["id", "name"]
    pure (.data ⟨columns, databases.map fun db => ⟨[.number db.id.toNat, .string db.name]⟩⟩)

/-- The `group_to_row` closure of `handle_show_groups`. -/
def groupToRow (group : GroupDesc) : Row :=
  let (shardEpoch, configEpoch) := (group.epoch >>> 32, group.epoch &&& ((1 : UInt64) <<< 32 - 1))
  ⟨[.number group.id, .number shardEpoch.toNat, .number configEpoch.toNat,
    .number group.replicas.length, .number group.shards.length]⟩

/-- `Root::handle_show_groups`, on what `list_groups` returns. -/
def handleShowGroups (showStmt : ShowStatement) (groups : Except ServerError (List GroupDesc)) :
    Except ServerError ExecuteResult :=
  if showStmt.«from».isSome then .ok (.msg "FROM clause is not required by 'groups' property")
  else do
    let groups ← groups
    let columns := ["id", "shard_epoch", "config_epoch", "num_replicas", "num_shards"]
    pure (.data ⟨columns, groups.map groupToRow⟩)

/-! ## The epoch's halves -/

/-- `>> 32` keeps the high 32 bits. -/
theorem toNat_shiftRight_32 (x : UInt64) : (x >>> 32).toNat = x.toNat / 2 ^ 32 := by
  show (x.toBitVec >>> (UInt64.mod 32 64).toBitVec).toNat = _
  rw [BitVec.ushiftRight_eq', BitVec.toNat_ushiftRight, Nat.shiftRight_eq_div_pow]
  rfl

/-- `& ((1 << 32) - 1)` keeps the low 32 bits. -/
theorem toNat_and_low_32 (x : UInt64) : (x &&& ((1 : UInt64) <<< 32 - 1)).toNat = x.toNat % 2 ^ 32 := by
  rw [UInt64.and_toNat, show ((1 : UInt64) <<< 32 - 1).toNat = 2 ^ 32 - 1 from rfl,
    Nat.and_pow_two_sub_one_eq_mod]

/-- A group's row: its id, the two halves of its epoch, and its numbers of replicas and shards.
The config epoch is below `2 ^ 32`, and the shard epoch above it recombines them to the
epoch. -/
theorem groupToRow_epoch (group : GroupDesc) :
    ∃ shardEpoch configEpoch, groupToRow group = ⟨[.number group.id, .number shardEpoch,
        .number configEpoch, .number group.replicas.length, .number group.shards.length]⟩ ∧
      configEpoch < 2 ^ 32 ∧ shardEpoch * 2 ^ 32 + configEpoch = group.epoch.toNat :=
  ⟨_, _, rfl, by rw [toNat_and_low_32]; exact Nat.mod_lt _ (by decide), by
    rw [toNat_shiftRight_32, toNat_and_low_32]; exact Nat.div_add_mod' _ _⟩

/-- **`SHOW groups` prints every epoch whole.**  Without a `FROM` clause, `handle_show_groups`
returns one row per listed group, in order, each holding the group's id, its shard epoch and
config epoch, and its numbers of replicas and shards; the config epoch is below `2 ^ 32` and
`shard_epoch * 2 ^ 32 + config_epoch` is the group's epoch. -/
theorem handleShowGroups_epochs (property : String) (groups : List GroupDesc) :
    ∃ rows, handleShowGroups ⟨property, none⟩ (.ok groups) =
        .ok (.data ⟨["id", "shard_epoch", "config_epoch", "num_replicas", "num_shards"], rows⟩) ∧
      List.Forall₂ (fun (group : GroupDesc) row => ∃ shardEpoch configEpoch,
        row = ⟨[.number group.id, .number shardEpoch, .number configEpoch,
          .number group.replicas.length, .number group.shards.length]⟩ ∧
        configEpoch < 2 ^ 32 ∧ shardEpoch * 2 ^ 32 + configEpoch = group.epoch.toNat) groups rows :=
  ⟨groups.map groupToRow, rfl, List.forall₂_map_right_iff.mpr
    (List.forall₂_same.mpr fun group _ => groupToRow_epoch group)⟩

end Root

end Sekas
