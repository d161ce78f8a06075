import Sekas.Root.NextId
import Sekas.Root.Codecs

/-!
# Sekas.Root.Collection

`Schema::create_collection` and `Schema::create_collection_shard` of `root/schema.rs`.  A new
collection takes the next collection id, then one shard over the whole key range under the next
shard id; the store's `create_shard` places that shard on a group and returns the group's id,
and one batch writes the collection's descriptor and the group's descriptor with the shard
appended.  The group's descriptor is read with `get_group(..).unwrap()`.

`RootStore::create_shard` is not among the sources: it is an argument, and leaves the keys of
the store alone.  The store is written in place, so a call returns the store it leaves whatever
its outcome: the two `next_id` writes stay when a later step fails.

* `createCollection_eq`: the call, from counters at `k` and `j`, when the shard's group is known;
* `createCollection_getCollection`: what it writes, `get_collection` and `get_group` read back;
* `createCollection_consumes_ids`: a failing `create_shard`, or a group the schema does not
  know, still spends both ids.
-/

namespace Sekas

namespace Schema

/-- How a root method that can panic ends: `Ok`, `Err`, or the panic of an `unwrap` on
`None`. -/
inductive RootOutcome (α : Type) where
  | ok (a : α)
  | err (e : ServerError)
  | panic
  deriving DecidableEq, Repr

section

variable (cs : Codecs) (b : BootstrapIds) (createShard : ShardDesc → Except ServerError UInt64)

/-- The shard `create_collection_shard` makes for `collection` under the shard id `shardId`: the
whole range `[MIN_KEY, MAX_KEY)`, with the collection's id as `parent_id`. -/
def collectionShard (collection : CollectionDesc) (shardId : UInt64) : ShardDesc :=
  ⟨shardId.toNat, collection.id.toNat, ⟨b.minKey, b.maxKey⟩⟩

/-- `Schema::create_collection_shard`: the map from group id to new shards, which has one entry
(the map is fresh, so the `Entry::Vacant` arm inserts the shard), and the store it leaves. -/
def createCollectionShard (store : RootStore) (collection : CollectionDesc) :
    Except ServerError (List (UInt64 × List ShardDesc)) × RootStore :=
  match nextId b store metaShardIdKey with
  | .error e => (.error e, store)
  | .ok (shardId, store) =>
    match createShard (collectionShard b collection shardId) with
    | .error e => (.error e, store)
    | .ok groupId => (.ok [(groupId, [collectionShard b collection shardId])], store)

/-- The loop of `create_collection` over the new shards: each group's descriptor, read with
`get_group(..).unwrap()`, gets its shards appended and is put into the batch. -/
def putGroupShards (store : RootStore) (builder : PutBatchBuilder) :
    List (UInt64 × List ShardDesc) → RootOutcome PutBatchBuilder
  | [] => .ok builder
  | (groupId, shards) :: rest =>
    match getGroup cs b store groupId with
    | .error e => .err e
    | .ok none => .panic
    | .ok (some group) =>
      putGroupShards store (builder.putGroup cs b { group with shards := group.shards ++ shards }) rest

/-- `Schema::create_collection`: the new descriptor, under the next collection id, and the
store it leaves. -/
def createCollection (store : RootStore) (desc : CollectionDesc) :
    RootOutcome CollectionDesc × RootStore :=
  match nextId b store metaCollectionIdKey with
  | .error e => (.err e, store)
  | .ok (id, store) =>
    let desc := { desc with id }
    match createCollectionShard b createShard store desc with
    | (.error e, store) => (.err e, store)
    | (.ok shards, store) =>
      match putGroupShards cs b store (PutBatchBuilder.empty.putCollection cs b desc) shards with
      | .err e => (.err e, store)
      | .panic => (.panic, store)
      | .ok builder => (.ok desc, batchWrite store builder.build)

end

/-! ## Reading back the writes -/

section

variable {cs : Codecs} {b : BootstrapIds} {store : RootStore}

/-- The store `next_id` leaves: the counter one higher. -/
def bumped (b : BootstrapIds) (store : RootStore) (idType : String) (k : UInt64) : RootStore :=
  batchWrite store (PutBatchBuilder.empty.putMeta b (asBytes idType) (u64ToLeBytes (k + 1))).build

/-- `next_id` from a counter at `k` returns `k` and bumps the counter. -/
theorem nextId_of_counterIs {idType : String} {k : UInt64} (h : NextIds.CounterIs b idType store k) :
    nextId b store idType = .ok (k, bumped b store idType k) := by
  simp only [NextIds.CounterIs] at h
  simp [nextId, h, u64FromLeBytes_u64ToLeBytes, bumped]

/-- A bumped counter is the only key `next_id` writes. -/
theorem get_bumped {idType : String} {k : UInt64} {c : UInt64} {key : Bytes} :
    get (bumped b store idType k) c key =
      if systemMateCollectionId b = c ∧ asBytes idType = key then some (u64ToLeBytes (k + 1))
      else get store c key :=
  get_batchWrite_put

/-- Another counter is where it was after a bump. -/
theorem counterIs_bumped {idType idType' : String} {k k' : UInt64}
    (hne : asBytes idType ≠ asBytes idType') (h : NextIds.CounterIs b idType' store k') :
    NextIds.CounterIs b idType' (bumped b store idType k) k' := by
  simp only [NextIds.CounterIs, getMeta, get_bumped, hne, and_false, if_false]
  exact h

/-- The bumped counter holds the next value. -/
theorem counterIs_bumped_self {idType : String} {k : UInt64} :
    NextIds.CounterIs b idType (bumped b store idType k) (k + 1) := by
  simp [NextIds.CounterIs, getMeta, get_bumped]

/-- A bump does not touch the other system collections. -/
theorem get_bumped_of_ne {idType : String} {k c : UInt64} {key : Bytes}
    (hc : c ≠ systemMateCollectionId b) : get (bumped b store idType k) c key = get store c key := by
  simp [get_bumped, Ne.symm hc]

/-- A bump does not touch the group collection. -/
theorem getGroup_bumped {idType : String} {k id : UInt64} :
    getGroup cs b (bumped b store idType k) id = getGroup cs b store id := by
  have hne : systemGroupCollectionId b ≠ systemMateCollectionId b := systemCollectionId_ne b (by decide)
  simp only [getGroup, getDecoded, get_bumped_of_ne hne]

/-- A bump does not touch the database collection. -/
theorem getDatabase_bumped {idType : String} {k : UInt64} {name : String} :
    getDatabase cs b (bumped b store idType k) name = getDatabase cs b store name := by
  have hne : systemDatabaseCollectionId b ≠ systemMateCollectionId b := systemCollectionId_ne b (by decide)
  simp only [getDatabase, getDecoded, get_bumped_of_ne hne]

variable {createShard : ShardDesc → Except ServerError UInt64} {k j g : UInt64} {group : GroupDesc}

/-- **`create_collection` when every step succeeds.**  From a collection counter at `k` and a
shard counter at `j`, with the shard placed on a group the schema knows, the new collection
gets id `k`, and one batch writes it and the group with the shard `j` appended, on top of the
two bumped counters. -/
theorem createCollection_eq (desc : CollectionDesc)
    (hk : NextIds.CounterIs b metaCollectionIdKey store k)
    (hj : NextIds.CounterIs b metaShardIdKey store j)
    (hg : createShard (collectionShard b { desc with id := k } j) = .ok g)
    (hgroup : getGroup cs b store g = .ok (some group)) :
    createCollection cs b createShard store desc =
      (.ok { desc with id := k },
        batchWrite (bumped b (bumped b store metaCollectionIdKey k) metaShardIdKey j)
          ((PutBatchBuilder.empty.putCollection cs b { desc with id := k }).putGroup cs b
            { group with shards := group.shards ++ [collectionShard b { desc with id := k } j] }).build) := by
  have hne : asBytes metaCollectionIdKey ≠ asBytes metaShardIdKey := by decide
  have hj' := nextId_of_counterIs (counterIs_bumped (k := k) hne hj)
  simp only [createCollection, nextId_of_counterIs hk, createCollectionShard, hj', hg, putGroupShards,
    getGroup_bumped, hgroup]

/-- What the batch of `create_collection` writes: the group under its id and the collection under
its parent's id and its name. -/
theorem get_batchWrite_putGroup_putCollection {d : CollectionDesc} {grp : GroupDesc} {c : UInt64}
    {key : Bytes} :
    get (batchWrite store ((PutBatchBuilder.empty.putCollection cs b d).putGroup cs b grp).build) c key =
      if systemGroupCollectionId b = c ∧ u64ToLeBytes (UInt64.ofNat grp.id) = key then
        some (cs.group.encode grp)
      else if systemCollectionCollectionId b = c ∧ collectionKey d.parentId d.name = key then
        some (cs.collection.encode d)
      else get store c key := by
  rw [PutBatchBuilder.putGroup, batchWrite, get_batchWrite_put, PutBatchBuilder.putCollection,
    get_batchWrite_put]
  rfl

/-- The batch of `create_collection` leaves the database collection alone. -/
theorem getDatabase_batchWrite_putGroup_putCollection {d : CollectionDesc} {grp : GroupDesc}
    {name : String} :
    getDatabase cs b (batchWrite store ((PutBatchBuilder.empty.putCollection cs b d).putGroup cs b grp).build)
      name = getDatabase cs b store name := by
  have h5 : systemGroupCollectionId b ≠ systemDatabaseCollectionId b := systemCollectionId_ne b (by decide)
  have h1 : systemCollectionCollectionId b ≠ systemDatabaseCollectionId b :=
    systemCollectionId_ne b (by decide)
  simp only [getDatabase, getDecoded, get_batchWrite_putGroup_putCollection, h5, h1, false_and,
    if_false]

/-- The batch of `create_collection` leaves the counters alone. -/
theorem counterIs_batchWrite_putGroup_putCollection {d : CollectionDesc} {grp : GroupDesc}
    {idType : String} {k : UInt64} (h : NextIds.CounterIs b idType store k) :
    NextIds.CounterIs b idType
      (batchWrite store ((PutBatchBuilder.empty.putCollection cs b d).putGroup cs b grp).build) k := by
  have h5 : systemGroupCollectionId b ≠ systemMateCollectionId b := systemCollectionId_ne b (by decide)
  have h1 : systemCollectionCollectionId b ≠ systemMateCollectionId b :=
    systemCollectionId_ne b (by decide)
  simpa only [NextIds.CounterIs, getMeta, get_batchWrite_putGroup_putCollection, h5, h1, false_and,
    if_false] using h

/-- **`create_collection` reads back.**  From a collection counter at `k` and a shard counter at
`j`, when `create_shard` places the shard `j` on group `g`, whose descriptor the schema holds
under its own id, `create_collection` returns the descriptor with id `k`, and afterwards:
`get_collection` finds it in the database it names as parent, `get_group` finds the group with
the shard appended (shard `j` of collection `k`, over the whole key range), and both counters
have moved on by one. -/
theorem createCollection_getCollection (desc : CollectionDesc) (db : DatabaseDesc) (name : String)
    (hk : NextIds.CounterIs b metaCollectionIdKey store k)
    (hj : NextIds.CounterIs b metaShardIdKey store j)
    (hg : createShard ⟨j.toNat, k.toNat, ⟨b.minKey, b.maxKey⟩⟩ = .ok g)
    (hgroup : getGroup cs b store g = .ok (some group)) (hid : UInt64.ofNat group.id = g) (hdb : getDatabase cs b store name = .ok (some db))
    (hparent : db.id = desc.parentId) :
    ∃ store', createCollection cs b createShard store desc = (.ok { desc with id := k }, store') ∧
      getCollection cs b store' name desc.name = .ok (some { desc with id := k }) ∧
      getGroup cs b store' g =
        .ok (some { group with shards := group.shards ++ [⟨j.toNat, k.toNat, ⟨b.minKey, b.maxKey⟩⟩] }) ∧
      NextIds.CounterIs b metaCollectionIdKey store' (k + 1) ∧
      NextIds.CounterIs b metaShardIdKey store' (j + 1) := by
  have hne : asBytes metaCollectionIdKey ≠ asBytes metaShardIdKey := by decide
  have hgc : systemGroupCollectionId b ≠ systemCollectionCollectionId b :=
    systemCollectionId_ne b (by decide)
  refine ⟨_, createCollection_eq desc hk hj hg hgroup, ?_, ?_,
    counterIs_batchWrite_putGroup_putCollection (counterIs_bumped hne.symm counterIs_bumped_self),
    counterIs_batchWrite_putGroup_putCollection counterIs_bumped_self⟩
  · rw [getCollection, getDatabase_batchWrite_putGroup_putCollection, getDatabase_bumped,
      getDatabase_bumped, hdb]
    refine getDecoded_of_get ?_
    rw [get_batchWrite_putGroup_putCollection, if_neg fun h => hgc h.1, if_pos ⟨rfl, by rw [hparent]⟩]
  · refine getDecoded_of_get ?_
    rw [get_batchWrite_putGroup_putCollection, if_pos ⟨rfl, by rw [← hid]⟩]
    rfl

/-- Group `1`, with no replica and no shard yet. -/
def shopGroup : GroupDesc := ⟨1, 1, [], []⟩

/-- A store whose collection counter is at `10` and shard counter at `20`, holding group `1` and
the shop database. -/
def shopStore : RootStore :=
  batchWrite ∅ ((((PutBatchBuilder.empty.putMeta exampleIds (asBytes metaCollectionIdKey)
    (u64ToLeBytes 10)).putMeta exampleIds (asBytes metaShardIdKey) (u64ToLeBytes 20)).putGroup
      exampleCodecs exampleIds shopGroup).putDatabase exampleCodecs exampleIds shopDatabase).build

/-- `create_collection` of the orders collection in the shop database, with its shard placed on
group `1`: it gets id `10`, and reads back. -/
theorem createCollection_getCollection_shop :
    NextIds.CounterIs exampleIds metaCollectionIdKey shopStore 10 ∧
      NextIds.CounterIs exampleIds metaShardIdKey shopStore 20 ∧
      (fun _ => .ok 1 : ShardDesc → Except ServerError UInt64)
        ⟨(20 : UInt64).toNat, (10 : UInt64).toNat, ⟨exampleIds.minKey, exampleIds.maxKey⟩⟩ = .ok 1 ∧
      getGroup exampleCodecs exampleIds shopStore 1 = .ok (some shopGroup) ∧
      UInt64.ofNat shopGroup.id = 1 ∧
      getDatabase exampleCodecs exampleIds shopStore "shop" = .ok (some shopDatabase) ∧
      shopDatabase.id = ordersCollection.parentId ∧
      ∃ store', createCollection exampleCodecs exampleIds (fun _ => .ok 1) shopStore ordersCollection =
          (.ok { ordersCollection with id := 10 }, store') ∧
        getCollection exampleCodecs exampleIds store' "shop" ordersCollection.name =
          .ok (some { ordersCollection with id := 10 }) ∧
        getGroup exampleCodecs exampleIds store' 1 =
          .ok (some { shopGroup with shards := shopGroup.shards ++
            [⟨(20 : UInt64).toNat, (10 : UInt64).toNat, ⟨exampleIds.minKey, exampleIds.maxKey⟩⟩] }) ∧
        NextIds.CounterIs exampleIds metaCollectionIdKey store' (10 + 1) ∧
        NextIds.CounterIs exampleIds metaShardIdKey store' (20 + 1) :=
  have hk : NextIds.CounterIs exampleIds metaCollectionIdKey shopStore 10 := rfl
  have hj : NextIds.CounterIs exampleIds metaShardIdKey shopStore 20 := rfl
  have hgroup : getGroup exampleCodecs exampleIds shopStore 1 = .ok (some shopGroup) := rfl
  have hdb : getDatabase exampleCodecs exampleIds shopStore "shop" = .ok (some shopDatabase) :=
    getDatabase_putDatabase _ shopDatabase
  ⟨hk, hj, rfl, hgroup, rfl, hdb, rfl,
    createCollection_getCollection ordersCollection shopDatabase "shop" hk hj rfl hgroup rfl hdb rfl⟩

/-- **A collection id and a shard id are spent by every call that reads them.**  From counters
at `k` and `j`, whether `create_shard` fails, the group it names is unknown to the schema (the
`unwrap` panics), its descriptor does not decode, or the call succeeds, both counters are left
one higher: the store is not rolled back, so ids are never handed out twice, and a failed call
leaves a gap. -/
theorem createCollection_consumes_ids (desc : CollectionDesc)
    (hk : NextIds.CounterIs b metaCollectionIdKey store k)
    (hj : NextIds.CounterIs b metaShardIdKey store j) :
    NextIds.CounterIs b metaCollectionIdKey (createCollection cs b createShard store desc).2 (k + 1) ∧
      NextIds.CounterIs b metaShardIdKey (createCollection cs b createShard store desc).2 (j + 1) := by
  have hne : asBytes metaCollectionIdKey ≠ asBytes metaShardIdKey := by decide
  have hbumped : NextIds.CounterIs b metaCollectionIdKey
      (bumped b (bumped b store metaCollectionIdKey k) metaShardIdKey j) (k + 1) ∧
      NextIds.CounterIs b metaShardIdKey
        (bumped b (bumped b store metaCollectionIdKey k) metaShardIdKey j) (j + 1) :=
    ⟨counterIs_bumped hne.symm counterIs_bumped_self, counterIs_bumped_self⟩
  simp only [createCollection, nextId_of_counterIs hk, createCollectionShard,
    nextId_of_counterIs (counterIs_bumped (k := k) hne hj)]
  rcases createShard (collectionShard b { desc with id := k } j) with e | g
  · exact hbumped
  · simp only [putGroupShards, getGroup_bumped]
    rcases getGroup cs b store g with e | _ | grp
    · exact hbumped
    · exact hbumped
    · exact ⟨counterIs_batchWrite_putGroup_putCollection hbumped.1,
        counterIs_batchWrite_putGroup_putCollection hbumped.2⟩

/-- A `create_shard` that fails still spends collection id `10` and shard id `20`. -/
theorem createCollection_consumes_ids_shop :
    NextIds.CounterIs exampleIds metaCollectionIdKey shopStore 10 ∧
      NextIds.CounterIs exampleIds metaShardIdKey shopStore 20 ∧
      NextIds.CounterIs exampleIds metaCollectionIdKey (createCollection exampleCodecs exampleIds
        (fun _ => .error (.invalidArgument "no group")) shopStore ordersCollection).2 (10 + 1) ∧
      NextIds.CounterIs exampleIds metaShardIdKey (createCollection exampleCodecs exampleIds
        (fun _ => .error (.invalidArgument "no group")) shopStore ordersCollection).2 (20 + 1) :=
  ⟨rfl, rfl, createCollection_consumes_ids ordersCollection rfl rfl⟩

end

end Schema

end Sekas
