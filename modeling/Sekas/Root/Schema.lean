import Sekas.Root.Store
import Mathlib.Data.UInt

/-!
# Sekas.Root.Schema

`Schema` of `root/schema.rs`: the root's catalogue of databases, collections, nodes and groups,
kept in the root store, each kind under a system collection of its own.  A descriptor lives at
`data_key(collection_id, key)`: the collection's id as eight little-endian bytes, then a key of
the descriptor's own (a database's name, a collection's parent id and name, a node's or a
group's id).  `list` reads a whole system collection by that eight-byte prefix.

The descriptors are protobuf messages.  Their encoding (prost's) is not among the sources: it
is a `Codec` argument, which only has to decode what it encoded.  The constants of
`bootstrap.rs` are not among the sources either: they are the fields of a `BootstrapIds`
argument, from which the system collections' ids follow as in `schema.rs`.

Three methods do not follow the layout.  `delete_database` and `delete_collection` delete the
key made of the descriptor's id, while `put_database` and `put_collection` wrote it under its
name, so the descriptor stays; `list_collection` reads the database collection.
-/

namespace Sekas

/-! ## Descriptors -/

/-- A protobuf encoding of a message type: decoding what it encoded gives the message back. -/
structure Codec (α : Type) where
  encode : α → Bytes
  decode : Bytes → Option α
  decode_encode : ∀ a, decode (encode a) = some a

/-- `DatabaseDesc`. -/
structure DatabaseDesc where
  id : UInt64
  name : String
  deriving DecidableEq, Repr

/-- `CollectionDesc`. -/
structure CollectionDesc where
  id : UInt64
  name : String
  parentId : UInt64
  deriving DecidableEq, Repr

/-- `NodeDesc`. -/
structure NodeDesc where
  id : UInt64
  addr : String
  deriving DecidableEq, Repr

/-- `RaftRole`, as far as the schema tells the roles apart. -/
inductive RaftRole where
  | leader
  | other
  deriving DecidableEq, Repr

/-- `ReplicaState`. -/
structure ReplicaState where
  replicaId : UInt64
  groupId : UInt64
  term : UInt64
  votedFor : UInt64
  role : RaftRole
  deriving DecidableEq, Repr

/-- The encodings of the descriptors the schema stores. -/
structure Codecs where
  database : Codec DatabaseDesc
  collection : Codec CollectionDesc
  node : Codec NodeDesc
  group : Codec GroupDesc
  replicaState : Codec ReplicaState

/-- The constants of `bootstrap.rs` that the schema uses. -/
structure BootstrapIds where
  rootSuperCollectionId : UInt64
  rootGroupId : UInt64
  rootShardId : UInt64
  firstNodeId : UInt64
  firstReplicaId : UInt64
  initialEpoch : UInt64
  minKey : Bytes
  maxKey : Bytes

/-! ## Constants and keys -/

/-- `str::as_bytes`: the string's UTF-8 bytes. -/
def asBytes (s : String) : Bytes := s.toUTF8.data.toList

/-! The constants of `schema.rs`.  Each system collection's id is one past the previous one's,
starting at `ROOT_SUPER_COLLECTION_ID + 1`, which is spelt out here as an offset; `MATE` is the
source's spelling of the meta collection. -/

section Constants

variable (b : BootstrapIds)

def systemDatabaseName : String := "__system__"
def systemDatabaseId : UInt64 := 1
def systemCollectionCollection : String := "collection"
def systemCollectionCollectionId : UInt64 := b.rootSuperCollectionId + 1
def systemDatabaseCollection : String := "database"
def systemDatabaseCollectionId : UInt64 := b.rootSuperCollectionId + 2
def systemMateCollection : String := "meta"
def systemMateCollectionId : UInt64 := b.rootSuperCollectionId + 3
def systemNodeCollection : String := "node"
def systemNodeCollectionId : UInt64 := b.rootSuperCollectionId + 4
def systemGroupCollection : String := "group"
def systemGroupCollectionId : UInt64 := b.rootSuperCollectionId + 5
def systemReplicaStateCollection : String := "replica_state"
def systemReplicaStateCollectionId : UInt64 := b.rootSuperCollectionId + 6

def metaClusterIdKey : String := "cluster_id"
def metaCollectionIdKey : String := "collection_id"
def metaDatabaseIdKey : String := "database_id"
def metaGroupIdKey : String := "group_id"
def metaNodeIdKey : String := "node_id"
def metaReplicaIdKey : String := "replica_id"
def metaShardIdKey : String := "shard_id"

end Constants

/-- `collection_key`: the database's id, then the collection's name. -/
def collectionKey (databaseId : UInt64) (collectionName : String) : Bytes :=
  u64ToLeBytes databaseId ++ asBytes collectionName

/-- `data_key`: the system collection's id, then the key. -/
def dataKey (collectionId : UInt64) (key : Bytes) : Bytes :=
  u64ToLeBytes collectionId ++ key

/-- `replica_key`: the group's id, then the replica's. -/
def replicaKey (groupId replicaId : UInt64) : Bytes :=
  u64ToLeBytes groupId ++ u64ToLeBytes replicaId

/-- Data keys are equal exactly when their collections and keys are. -/
theorem dataKey_inj {c c' : UInt64} {key key' : Bytes} :
    dataKey c key = dataKey c' key' ↔ c = c' ∧ key = key' := by
  constructor
  · intro h
    obtain ⟨hc, hk⟩ := List.append_inj h (by simp)
    exact ⟨u64ToLeBytes_injective hc, hk⟩
  · rintro ⟨rfl, rfl⟩
    rfl

/-- The system collections' ids are distinct. -/
theorem systemCollectionId_ne (b : BootstrapIds) {i j : UInt64} (h : i ≠ j) :
    b.rootSuperCollectionId + i ≠ b.rootSuperCollectionId + j :=
  fun hij => h (add_left_cancel hij)

/-! ## Batches -/

/-- `PutBatchBuilder`: the puts of a batch, in order. -/
structure PutBatchBuilder where
  batch : List (Bytes × Bytes)

namespace PutBatchBuilder

section

variable (cs : Codecs) (b : BootstrapIds) (builder : PutBatchBuilder)

/-- `PutBatchBuilder::default`. -/
def empty : PutBatchBuilder := ⟨[]⟩

/-- `PutBatchBuilder::put`: a put of `val` at the data key. -/
def put (collectionId : UInt64) (key val : Bytes) : PutBatchBuilder :=
  ⟨builder.batch ++ [(dataKey collectionId key, val)]⟩

/-- `PutBatchBuilder::build`: the batch's puts. -/
def build : List PutRequest := builder.batch.map fun (key, value) => ⟨key, value⟩

/-- `PutBatchBuilder::is_empty`. -/
def isEmpty : Bool := builder.batch.isEmpty

/-- `PutBatchBuilder::put_meta`. -/
def putMeta (key val : Bytes) : PutBatchBuilder := builder.put (systemMateCollectionId b) key val

/-- `PutBatchBuilder::put_group`: under the group's id. -/
def putGroup (desc : GroupDesc) : PutBatchBuilder :=
  builder.put (systemGroupCollectionId b) (u64ToLeBytes (UInt64.ofNat desc.id)) (cs.group.encode desc)

/-- `PutBatchBuilder::put_replica_state`: under the group's and the replica's ids. -/
def putReplicaState (state : ReplicaState) : PutBatchBuilder :=
  builder.put (systemReplicaStateCollectionId b) (replicaKey state.groupId state.replicaId)
    (cs.replicaState.encode state)

/-- `PutBatchBuilder::put_node`: under the node's id. -/
def putNode (desc : NodeDesc) : PutBatchBuilder :=
  builder.put (systemNodeCollectionId b) (u64ToLeBytes desc.id) (cs.node.encode desc)

/-- `PutBatchBuilder::put_database`: under the database's name. -/
def putDatabase (desc : DatabaseDesc) : PutBatchBuilder :=
  builder.put (systemDatabaseCollectionId b) (asBytes desc.name) (cs.database.encode desc)

/-- `PutBatchBuilder::put_collection`: under the parent's id and the collection's name. -/
def putCollection (desc : CollectionDesc) : PutBatchBuilder :=
  builder.put (systemCollectionCollectionId b) (collectionKey desc.parentId desc.name)
    (cs.collection.encode desc)

end

/-- A built batch is the builder's puts, in order. -/
@[simp] theorem build_put (builder : PutBatchBuilder) (c : UInt64) (key val : Bytes) :
    (builder.put c key val).build = builder.build ++ [⟨dataKey c key, val⟩] := by
  simp [put, build]

@[simp] theorem build_empty : empty.build = [] := rfl

end PutBatchBuilder

/-! ## The schema's methods -/

namespace Schema

section

variable (cs : Codecs) (b : BootstrapIds) (store : RootStore)

/-- `Schema::get`. -/
def get (collectionId : UInt64) (key : Bytes) : Option Bytes := store.get (dataKey collectionId key)

/-- `Schema::delete`. -/
def delete (collectionId : UInt64) (key : Bytes) : RootStore := store.delete (dataKey collectionId key)

/-- `Schema::list`. -/
def list (collectionId : UInt64) : List Bytes := store.list (u64ToLeBytes collectionId)

/-- `Schema::batch_write`. -/
def batchWrite (batch : List PutRequest) : RootStore := store.batchWrite batch

/-- `Schema::get_meta`. -/
def getMeta (key : Bytes) : Option Bytes := get store (systemMateCollectionId b) key

/-- The `get_*` methods: `get`, then decode, naming what failed to decode. -/
def getDecoded {α : Type} (codec : Codec α) (collectionId : UInt64) (key : Bytes) (what : String) :
    Except ServerError (Option α) :=
  match get store collectionId key with
  | none => .ok none
  | some val =>
    match codec.decode val with
    | some desc => .ok (some desc)
    | none => .error (.invalidData what)

/-- The loop of the `list_*` methods: decode every value, or fail at the first that does not
decode. -/
def decodeAll {α : Type} (codec : Codec α) (what : String) : List Bytes → Except ServerError (List α)
  | [] => .ok []
  | val :: vals =>
    match codec.decode val with
    | some desc => (decodeAll codec what vals).map (desc :: ·)
    | none => .error (.invalidData what)

/-- The `list_*` methods: `list`, then decode every value. -/
def listDecoded {α : Type} (codec : Codec α) (collectionId : UInt64) (what : String) :
    Except ServerError (List α) :=
  decodeAll codec what (list store collectionId)

/-- `Schema::cluster_id`. -/
def clusterId : Option Bytes := getMeta b store (asBytes metaClusterIdKey)

/-- `Schema::get_database`. -/
def getDatabase (name : String) : Except ServerError (Option DatabaseDesc) :=
  getDecoded store cs.database (systemDatabaseCollectionId b) (asBytes name) ("database desc: " ++ name)

/-- `Schema::delete_database`: it deletes the key made of the database's id. -/
def deleteDatabase (name : String) : Except ServerError RootStore :=
  match getDatabase cs b store name with
  | .error e => .error e
  | .ok none => .error (.databaseNotFound name)
  | .ok (some db) => .ok (delete store (systemDatabaseCollectionId b) (u64ToLeBytes db.id))

/-- `Schema::list_database`. -/
def listDatabase : Except ServerError (List DatabaseDesc) :=
  listDecoded store cs.database (systemDatabaseCollectionId b) "database desc"

/-- `Schema::get_collection`. -/
def getCollection (database collection : String) : Except ServerError (Option CollectionDesc) :=
  match getDatabase cs b store database with
  | .error e => .error e
  | .ok none => .ok none
  | .ok (some db) =>
    getDecoded store cs.collection (systemCollectionCollectionId b) (collectionKey db.id collection)
      ("collection desc: " ++ toString db.id ++ ", " ++ collection)

/-- `Schema::delete_collection`: it deletes the key made of the collection's id. -/
def deleteCollection (collection : CollectionDesc) : RootStore :=
  delete store (systemCollectionCollectionId b) (u64ToLeBytes collection.id)

/-- `Schema::list_collection`: it lists the database collection. -/
def listCollection : Except ServerError (List CollectionDesc) :=
  listDecoded store cs.collection (systemDatabaseCollectionId b) "collection desc"

/-- `Schema::get_node`. -/
def getNode (id : UInt64) : Except ServerError (Option NodeDesc) :=
  getDecoded store cs.node (systemNodeCollectionId b) (u64ToLeBytes id) ("node desc: " ++ toString id)

/-- `Schema::delete_node`. -/
def deleteNode (id : UInt64) : RootStore := delete store (systemNodeCollectionId b) (u64ToLeBytes id)

/-- `Schema::list_node`. -/
def listNode : Except ServerError (List NodeDesc) :=
  listDecoded store cs.node (systemNodeCollectionId b) "node desc"

/-- `Schema::get_group`. -/
def getGroup (id : UInt64) : Except ServerError (Option GroupDesc) :=
  getDecoded store cs.group (systemGroupCollectionId b) (u64ToLeBytes id) ("group desc: " ++ toString id)

/-- `Schema::delete_group`. -/
def deleteGroup (id : UInt64) : RootStore := delete store (systemGroupCollectionId b) (u64ToLeBytes id)

/-- `Schema::list_group`. -/
def listGroup : Except ServerError (List GroupDesc) :=
  listDecoded store cs.group (systemGroupCollectionId b) "group desc"

/-- `Schema::update_group_replica`. -/
def updateGroupReplica (group : Option GroupDesc) (replica : Option ReplicaState) : RootStore :=
  let builder := PutBatchBuilder.empty
  let builder := match group with
    | some group => builder.putGroup cs b group
    | none => builder
  let builder := match replica with
    | some replica => builder.putReplicaState cs b replica
    | none => builder
  if builder.isEmpty then store else batchWrite store builder.build

/-- `Schema::next_id`, in one step: read the counter of `idType`, write it back one higher,
return what was read. -/
def nextId (idType : String) : Except ServerError (UInt64 × RootStore) :=
  match getMeta b store (asBytes idType) with
  | none => .error (.invalidData (idType ++ " id"))
  | some id =>
    match u64FromLeBytes id with
    | none => .error (.invalidData (idType ++ " id"))
    | some id =>
      .ok (id, batchWrite store
        (PutBatchBuilder.empty.putMeta b (asBytes idType) (u64ToLeBytes (id + 1))).build)

/-- `Schema::create_database`. -/
def createDatabase (desc : DatabaseDesc) : Except ServerError (DatabaseDesc × RootStore) :=
  match nextId b store metaDatabaseIdKey with
  | .error e => .error e
  | .ok (id, store) =>
    let desc := { desc with id }
    .ok (desc, batchWrite store (PutBatchBuilder.empty.putDatabase cs b desc).build)

/-- `Schema::add_node`. -/
def addNode (desc : NodeDesc) : Except ServerError (NodeDesc × RootStore) :=
  match nextId b store metaNodeIdKey with
  | .error e => .error e
  | .ok (id, store) =>
    let desc := { desc with id }
    .ok (desc, batchWrite store (PutBatchBuilder.empty.putNode cs b desc).build)

end

/-! ## Bootstrap -/

section

variable (cs : Codecs) (b : BootstrapIds)

/-- `Schema::init_system_collections`: the six system collections, and the first id after
them. -/
def initSystemCollections (batch : PutBatchBuilder) : PutBatchBuilder × UInt64 :=
  let batch := batch.putCollection cs b
    ⟨systemCollectionCollectionId b, systemCollectionCollection, systemDatabaseId⟩
  let batch := batch.putCollection cs b
    ⟨systemDatabaseCollectionId b, systemDatabaseCollection, systemDatabaseId⟩
  let batch := batch.putCollection cs b
    ⟨systemMateCollectionId b, systemMateCollection, systemDatabaseId⟩
  let batch := batch.putCollection cs b
    ⟨systemNodeCollectionId b, systemNodeCollection, systemDatabaseId⟩
  let batch := batch.putCollection cs b
    ⟨systemGroupCollectionId b, systemGroupCollection, systemDatabaseId⟩
  let replicaStateCollection : CollectionDesc :=
    ⟨systemReplicaStateCollectionId b, systemReplicaStateCollection, systemDatabaseId⟩
  let batch := batch.putCollection cs b replicaStateCollection
  (batch, replicaStateCollection.id + 1)

/-- `Schema::init_meta_collection`: the cluster id, and every id counter past the ids
bootstrap takes. -/
def initMetaCollection (batch : PutBatchBuilder) (nextCollectionId : UInt64) (clusterId : Bytes) :
    PutBatchBuilder :=
  let batch := batch.putMeta b (asBytes metaClusterIdKey) clusterId
  let batch := batch.putMeta b (asBytes metaDatabaseIdKey) (u64ToLeBytes (systemDatabaseId + 1))
  let batch := batch.putMeta b (asBytes metaCollectionIdKey) (u64ToLeBytes nextCollectionId)
  let batch := batch.putMeta b (asBytes metaGroupIdKey) (u64ToLeBytes (b.rootGroupId + 1))
  let batch := batch.putMeta b (asBytes metaNodeIdKey) (u64ToLeBytes (b.firstNodeId + 1))
  let batch := batch.putMeta b (asBytes metaReplicaIdKey) (u64ToLeBytes (b.firstReplicaId + 1))
  batch.putMeta b (asBytes metaShardIdKey) (u64ToLeBytes (b.rootShardId + 1))

/-- The batch `try_bootstrap` writes. -/
def bootstrapBatch (addr : String) (clusterId : Bytes) : PutBatchBuilder :=
  let (batch, nextCollectionId) := initSystemCollections cs b PutBatchBuilder.empty
  let batch := initMetaCollection b batch nextCollectionId clusterId
  let batch := batch.putDatabase cs b ⟨systemDatabaseId, systemDatabaseName⟩
  let batch := batch.putNode cs b ⟨b.firstNodeId, addr⟩
  let batch := batch.putGroup cs b
    ⟨b.rootGroupId.toNat, b.initialEpoch, [⟨b.firstReplicaId.toNat, b.firstNodeId.toNat⟩],
      [⟨b.rootShardId.toNat, b.rootSuperCollectionId.toNat, ⟨b.minKey, b.maxKey⟩⟩]⟩
  batch.putReplicaState cs b ⟨b.firstReplicaId, b.rootGroupId, 0, b.firstReplicaId, .leader⟩

/-- `Schema::try_bootstrap`. -/
def tryBootstrap (store : RootStore) (addr : String) (clusterId : Bytes) :
    Except ServerError RootStore :=
  match Schema.clusterId b store with
  | some existClusterId => if existClusterId ≠ clusterId then .error .clusterNotMatch else .ok store
  | none => .ok (batchWrite store (bootstrapBatch cs b addr clusterId).build)

end

/-! ## Reading back -/

section

variable {cs : Codecs} {b : BootstrapIds} {store : RootStore}

/-- A put into one collection leaves every key of another alone. -/
theorem get_batchWrite_put_ne {builder : PutBatchBuilder} {c c' : UInt64} {key key' val : Bytes}
    (h : c' ≠ c ∨ key' ≠ key) :
    get (store.batchWrite (builder.put c key val).build) c' key' =
      get (store.batchWrite builder.build) c' key' := by
  rw [get, get, PutBatchBuilder.build_put, RootStore.batchWrite, List.foldl_append, ← RootStore.batchWrite,
    ← RootStore.batchWrite, RootStore.get_batchWrite_of_forall_ne]
  simp only [List.mem_singleton, forall_eq, ne_eq, dataKey_inj, not_and_or]
  exact h.imp Ne.symm Ne.symm

/-- A put's key holds its value afterwards. -/
theorem get_batchWrite_put_self {builder : PutBatchBuilder} {c : UInt64} {key val : Bytes} :
    get (store.batchWrite (builder.put c key val).build) c key = some val := by
  rw [get, PutBatchBuilder.build_put, RootStore.get_batchWrite]
  simp

/-- **A put read back.**  A key holds the value of the batch's last put of it, or else what the
puts before it left there. -/
theorem get_batchWrite_put {builder : PutBatchBuilder} {c c' : UInt64} {key key' val : Bytes} :
    get (store.batchWrite (builder.put c key val).build) c' key' =
      if c = c' ∧ key = key' then some val else get (store.batchWrite builder.build) c' key' := by
  split_ifs with h
  · obtain ⟨rfl, rfl⟩ := h
    exact get_batchWrite_put_self
  · exact get_batchWrite_put_ne ((not_and_or.mp h).imp Ne.symm Ne.symm)

@[simp] theorem get_batchWrite_empty {c : UInt64} {key : Bytes} :
    get (RootStore.batchWrite ∅ PutBatchBuilder.empty.build) c key = none := rfl

/-- A `get_*` method decodes what its `put_*` wrote. -/
theorem getDecoded_of_get {α : Type} {codec : Codec α} {c : UInt64} {key : Bytes} {what : String}
    {a : α} (h : get store c key = some (codec.encode a)) : getDecoded store codec c key what = .ok (some a) := by
  simp [getDecoded, h, codec.decode_encode]

/-- `get_database` reads back what `put_database` wrote last. -/
theorem getDatabase_putDatabase (builder : PutBatchBuilder) (d : DatabaseDesc) :
    getDatabase cs b (store.batchWrite (builder.putDatabase cs b d).build) d.name = .ok (some d) :=
  getDecoded_of_get get_batchWrite_put_self

/-- `get_database` does not see what `put_collection` writes. -/
theorem getDatabase_putCollection (builder : PutBatchBuilder) (c : CollectionDesc) (name : String) :
    getDatabase cs b (store.batchWrite (builder.putCollection cs b c).build) name =
      getDatabase cs b (store.batchWrite builder.build) name := by
  have hne : systemDatabaseCollectionId b ≠ systemCollectionCollectionId b :=
    systemCollectionId_ne b (by decide)
  rw [getDatabase, getDatabase, getDecoded, getDecoded, PutBatchBuilder.putCollection,
    get_batchWrite_put_ne (.inl hne)]

/-- `get_database` does not see what `delete_collection` deletes. -/
theorem getDatabase_deleteCollection (c : CollectionDesc) (name : String) :
    getDatabase cs b (deleteCollection b store c) name = getDatabase cs b store name := by
  have hne : dataKey (systemDatabaseCollectionId b) (asBytes name) ≠
      dataKey (systemCollectionCollectionId b) (u64ToLeBytes c.id) := fun h =>
    systemCollectionId_ne b (by decide : (2 : UInt64) ≠ 1) (dataKey_inj.mp h).1
  simp only [getDatabase, getDecoded, deleteCollection, delete, get, RootStore.get_delete_ne hne]

/-- **`delete_database` misses the key `put_database` wrote.**  It deletes the key made of the
database's id, so a database whose name's bytes are not its id's stays where `get_database`
finds it. -/
theorem getDatabase_deleteDatabase {name : String} {db : DatabaseDesc}
    (hget : getDatabase cs b store name = .ok (some db)) (hkey : asBytes name ≠ u64ToLeBytes db.id) :
    ∃ store', deleteDatabase cs b store name = .ok store' ∧
      getDatabase cs b store' name = .ok (some db) := by
  refine ⟨_, by rw [deleteDatabase, hget], ?_⟩
  rw [← hget]
  simp only [getDatabase, getDecoded, get, delete,
    RootStore.get_delete_ne fun h => hkey (dataKey_inj.mp h).2]

/-- **`delete_collection` misses the key `put_collection` wrote.**  It deletes the key made of
the collection's id, so a collection with a non-empty name stays where `get_collection` finds
it. -/
theorem getCollection_deleteCollection {database collection : String} {c : CollectionDesc}
    (hget : getCollection cs b store database collection = .ok (some c))
    (hname : asBytes collection ≠ []) :
    getCollection cs b (deleteCollection b store c) database collection = .ok (some c) := by
  rw [← hget]
  unfold getCollection
  rw [getDatabase_deleteCollection]
  split
  · rfl
  · rfl
  · rename_i db _
    have hne : dataKey (systemCollectionCollectionId b) (collectionKey db.id collection) ≠
        dataKey (systemCollectionCollectionId b) (u64ToLeBytes c.id) := fun h => by
      have hlen := congrArg List.length (dataKey_inj.mp h).2
      simp only [collectionKey, List.length_append, length_u64ToLeBytes] at hlen
      exact hname (List.length_eq_zero.mp (by omega))
    simp only [getDecoded, deleteCollection, delete, get, RootStore.get_delete_ne hne]

/-- The shop database, at the first id `create_database` hands out after bootstrap. -/
def shopDatabase : DatabaseDesc := ⟨2, "shop"⟩

/-- The orders collection of the shop database. -/
def ordersCollection : CollectionDesc := ⟨7, "orders", 2⟩

/-- After the shop database and its orders collection are written, `delete_database` and
`delete_collection` return `Ok` and leave both descriptors where `get_database` and
`get_collection` find them. -/
theorem delete_leaves_descriptors (cs : Codecs) (b : BootstrapIds) (store : RootStore) :
    (∃ store', deleteDatabase cs b
        (store.batchWrite ((PutBatchBuilder.empty.putDatabase cs b shopDatabase).putCollection cs b
          ordersCollection).build) "shop" = .ok store' ∧
      getDatabase cs b store' "shop" = .ok (some shopDatabase)) ∧
    getCollection cs b (deleteCollection b
        (store.batchWrite ((PutBatchBuilder.empty.putDatabase cs b shopDatabase).putCollection cs b
          ordersCollection).build) ordersCollection) "shop" "orders" = .ok (some ordersCollection) := by
  have hdb : getDatabase cs b (store.batchWrite ((PutBatchBuilder.empty.putDatabase cs b
      shopDatabase).putCollection cs b ordersCollection).build) "shop" = .ok (some shopDatabase) := by
    rw [getDatabase_putCollection]
    exact getDatabase_putDatabase _ shopDatabase
  refine ⟨getDatabase_deleteDatabase hdb (by decide), getCollection_deleteCollection ?_ (by decide)⟩
  rw [getCollection, hdb]
  exact getDecoded_of_get get_batchWrite_put_self

/-! ## Listing -/

/-- **The `list_*` loop.**  It succeeds exactly with the decoding of every value, in order. -/
theorem decodeAll_eq_ok_iff {α : Type} {codec : Codec α} {what : String} :
    ∀ {vals : List Bytes} {descs : List α},
      decodeAll codec what vals = .ok descs ↔ vals.map codec.decode = descs.map some
  | [], descs => by cases descs <;> simp [decodeAll]
  | val :: vals, descs => by
    rw [decodeAll]
    cases hd : codec.decode val with
    | none => cases descs <;> simp [hd]
    | some d =>
      rcases descs with _ | ⟨d', ds⟩
      · cases h : decodeAll codec what vals <;> simp [Except.map, hd, h]
      · rw [List.map_cons, List.map_cons, List.cons.injEq, hd, Option.some.injEq,
          ← @decodeAll_eq_ok_iff α codec what vals ds]
        cases h : decodeAll codec what vals <;> simp [Except.map, h]

/-- A value listed under a system collection is one stored under a key of that collection. -/
theorem mem_list_iff {c : UInt64} {v : Bytes} : v ∈ list store c ↔ ∃ key, get store c key = some v :=
  RootStore.mem_list_iff

/-- Every descriptor a `list_*` method returns decodes a listed value. -/
theorem exists_mem_of_listDecoded {α : Type} {codec : Codec α} {c : UInt64} {what : String}
    {descs : List α} {a : α} (h : listDecoded store codec c what = .ok descs) (ha : a ∈ descs) :
    ∃ v ∈ list store c, codec.decode v = some a := by
  have hmap := decodeAll_eq_ok_iff.mp h
  have : some a ∈ (list store c).map codec.decode := hmap ▸ List.mem_map_of_mem some ha
  simpa using this

/-! ## The bootstrapped store -/

/-- The store a first `try_bootstrap` leaves. -/
def bootstrapped (cs : Codecs) (b : BootstrapIds) (addr : String) (clusterId : Bytes) : RootStore :=
  RootStore.batchWrite ∅ (bootstrapBatch cs b addr clusterId).build

/-- On an empty store, `try_bootstrap` writes its batch. -/
theorem tryBootstrap_empty (addr : String) (clusterId : Bytes) :
    tryBootstrap cs b ∅ addr clusterId = .ok (bootstrapped cs b addr clusterId) := by
  simp [tryBootstrap, Schema.clusterId, getMeta, get, bootstrapped, batchWrite]

/-- The database collection of the bootstrapped store holds the system database alone. -/
theorem get_bootstrapped_database {addr : String} {clusterId : Bytes} (key : Bytes) :
    get (bootstrapped cs b addr clusterId) (systemDatabaseCollectionId b) key =
      if asBytes systemDatabaseName = key then
        some (cs.database.encode ⟨systemDatabaseId, systemDatabaseName⟩)
      else none := by
  simp +decide only [bootstrapped, bootstrapBatch, initSystemCollections, initMetaCollection,
    PutBatchBuilder.putCollection, PutBatchBuilder.putMeta, PutBatchBuilder.putDatabase,
    PutBatchBuilder.putNode, PutBatchBuilder.putGroup, PutBatchBuilder.putReplicaState,
    get_batchWrite_put, get_batchWrite_empty, systemCollectionCollectionId,
    systemDatabaseCollectionId, systemMateCollectionId, systemNodeCollectionId,
    systemGroupCollectionId, systemReplicaStateCollectionId, add_right_inj, false_and, true_and,
    ↓reduceIte]

/-- The system database is the only value of the database collection after bootstrap. -/
theorem mem_list_bootstrapped_database {addr : String} {clusterId v : Bytes} :
    v ∈ list (bootstrapped cs b addr clusterId) (systemDatabaseCollectionId b) ↔
      v = cs.database.encode ⟨systemDatabaseId, systemDatabaseName⟩ := by
  simp [mem_list_iff, get_bootstrapped_database, eq_comm]

/-- `get_collection` finds the system collections `try_bootstrap` wrote. -/
theorem getCollection_bootstrapped {addr : String} {clusterId : Bytes} {name : String}
    {c : UInt64} (hc : (systemCollectionCollection, systemCollectionCollectionId b) = (name, c) ∨
      (systemDatabaseCollection, systemDatabaseCollectionId b) = (name, c)) :
    getCollection cs b (bootstrapped cs b addr clusterId) systemDatabaseName name =
      .ok (some ⟨c, name, systemDatabaseId⟩) := by
  have hdb : getDatabase cs b (bootstrapped cs b addr clusterId) systemDatabaseName =
      .ok (some ⟨systemDatabaseId, systemDatabaseName⟩) :=
    getDecoded_of_get (by rw [get_bootstrapped_database, if_pos rfl])
  rw [getCollection, hdb]
  refine getDecoded_of_get ?_
  rcases hc with hc | hc <;> simp only [Prod.mk.injEq] at hc <;> obtain ⟨rfl, rfl⟩ := hc <;>
    simp +decide only [bootstrapped, bootstrapBatch, initSystemCollections, initMetaCollection,
      PutBatchBuilder.putCollection, PutBatchBuilder.putMeta, PutBatchBuilder.putDatabase,
      PutBatchBuilder.putNode, PutBatchBuilder.putGroup, PutBatchBuilder.putReplicaState,
      get_batchWrite_put, systemCollectionCollectionId, systemDatabaseCollectionId,
      systemMateCollectionId, systemNodeCollectionId, systemGroupCollectionId,
      systemReplicaStateCollectionId, add_right_inj, false_and, true_and, ↓reduceIte]

/-- On the bootstrapped store, `get_collection` finds the collection and database collections
`try_bootstrap` wrote with `put_collection`, but `list_collection`, which decodes the database
collection's one value, returns at most one of them. -/
theorem listCollection_misses_system_collections (cs : Codecs) (b : BootstrapIds) (addr : String)
    (clusterId : Bytes) :
    ∃ store, tryBootstrap cs b ∅ addr clusterId = .ok store ∧
      getCollection cs b store systemDatabaseName systemCollectionCollection =
        .ok (some ⟨systemCollectionCollectionId b, systemCollectionCollection, systemDatabaseId⟩) ∧
      getCollection cs b store systemDatabaseName systemDatabaseCollection =
        .ok (some ⟨systemDatabaseCollectionId b, systemDatabaseCollection, systemDatabaseId⟩) ∧
      ∀ descs, listCollection cs b store = .ok descs →
        (⟨systemCollectionCollectionId b, systemCollectionCollection, systemDatabaseId⟩ : CollectionDesc)
            ∉ descs ∨
          (⟨systemDatabaseCollectionId b, systemDatabaseCollection, systemDatabaseId⟩ : CollectionDesc)
            ∉ descs := by
  refine ⟨_, tryBootstrap_empty addr clusterId, getCollection_bootstrapped (.inl rfl),
    getCollection_bootstrapped (.inr rfl), fun descs h => ?_⟩
  by_contra hboth
  simp only [not_or, not_not] at hboth
  obtain ⟨v1, hv1, hd1⟩ := exists_mem_of_listDecoded h hboth.1
  obtain ⟨v2, hv2, hd2⟩ := exists_mem_of_listDecoded h hboth.2
  rw [mem_list_bootstrapped_database] at hv1 hv2
  rw [hv2, ← hv1, hd1] at hd2
  have hids := congrArg CollectionDesc.id (Option.some.inj hd2)
  exact systemCollectionId_ne b (by decide : (1 : UInt64) ≠ 2) hids

end

end Schema

end Sekas
