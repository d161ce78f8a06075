import Sekas.Root.Collection
import Mathlib.Logic.Relation

/-!
# Sekas.Root.Catalogue

The root's catalogue over whole runs of the methods of `Schema` that write the root store
(`SchemaOp`), from the empty store the root starts with.  Every such method writes through a
`PutBatchBuilder`, whose `put_*` methods file a descriptor under a key made of its own fields, or
bumps an id counter with `next_id`, or deletes a key of a descriptor collection; a first
`try_bootstrap` writes the cluster id and the six counters.

* `WriteStep`: what one write of a method can do, and `SchemaOp.apply_writes`: every method is a
  sequence of such writes;
* `Catalogue`: every value of the database, collection, node, group and replica-state
  collections is the encoding of a descriptor filed under its own key, every id counter holds a
  `u64`, and once a cluster id is stored all six counters are; `Catalogue.step` keeps it;
* `catalogue_run`: it holds after every run from the empty store;
* `reads_run`, `lists_run`: so there the `get_*` methods return only what is filed under the name
  or id asked for and never fail to decode, and the `list_*` methods never fail;
* `creates_run`: once bootstrapped, `next_id` finds its counters, so `create_database` and
  `add_node` always return `Ok`;
* `listAllEvents_run`: `list_all_events` fails only where `list_collection` does.

`list_collection`, which decodes the database collection with the collection codec, is left out
of `lists_run`: what it decodes is not what was encoded there.
-/

namespace Sekas

namespace Schema

/-! ## Runs of the schema's methods -/

/-- The methods of `Schema` that write the root store, with their arguments.  `create_collection`
also takes the store's `create_shard`, which is not among the sources. -/
inductive SchemaOp where
  | tryBootstrap (addr : String) (clusterId : Bytes)
  | createDatabase (desc : DatabaseDesc)
  | deleteDatabase (name : String)
  | createCollection (desc : CollectionDesc) (createShard : ShardDesc → Except ServerError UInt64)
  | deleteCollection (desc : CollectionDesc)
  | addNode (desc : NodeDesc)
  | deleteNode (id : UInt64)
  | deleteGroup (id : UInt64)
  | updateGroupReplica (group : Option GroupDesc) (replica : Option ReplicaState)

namespace SchemaOp

variable (cs : Codecs) (b : BootstrapIds)

/-- The store a method leaves.  The store is written in place, so a method that fails leaves what
it wrote before failing. -/
def apply (store : RootStore) : SchemaOp → RootStore
  | tryBootstrap addr clusterId =>
    match Schema.tryBootstrap cs b store addr clusterId with
    | .ok store' => store'
    | .error _ => store
  | createDatabase desc =>
    match Schema.createDatabase cs b store desc with
    | .ok (_, store') => store'
    | .error _ => store
  | deleteDatabase name =>
    match Schema.deleteDatabase cs b store name with
    | .ok store' => store'
    | .error _ => store
  | createCollection desc createShard => (Schema.createCollection cs b createShard store desc).2
  | deleteCollection desc => Schema.deleteCollection b store desc
  | addNode desc =>
    match Schema.addNode cs b store desc with
    | .ok (_, store') => store'
    | .error _ => store
  | deleteNode id => Schema.deleteNode b store id
  | deleteGroup id => Schema.deleteGroup b store id
  | updateGroupReplica group replica => Schema.updateGroupReplica cs b store group replica

/-- The methods called one after another. -/
def run (store : RootStore) (ops : List SchemaOp) : RootStore := ops.foldl (apply cs b) store

@[simp] theorem run_nil (store : RootStore) : run cs b store [] = store := rfl

@[simp] theorem run_cons (store : RootStore) (op : SchemaOp) (ops : List SchemaOp) :
    run cs b store (op :: ops) = run cs b (op.apply cs b store) ops := rfl

theorem run_append (store : RootStore) (ops ops' : List SchemaOp) :
    run cs b store (ops ++ ops') = run cs b (run cs b store ops) ops' :=
  List.foldl_append _ _ _ _

end SchemaOp

/-! ## Listing all events -/

/-- `UpdateEvent`, by the descriptor it carries. -/
inductive UpdateEvent where
  | database (desc : DatabaseDesc)
  | collection (desc : CollectionDesc)
  | group (desc : GroupDesc)
  | groupState (state : GroupState)
  deriving DecidableEq, Repr

/-- `Schema::list_all_events`: the databases, collections, groups and group states, in that
order, as events.  (Its sequence number is unused.) -/
def listAllEvents (cs : Codecs) (b : BootstrapIds) (store : RootStore) :
    Except ServerError (List UpdateEvent) := do
  let dbs ← listDatabase cs b store
  let collections ← listCollection cs b store
  let groups ← listGroup cs b store
  let groupStates ← listGroupState cs.replicaState b store
  pure (dbs.map .database ++ collections.map .collection ++ groups.map .group ++
    groupStates.map .groupState)

/-! ## The writes -/

/-- The id counters `next_id` is called on. -/
def idTypes : List String :=
  [metaDatabaseIdKey, metaCollectionIdKey, metaGroupIdKey, metaNodeIdKey, metaReplicaIdKey,
    metaShardIdKey]

section

variable (cs : Codecs) (b : BootstrapIds)

/-- The puts the methods make outside bootstrap: a descriptor under the key its `put_*` method
files it at, or an id counter, which `next_id` writes as a `u64`. -/
inductive SchemaWrite : Bytes × Bytes → Prop
  | database (d : DatabaseDesc) :
      SchemaWrite (dataKey (systemDatabaseCollectionId b) (asBytes d.name), cs.database.encode d)
  | collection (c : CollectionDesc) :
      SchemaWrite (dataKey (systemCollectionCollectionId b) (collectionKey c.parentId c.name),
        cs.collection.encode c)
  | node (n : NodeDesc) :
      SchemaWrite (dataKey (systemNodeCollectionId b) (u64ToLeBytes n.id), cs.node.encode n)
  | group (g : GroupDesc) :
      SchemaWrite (dataKey (systemGroupCollectionId b) (u64ToLeBytes (UInt64.ofNat g.id)),
        cs.group.encode g)
  | replicaState (s : ReplicaState) :
      SchemaWrite (dataKey (systemReplicaStateCollectionId b) (replicaKey s.groupId s.replicaId),
        cs.replicaState.encode s)
  | counter (idType : String) (h : idType ∈ idTypes) (k : UInt64) :
      SchemaWrite (dataKey (systemMateCollectionId b) (asBytes idType), u64ToLeBytes k)

/-- The puts of the bootstrap batch: those of `SchemaWrite`, and the cluster id. -/
def BootstrapWrite (p : Bytes × Bytes) : Prop :=
  SchemaWrite cs b p ∨ p.1 = dataKey (systemMateCollectionId b) (asBytes metaClusterIdKey)

/-- What one write of a method does to the store: a put of `SchemaWrite`, the deletion of a key
outside the meta collection, or the batch of a `try_bootstrap` that finds no cluster id. -/
inductive WriteStep : RootStore → RootStore → Prop
  | put (store : RootStore) (p : Bytes × Bytes) (hp : SchemaWrite cs b p) :
      WriteStep store (store.insert p.1 p.2)
  | erase (store : RootStore) (c : UInt64) (key : Bytes) (hc : c ≠ systemMateCollectionId b) :
      WriteStep store (delete store c key)
  | bootstrap (store : RootStore) (addr : String) (clusterId : Bytes)
      (h : Schema.clusterId b store = none) :
      WriteStep store (batchWrite store (bootstrapBatch cs b addr clusterId).build)

/-- Every put of a batch satisfies `W`. -/
def BatchOk (W : Bytes × Bytes → Prop) (builder : PutBatchBuilder) : Prop := ∀ p ∈ builder.batch, W p

end

/-! ## Batches as sequences of puts -/

section

variable {W : Bytes × Bytes → Prop} {builder : PutBatchBuilder} {store : RootStore}

theorem BatchOk.empty : BatchOk W PutBatchBuilder.empty := fun _ h => nomatch h

theorem BatchOk.put {c : UInt64} {key val : Bytes} (h : BatchOk W builder) (hp : W (dataKey c key, val)) :
    BatchOk W (builder.put c key val) := by
  intro p hp'
  rcases List.mem_append.mp hp' with hp' | hp'
  · exact h p hp'
  · rw [List.mem_singleton.mp hp']
    exact hp

/-- A batch writes its puts one after another. -/
theorem batchWrite_build (store : RootStore) (builder : PutBatchBuilder) :
    batchWrite store builder.build = builder.batch.foldl (fun s p => s.insert p.1 p.2) store := by
  simp [batchWrite, RootStore.batchWrite, PutBatchBuilder.build, List.foldl_map]

/-- A property that each put of `W` keeps holds after a sequence of such puts. -/
theorem foldl_insert_induction {P : RootStore → Prop} (hstep : ∀ s p, W p → P s → P (s.insert p.1 p.2)) :
    ∀ (puts : List (Bytes × Bytes)) (store : RootStore), (∀ p ∈ puts, W p) → P store →
      P (puts.foldl (fun s p => s.insert p.1 p.2) store)
  | [], _, _, h => h
  | p :: puts, store, hb, h =>
    foldl_insert_induction hstep puts _ (fun q hq => hb q (.tail _ hq)) (hstep store p (hb p (.head _)) h)

/-- A property that each put of `W` keeps holds after a batch of such puts. -/
theorem batchWrite_induction {P : RootStore → Prop} (hstep : ∀ s p, W p → P s → P (s.insert p.1 p.2))
    (hb : BatchOk W builder) (h : P store) : P (batchWrite store builder.build) := by
  rw [batchWrite_build]
  exact foldl_insert_induction hstep _ _ hb h

/-- A key a sequence of puts puts holds a value afterwards, and a key that holds one keeps one. -/
theorem isSome_lookup_foldl_insert {k : Bytes} : ∀ (puts : List (Bytes × Bytes)) (store : RootStore),
    ((store.lookup k).isSome ∨ ∃ v, (k, v) ∈ puts) →
      ((puts.foldl (fun s p => s.insert p.1 p.2) store).lookup k).isSome
  | [], _, h => by simpa using h
  | p :: puts, store, h => by
    refine isSome_lookup_foldl_insert puts _ ?_
    by_cases hk : p.1 = k
    · exact .inl (by rw [← hk, AList.lookup_insert]; rfl)
    · rcases h with h | ⟨v, hv⟩
      · exact .inl (by rwa [AList.lookup_insert_ne (Ne.symm hk)])
      · rcases List.mem_cons.mp hv with rfl | hv
        · exact absurd rfl hk
        · exact .inr ⟨v, hv⟩

theorem isSome_get_batchWrite {c : UInt64} {key : Bytes}
    (h : (get store c key).isSome ∨ ∃ v, (dataKey c key, v) ∈ builder.batch) :
    (get (batchWrite store builder.build) c key).isSome := by
  rw [batchWrite_build]
  exact isSome_lookup_foldl_insert _ _ h

end

/-- What a put leaves in a key of a system collection. -/
theorem get_insert {store : RootStore} {k v : Bytes} {c : UInt64} {key : Bytes} :
    get (store.insert k v) c key = if k = dataKey c key then some v else get store c key := by
  simp only [get, RootStore.get]
  split_ifs with h
  · rw [h, AList.lookup_insert]
  · exact AList.lookup_insert_ne (Ne.symm h)

/-- A deletion in another system collection leaves a key alone. -/
theorem get_delete_of_ne {store : RootStore} {c c' : UInt64} {key key' : Bytes} (hc : c ≠ c') :
    get (delete store c' key') c key = get store c key :=
  RootStore.get_delete_ne fun h => hc (dataKey_inj.mp h).1

/-- The meta collection holds the counters and the cluster id, apart from the descriptors. -/
theorem SchemaWrite.key_eq_meta {cs : Codecs} {b : BootstrapIds} {p : Bytes × Bytes}
    (hp : SchemaWrite cs b p) {key : Bytes} (hk : p.1 = dataKey (systemMateCollectionId b) key) :
    ∃ idType ∈ idTypes, key = asBytes idType ∧ ∃ k, p.2 = u64ToLeBytes k := by
  cases hp with
  | counter idType h k => exact ⟨idType, h, (dataKey_inj.mp hk).2.symm, k, rfl⟩
  | _ => exact absurd (dataKey_inj.mp hk).1 (systemCollectionId_ne b (by decide))

theorem clusterIdKey_not_mem : asBytes metaClusterIdKey ∉ idTypes.map asBytes := by decide

/-! ## The invariant -/

section

variable (cs : Codecs) (b : BootstrapIds)

/-- The values of system collection `c` are encodings of descriptors, each filed under `keyOf`
of itself. -/
def Keyed {α : Type} (store : RootStore) (codec : Codec α) (c : UInt64) (keyOf : α → Bytes) : Prop :=
  ∀ key v, get store c key = some v → ∃ a, v = codec.encode a ∧ key = keyOf a

/-- The invariant each single write keeps: every descriptor under its own key, and every id
counter a `u64`. -/
structure Filed (store : RootStore) : Prop where
  databases : Keyed store cs.database (systemDatabaseCollectionId b) fun d => asBytes d.name
  collections : Keyed store cs.collection (systemCollectionCollectionId b)
    fun c => collectionKey c.parentId c.name
  nodes : Keyed store cs.node (systemNodeCollectionId b) fun n => u64ToLeBytes n.id
  groups : Keyed store cs.group (systemGroupCollectionId b) fun g => u64ToLeBytes (UInt64.ofNat g.id)
  replicaStates : Keyed store cs.replicaState (systemReplicaStateCollectionId b)
    fun s => replicaKey s.groupId s.replicaId
  counters : ∀ idType ∈ idTypes, ∀ v, getMeta b store (asBytes idType) = some v →
    ∃ k, v = u64ToLeBytes k

/-- **The catalogue's invariant**: `Filed`, and once a cluster id is stored, every id counter
is. -/
structure Catalogue (store : RootStore) extends Filed cs b store : Prop where
  bootstrapped : (clusterId b store).isSome → ∀ idType ∈ idTypes, (getMeta b store (asBytes idType)).isSome

end

section

variable {cs : Codecs} {b : BootstrapIds} {store : RootStore}

theorem Keyed.insert {α : Type} {codec : Codec α} {c c' : UInt64} {keyOf : α → Bytes} {key v : Bytes}
    (h : Keyed store codec c keyOf) (hw : c' = c → ∃ a, v = codec.encode a ∧ key = keyOf a) :
    Keyed (store.insert (dataKey c' key) v) codec c keyOf := by
  intro key' v' hget
  rw [get_insert] at hget
  split_ifs at hget with hk
  · obtain ⟨rfl, rfl⟩ := dataKey_inj.mp hk
    cases hget
    exact hw rfl
  · exact h key' v' hget

theorem Keyed.erase {α : Type} {codec : Codec α} {c : UInt64} {keyOf : α → Bytes} (k : Bytes)
    (h : Keyed store codec c keyOf) : Keyed (store.erase k) codec c keyOf := by
  intro key v hget
  by_cases hk : dataKey c key = k
  · rw [get, RootStore.get, hk, AList.lookup_erase] at hget
    cases hget
  · exact h key v (by rwa [get, RootStore.get, AList.lookup_erase_ne hk] at hget)

/-- **A put keeps `Filed`**: a put of `SchemaWrite`, or of the cluster id. -/
theorem Filed.insert (h : Filed cs b store) {p : Bytes × Bytes} (hp : BootstrapWrite cs b p) :
    Filed cs b (store.insert p.1 p.2) := by
  have hcounters : ∀ idType ∈ idTypes, ∀ v,
      getMeta b (store.insert p.1 p.2) (asBytes idType) = some v → ∃ k, v = u64ToLeBytes k := by
    intro idType ht v hv
    rw [getMeta, get_insert] at hv
    split_ifs at hv with hk
    · cases hv
      rcases hp with hp | hp
      · obtain ⟨-, -, -, hk⟩ := hp.key_eq_meta hk
        exact hk
      · rw [hp, dataKey_inj] at hk
        exact absurd (hk.2 ▸ List.mem_map_of_mem asBytes ht) clusterIdKey_not_mem
    · exact h.counters idType ht v hv
  -- Each descriptor collection: the put lands there under the key it files, or elsewhere.
  rcases hp with hp | hp
  · cases hp <;>
    refine ⟨h.databases.insert ?_, h.collections.insert ?_, h.nodes.insert ?_, h.groups.insert ?_,
      h.replicaStates.insert ?_, hcounters⟩ <;>
    first
      | exact fun _ => ⟨_, rfl, rfl⟩
      | exact fun hc => absurd hc (systemCollectionId_ne b (by decide))
  · obtain ⟨k, v⟩ := p
    simp only at hp hcounters ⊢
    subst hp
    refine ⟨h.databases.insert ?_, h.collections.insert ?_, h.nodes.insert ?_, h.groups.insert ?_,
      h.replicaStates.insert ?_, hcounters⟩ <;>
    exact fun hc => absurd hc (systemCollectionId_ne b (by decide))

/-- A deletion outside the meta collection keeps `Filed`. -/
theorem Filed.erase (h : Filed cs b store) {c : UInt64} (key : Bytes) (hc : c ≠ systemMateCollectionId b) :
    Filed cs b (delete store c key) := by
  refine ⟨h.databases.erase _, h.collections.erase _, h.nodes.erase _, h.groups.erase _,
    h.replicaStates.erase _, fun idType ht v hv => h.counters idType ht v ?_⟩
  rwa [getMeta, get_delete_of_ne (Ne.symm hc)] at hv

theorem initSystemCollections_ok {batch : PutBatchBuilder} (h : BatchOk (BootstrapWrite cs b) batch) :
    BatchOk (BootstrapWrite cs b) (initSystemCollections cs b batch).1 :=
  (((((h.put (.inl (.collection _))).put (.inl (.collection _))).put (.inl (.collection _))).put
    (.inl (.collection _))).put (.inl (.collection _))).put (.inl (.collection _))

theorem initMetaCollection_ok {batch : PutBatchBuilder} {n : UInt64} {clusterId : Bytes}
    (h : BatchOk (BootstrapWrite cs b) batch) :
    BatchOk (BootstrapWrite cs b) (initMetaCollection b batch n clusterId) :=
  ((((((h.put (.inr rfl)).put (.inl (.counter _ (by decide) _))).put
    (.inl (.counter _ (by decide) _))).put (.inl (.counter _ (by decide) _))).put
    (.inl (.counter _ (by decide) _))).put (.inl (.counter _ (by decide) _))).put
    (.inl (.counter _ (by decide) _))

/-- The bootstrap batch puts descriptors, counters and the cluster id. -/
theorem bootstrapBatch_ok (addr : String) (clusterId : Bytes) :
    BatchOk (BootstrapWrite cs b) (bootstrapBatch cs b addr clusterId) :=
  (((initMetaCollection_ok (initSystemCollections_ok .empty)).put (.inl (.database _))).put
    (.inl (.node _))).put (.inl (.group _)) |>.put (.inl (.replicaState _))

/-- `init_meta_collection` puts the cluster id and each id counter. -/
theorem mem_initMetaCollection {batch : PutBatchBuilder} {n : UInt64} {clusterId key : Bytes}
    (hk : key = asBytes metaClusterIdKey ∨ ∃ idType ∈ idTypes, key = asBytes idType) :
    ∃ v, (dataKey (systemMateCollectionId b) key, v) ∈ (initMetaCollection b batch n clusterId).batch := by
  simp only [idTypes, List.mem_cons, List.not_mem_nil, or_false, exists_eq_or_imp,
    exists_eq_left] at hk
  rcases hk with rfl | rfl | rfl | rfl | rfl | rfl | rfl <;>
  simp only [initMetaCollection, PutBatchBuilder.putMeta, PutBatchBuilder.put, List.mem_append,
    List.mem_singleton, Prod.mk.injEq, exists_or, exists_and_left, exists_eq, and_true, true_or,
    or_true]

/-- So does the bootstrap batch. -/
theorem mem_bootstrapBatch {addr : String} {clusterId : Bytes} {key : Bytes}
    (hk : key = asBytes metaClusterIdKey ∨ ∃ idType ∈ idTypes, key = asBytes idType) :
    ∃ v, (dataKey (systemMateCollectionId b) key, v) ∈ (bootstrapBatch cs b addr clusterId).batch := by
  obtain ⟨v, hv⟩ : ∃ v, (dataKey (systemMateCollectionId b) key, v) ∈ (initMetaCollection b
      (initSystemCollections cs b .empty).1 (initSystemCollections cs b .empty).2 clusterId).batch :=
    mem_initMetaCollection hk
  exact ⟨v, List.mem_append_left _ (List.mem_append_left _ (List.mem_append_left _
    (List.mem_append_left _ hv)))⟩

/-- **One write keeps the invariant.** -/
theorem Catalogue.step {store' : RootStore} (h : Catalogue cs b store) (hs : WriteStep cs b store store') :
    Catalogue cs b store' := by
  cases hs with
  | put p hp =>
    refine ⟨h.toFiled.insert (.inl hp), fun hid idType ht => ?_⟩
    have hne : ∀ key, p.1 = dataKey (systemMateCollectionId b) key → key ≠ asBytes metaClusterIdKey :=
      fun key hk hkey => by
        obtain ⟨idType', ht', rfl, -⟩ := hp.key_eq_meta hk
        exact clusterIdKey_not_mem (hkey ▸ List.mem_map_of_mem asBytes ht')
    have hcl : clusterId b (store.insert p.1 p.2) = clusterId b store := by
      rw [clusterId, getMeta, get_insert, if_neg fun hk => hne _ hk rfl]
      rfl
    have hmeta := h.bootstrapped (hcl ▸ hid) idType ht
    rw [getMeta, get_insert]
    split_ifs
    · rfl
    · exact hmeta
  | erase c key hc =>
    refine ⟨h.toFiled.erase key hc, fun hid idType ht => ?_⟩
    simp only [clusterId, getMeta, get_delete_of_ne (Ne.symm hc)] at hid ⊢
    exact h.bootstrapped hid idType ht
  | bootstrap addr clusterId _ =>
    refine ⟨batchWrite_induction (fun _ _ hp hs => hs.insert hp) (bootstrapBatch_ok addr clusterId)
      h.toFiled, fun _ idType ht => isSome_get_batchWrite (.inr (mem_bootstrapBatch (.inr ?_)))⟩
    exact ⟨idType, ht, rfl⟩

/-- **Every sequence of writes keeps the invariant.** -/
theorem Catalogue.reflTransGen {store' : RootStore} (h : Catalogue cs b store)
    (hs : Relation.ReflTransGen (WriteStep cs b) store store') : Catalogue cs b store' := by
  induction hs with
  | refl => exact h
  | tail _ hstep ih => exact ih.step hstep

/-- The empty store has no descriptor, counter or cluster id. -/
theorem catalogue_empty : Catalogue cs b ∅ where
  databases _ _ h := nomatch h
  collections _ _ h := nomatch h
  nodes _ _ h := nomatch h
  groups _ _ h := nomatch h
  replicaStates _ _ h := nomatch h
  counters _ _ _ h := nomatch h
  bootstrapped h := nomatch h

/-- No write removes the cluster id. -/
theorem clusterId_isSome_step {store' : RootStore} (hs : WriteStep cs b store store')
    (h : (clusterId b store).isSome) : (clusterId b store').isSome := by
  cases hs with
  | put p _ =>
    rw [clusterId, getMeta, get_insert]
    split_ifs
    · rfl
    · exact h
  | erase c key hc => rwa [clusterId, getMeta, get_delete_of_ne (Ne.symm hc)]
  | bootstrap _ _ hnone => simp [hnone] at h

theorem clusterId_isSome_reflTransGen {store' : RootStore}
    (hs : Relation.ReflTransGen (WriteStep cs b) store store') (h : (clusterId b store).isSome) :
    (clusterId b store').isSome := by
  induction hs with
  | refl => exact h
  | tail _ hstep ih => exact clusterId_isSome_step hstep ih

end

/-! ## Each method is a sequence of writes -/

section

variable {cs : Codecs} {b : BootstrapIds} {store : RootStore}

/-- A batch of `SchemaWrite` puts is a sequence of writes. -/
theorem writes_batchWrite {builder : PutBatchBuilder} (hb : BatchOk (SchemaWrite cs b) builder) :
    Relation.ReflTransGen (WriteStep cs b) store (batchWrite store builder.build) :=
  batchWrite_induction (fun s p hp hs => hs.tail (.put s p hp)) hb .refl

/-- `next_id` puts the bumped counter. -/
theorem writes_nextId {idType : String} (ht : idType ∈ idTypes) {k : UInt64} {store' : RootStore}
    (h : nextId b store idType = .ok (k, store')) :
    Relation.ReflTransGen (WriteStep cs b) store store' := by
  simp only [nextId] at h
  split at h
  · cases h
  · split at h
    · cases h
    · cases h
      exact writes_batchWrite (BatchOk.empty.put (.counter idType ht _))

/-- The loop of `create_collection` puts only group descriptors. -/
theorem putGroupShards_ok {builder builder' : PutBatchBuilder} :
    ∀ {shards : List (UInt64 × List ShardDesc)}, putGroupShards cs b store builder shards = .ok builder' →
      BatchOk (SchemaWrite cs b) builder → BatchOk (SchemaWrite cs b) builder'
  | [], h, hb => by cases h; exact hb
  | (groupId, shards) :: rest, h, hb => by
    simp only [putGroupShards] at h
    split at h
    · cases h
    · cases h
    · exact putGroupShards_ok h (hb.put (.group _))

theorem writes_createCollectionShard {createShard : ShardDesc → Except ServerError UInt64}
    {desc : CollectionDesc} :
    Relation.ReflTransGen (WriteStep cs b) store (createCollectionShard b createShard store desc).2 := by
  simp only [createCollectionShard]
  split
  · exact .refl
  · rename_i hn
    split <;> exact writes_nextId (by decide) hn

theorem writes_createCollection {createShard : ShardDesc → Except ServerError UInt64}
    {desc : CollectionDesc} :
    Relation.ReflTransGen (WriteStep cs b) store (createCollection cs b createShard store desc).2 := by
  simp only [createCollection]
  split
  · exact .refl
  · rename_i id store₁ hn
    have h1 : Relation.ReflTransGen (WriteStep cs b) store store₁ := writes_nextId (by decide) hn
    have hshard : Relation.ReflTransGen (WriteStep cs b) store₁
        (createCollectionShard b createShard store₁ { desc with id }).2 := writes_createCollectionShard
    split
    · rename_i hs
      rw [hs] at hshard
      exact h1.trans hshard
    · rename_i hs
      rw [hs] at hshard
      have h2 := h1.trans hshard
      split
      · exact h2
      · exact h2
      · rename_i hg
        exact h2.trans (writes_batchWrite (putGroupShards_ok hg (BatchOk.empty.put (.collection _))))

/-- **Every method is a sequence of writes.** -/
theorem SchemaOp.apply_writes (op : SchemaOp) :
    Relation.ReflTransGen (WriteStep cs b) store (op.apply cs b store) := by
  cases op with
  | tryBootstrap addr clusterId =>
    simp only [SchemaOp.apply]
    split
    · rename_i store' h
      simp only [Schema.tryBootstrap] at h
      split at h
      · split at h
        · exact nomatch h
        · rw [← Except.ok.inj h]
      · rename_i hnone
        rw [← Except.ok.inj h]
        exact .single (.bootstrap _ _ _ hnone)
    · exact .refl
  | createDatabase desc =>
    simp only [SchemaOp.apply, Schema.createDatabase]
    split
    · rename_i h
      split at h
      · cases h
      · rename_i hn
        cases h
        exact (writes_nextId (by decide) hn).trans (writes_batchWrite (BatchOk.empty.put (.database _)))
    · exact .refl
  | deleteDatabase name =>
    simp only [SchemaOp.apply, Schema.deleteDatabase]
    split
    · rename_i h
      split at h
      · cases h
      · cases h
      · cases h
        exact .single (.erase _ _ _ (systemCollectionId_ne b (by decide)))
    · exact .refl
  | createCollection desc createShard => exact writes_createCollection
  | deleteCollection desc => exact .single (.erase _ _ _ (systemCollectionId_ne b (by decide)))
  | addNode desc =>
    simp only [SchemaOp.apply, Schema.addNode]
    split
    · rename_i h
      split at h
      · cases h
      · rename_i hn
        cases h
        exact (writes_nextId (by decide) hn).trans (writes_batchWrite (BatchOk.empty.put (.node _)))
    · exact .refl
  | deleteNode id => exact .single (.erase _ _ _ (systemCollectionId_ne b (by decide)))
  | deleteGroup id => exact .single (.erase _ _ _ (systemCollectionId_ne b (by decide)))
  | updateGroupReplica group replica =>
    simp only [SchemaOp.apply, Schema.updateGroupReplica]
    have hg : BatchOk (SchemaWrite cs b) (match group with
        | some group => PutBatchBuilder.empty.putGroup cs b group
        | none => PutBatchBuilder.empty) := by
      cases group
      · exact .empty
      · exact BatchOk.empty.put (.group _)
    split_ifs
    · exact .refl
    · cases replica
      · exact writes_batchWrite hg
      · exact writes_batchWrite (hg.put (.replicaState _))

theorem SchemaOp.run_writes (ops : List SchemaOp) :
    Relation.ReflTransGen (WriteStep cs b) store (SchemaOp.run cs b store ops) := by
  induction ops generalizing store with
  | nil => exact .refl
  | cons op ops ih => exact (op.apply_writes).trans ih

end

/-! ## What the invariant gives -/

section

variable {cs : Codecs} {b : BootstrapIds} {store : RootStore}

/-- On a keyed collection a `get_*` method never fails: it finds nothing, or a descriptor filed
under the key asked for. -/
theorem Keyed.getDecoded {α : Type} {codec : Codec α} {c : UInt64} {keyOf : α → Bytes}
    (h : Keyed store codec c keyOf) (key : Bytes) (what : String) :
    getDecoded store codec c key what = .ok none ∨
      ∃ a, getDecoded store codec c key what = .ok (some a) ∧ key = keyOf a := by
  rcases hg : get store c key with _ | v
  · exact .inl (by rw [Schema.getDecoded, hg])
  · obtain ⟨a, rfl, hk⟩ := h key v hg
    exact .inr ⟨a, getDecoded_of_get hg, hk⟩

/-- The `list_*` loop succeeds on values that all decode. -/
theorem decodeAll_of_forall {α : Type} {codec : Codec α} {what : String} :
    ∀ {vals : List Bytes}, (∀ v ∈ vals, ∃ a, codec.decode v = some a) →
      ∃ descs, decodeAll codec what vals = .ok descs
  | [], _ => ⟨[], rfl⟩
  | v :: vals, h => by
    obtain ⟨a, ha⟩ := h v (.head _)
    obtain ⟨descs, hd⟩ := decodeAll_of_forall fun w hw => h w (.tail _ hw)
    exact ⟨a :: descs, by rw [decodeAll, ha, hd]; rfl⟩

/-- On a keyed collection a `list_*` method never fails. -/
theorem Keyed.listDecoded {α : Type} {codec : Codec α} {c : UInt64} {keyOf : α → Bytes}
    (h : Keyed store codec c keyOf) (what : String) : ∃ descs, listDecoded store codec c what = .ok descs :=
  decodeAll_of_forall fun v hv => by
    obtain ⟨key, hk⟩ := mem_list_iff.mp hv
    obtain ⟨a, rfl, -⟩ := h key v hk
    exact ⟨a, codec.decode_encode a⟩

/-- Collection keys are equal exactly when their databases and names' bytes are. -/
theorem collectionKey_inj {db db' : UInt64} {name name' : String} :
    collectionKey db name = collectionKey db' name' ↔ db = db' ∧ asBytes name = asBytes name' := by
  constructor
  · intro h
    obtain ⟨hdb, hname⟩ := List.append_inj h (by simp)
    exact ⟨u64ToLeBytes_injective hdb, hname⟩
  · rintro ⟨rfl, h⟩
    rw [collectionKey, collectionKey, h]

/-- `get_collection` on a catalogue: nothing, or a collection of the database asked under, with
the name asked for. -/
theorem Catalogue.getCollection (h : Catalogue cs b store) (database name : String) :
    getCollection cs b store database name = .ok none ∨
      ∃ db c, getDatabase cs b store database = .ok (some db) ∧
        getCollection cs b store database name = .ok (some c) ∧ c.parentId = db.id ∧
        asBytes c.name = asBytes name := by
  rw [Schema.getCollection]
  rcases h.databases.getDecoded (asBytes database) ("database desc: " ++ database) with hdb | ⟨db, hdb, -⟩
  · exact .inl (by rw [getDatabase, hdb])
  · rcases h.collections.getDecoded (collectionKey db.id name)
        ("collection desc: " ++ toString db.id ++ ", " ++ name) with hc | ⟨c, hc, hk⟩
    · exact .inl (by rw [getDatabase, hdb]; exact hc)
    · obtain ⟨hid, hname⟩ := collectionKey_inj.mp hk
      exact .inr ⟨db, c, hdb, by rw [getDatabase, hdb]; exact hc, hid.symm, hname.symm⟩

/-- `list_group_state` on a catalogue never fails. -/
theorem Catalogue.listGroupState (h : Catalogue cs b store) :
    ∃ states, listGroupState cs.replicaState b store = .ok states := by
  obtain ⟨states, hs⟩ := h.replicaStates.listDecoded "replica state desc"
  have hfold := foldlM_enterValue [] (decodeAll_eq_ok_iff.mp hs)
  exact ⟨_, by simp only [Schema.listGroupState, hfold]; rfl⟩

/-- Once bootstrapped, a catalogue holds every id counter. -/
theorem Catalogue.counterIs (h : Catalogue cs b store) (hid : (clusterId b store).isSome)
    {idType : String} (ht : idType ∈ idTypes) : ∃ k, NextIds.CounterIs b idType store k := by
  obtain ⟨v, hv⟩ := Option.isSome_iff_exists.mp (h.bootstrapped hid idType ht)
  obtain ⟨k, rfl⟩ := h.counters idType ht v hv
  exact ⟨k, hv⟩

/-- A descriptor put into another system collection after a bump leaves the bumped counter. -/
theorem counterIs_bumped_put {idType : String} {k c : UInt64} {key val : Bytes}
    (hc : c ≠ systemMateCollectionId b) :
    NextIds.CounterIs b idType
      (batchWrite (bumped b store idType k) (PutBatchBuilder.empty.put c key val).build) (k + 1) := by
  rw [NextIds.CounterIs, getMeta, Schema.batchWrite, get_batchWrite_put_ne (.inl hc.symm)]
  exact counterIs_bumped_self

/-- On a bootstrapped catalogue, `create_database` and `add_node` take their id from the
counter and leave it one higher. -/
theorem Catalogue.creates (h : Catalogue cs b store) (hid : (clusterId b store).isSome)
    (database : DatabaseDesc) (node : NodeDesc) :
    (∃ k store', NextIds.CounterIs b metaDatabaseIdKey store k ∧
        createDatabase cs b store database = .ok ({ database with id := k }, store') ∧
        NextIds.CounterIs b metaDatabaseIdKey store' (k + 1)) ∧
    (∃ k store', NextIds.CounterIs b metaNodeIdKey store k ∧
        addNode cs b store node = .ok ({ node with id := k }, store') ∧
        NextIds.CounterIs b metaNodeIdKey store' (k + 1)) := by
  obtain ⟨k, hk⟩ := h.counterIs hid (by decide : metaDatabaseIdKey ∈ idTypes)
  obtain ⟨j, hj⟩ := h.counterIs hid (by decide : metaNodeIdKey ∈ idTypes)
  exact ⟨⟨k, batchWrite (bumped b store metaDatabaseIdKey k)
      (PutBatchBuilder.empty.putDatabase cs b { database with id := k }).build, hk,
      by rw [Schema.createDatabase, nextId_of_counterIs hk],
      counterIs_bumped_put (systemCollectionId_ne b (by decide))⟩,
    ⟨j, batchWrite (bumped b store metaNodeIdKey j)
      (PutBatchBuilder.empty.putNode cs b { node with id := j }).build, hj,
      by rw [Schema.addNode, nextId_of_counterIs hj],
      counterIs_bumped_put (systemCollectionId_ne b (by decide))⟩⟩

/-- After `try_bootstrap` a cluster id is stored, whether or not it was before. -/
theorem clusterId_isSome_tryBootstrap (addr : String) (clusterId : Bytes) :
    (Schema.clusterId b ((SchemaOp.tryBootstrap addr clusterId).apply cs b store)).isSome := by
  simp only [SchemaOp.apply, Schema.tryBootstrap]
  rcases hc : Schema.clusterId b store with _ | existClusterId
  · exact isSome_get_batchWrite (.inr (mem_bootstrapBatch (.inl rfl)))
  · dsimp only
    split_ifs <;> simp [hc]

end

/-! ## Every run from the empty store -/

section

variable (cs : Codecs) (b : BootstrapIds)

/-- **The catalogue's invariant holds on every store the schema's methods reach from the empty
store.** -/
theorem catalogue_run (ops : List SchemaOp) : Catalogue cs b (SchemaOp.run cs b ∅ ops) :=
  catalogue_empty.reflTransGen (SchemaOp.run_writes ops)

/-- **Reads never fail.**  On every store the schema's methods reach from the empty store,
`get_database`, `get_collection`, `get_node` and `get_group` never fail to decode, and what they
find is filed under the name or id asked for: a database of that name, a collection of that name
in the database asked under, a node or a group of that id. -/
theorem reads_run (ops : List SchemaOp) (database name : String) (id : UInt64) :
    (getDatabase cs b (SchemaOp.run cs b ∅ ops) name = .ok none ∨
      ∃ d, getDatabase cs b (SchemaOp.run cs b ∅ ops) name = .ok (some d) ∧
        asBytes d.name = asBytes name) ∧
    (getCollection cs b (SchemaOp.run cs b ∅ ops) database name = .ok none ∨
      ∃ db c, getDatabase cs b (SchemaOp.run cs b ∅ ops) database = .ok (some db) ∧
        getCollection cs b (SchemaOp.run cs b ∅ ops) database name = .ok (some c) ∧
        c.parentId = db.id ∧ asBytes c.name = asBytes name) ∧
    (getNode cs b (SchemaOp.run cs b ∅ ops) id = .ok none ∨
      ∃ n, getNode cs b (SchemaOp.run cs b ∅ ops) id = .ok (some n) ∧ n.id = id) ∧
    (getGroup cs b (SchemaOp.run cs b ∅ ops) id = .ok none ∨
      ∃ g, getGroup cs b (SchemaOp.run cs b ∅ ops) id = .ok (some g) ∧ UInt64.ofNat g.id = id) := by
  have h : Catalogue cs b (SchemaOp.run cs b ∅ ops) :=
    catalogue_empty.reflTransGen (SchemaOp.run_writes ops)
  refine ⟨(h.databases.getDecoded _ _).imp_right fun ⟨d, hd, hk⟩ => ⟨d, hd, hk.symm⟩,
    h.getCollection database name,
    (h.nodes.getDecoded _ _).imp_right fun ⟨n, hn, hk⟩ => ⟨n, hn, (u64ToLeBytes_injective hk).symm⟩,
    (h.groups.getDecoded _ _).imp_right fun ⟨g, hg, hk⟩ => ⟨g, hg, (u64ToLeBytes_injective hk).symm⟩⟩

/-- **Lists never fail.**  On every store the schema's methods reach from the empty store,
`list_database`, `list_node`, `list_group` and `list_group_state` return `Ok`. -/
theorem lists_run (ops : List SchemaOp) :
    (∃ ds, listDatabase cs b (SchemaOp.run cs b ∅ ops) = .ok ds) ∧
    (∃ ns, listNode cs b (SchemaOp.run cs b ∅ ops) = .ok ns) ∧
    (∃ gs, listGroup cs b (SchemaOp.run cs b ∅ ops) = .ok gs) ∧
    (∃ states, listGroupState cs.replicaState b (SchemaOp.run cs b ∅ ops) = .ok states) :=
  have h : Catalogue cs b (SchemaOp.run cs b ∅ ops) :=
    catalogue_empty.reflTransGen (SchemaOp.run_writes ops)
  ⟨h.databases.listDecoded _, h.nodes.listDecoded _, h.groups.listDecoded _, h.listGroupState⟩

/-- **`list_all_events` stands or falls with `list_collection`.**  On every store the schema's
methods reach from the empty store, `list_database`, `list_group` and `list_group_state` return
`Ok`, and `list_all_events` returns what they return with whatever `list_collection` returns, or
its error. -/
theorem listAllEvents_run (ops : List SchemaOp) :
    ∃ (dbs : List DatabaseDesc) (groups : List GroupDesc) (groupStates : List GroupState),
      listDatabase cs b (SchemaOp.run cs b ∅ ops) = .ok dbs ∧
      listGroup cs b (SchemaOp.run cs b ∅ ops) = .ok groups ∧
      listGroupState cs.replicaState b (SchemaOp.run cs b ∅ ops) = .ok groupStates ∧
      listAllEvents cs b (SchemaOp.run cs b ∅ ops) = (listCollection cs b (SchemaOp.run cs b ∅ ops)).map
        fun collections => dbs.map .database ++ collections.map .collection ++ groups.map .group ++
          groupStates.map .groupState := by
  have h : Catalogue cs b (SchemaOp.run cs b ∅ ops) :=
    catalogue_empty.reflTransGen (SchemaOp.run_writes ops)
  obtain ⟨dbs, hdbs⟩ := h.databases.listDecoded "database desc"
  obtain ⟨groups, hgroups⟩ := h.groups.listDecoded "group desc"
  obtain ⟨groupStates, hstates⟩ := h.listGroupState
  refine ⟨dbs, groups, groupStates, hdbs, hgroups, hstates, ?_⟩
  simp only [listAllEvents, listDatabase, listGroup, hdbs, hgroups, hstates]
  cases listCollection cs b (SchemaOp.run cs b ∅ ops) <;> rfl

/-- **Once bootstrapped, ids never run out.**  On every store reached from the empty store by a
run that calls `try_bootstrap`, `next_id` finds its counter at some `k`, so `create_database`
and `add_node` return `Ok` with the descriptor under the id `k`, and leave the counter at
`k + 1`. -/
theorem creates_run (ops ops' : List SchemaOp) (addr : String) (clusterId : Bytes)
    (database : DatabaseDesc) (node : NodeDesc) :
    (∃ k store', NextIds.CounterIs b metaDatabaseIdKey
          (SchemaOp.run cs b ∅ (ops ++ .tryBootstrap addr clusterId :: ops')) k ∧
        createDatabase cs b (SchemaOp.run cs b ∅ (ops ++ .tryBootstrap addr clusterId :: ops'))
          database = .ok ({ database with id := k }, store') ∧
        NextIds.CounterIs b metaDatabaseIdKey store' (k + 1)) ∧
    (∃ k store', NextIds.CounterIs b metaNodeIdKey
          (SchemaOp.run cs b ∅ (ops ++ .tryBootstrap addr clusterId :: ops')) k ∧
        addNode cs b (SchemaOp.run cs b ∅ (ops ++ .tryBootstrap addr clusterId :: ops'))
          node = .ok ({ node with id := k }, store') ∧
        NextIds.CounterIs b metaNodeIdKey store' (k + 1)) := by
  have h : Catalogue cs b (SchemaOp.run cs b ∅ (ops ++ .tryBootstrap addr clusterId :: ops')) :=
    catalogue_empty.reflTransGen (SchemaOp.run_writes _)
  rw [SchemaOp.run_append, SchemaOp.run_cons] at h ⊢
  have hid : (Schema.clusterId b (SchemaOp.run cs b
      ((SchemaOp.tryBootstrap addr clusterId).apply cs b (SchemaOp.run cs b ∅ ops)) ops')).isSome :=
    clusterId_isSome_reflTransGen (SchemaOp.run_writes ops') (clusterId_isSome_tryBootstrap addr clusterId)
  exact h.creates hid database node

end

end Schema

end Sekas
