import Sekas.Root.Collection
import Sekas.Client.Replicas

/-!
# Sekas.Root.RootReplicas

`Schema::get_root_replicas` and `ReplicaNodes::move_first` of `root/schema.rs`: the nodes that
host a replica of the root group, each once, and the same list with one node swapped to the
front.  The loop fetches the descriptor of each replica's node unless the map already has an
entry under that node id, and files the descriptor under the id the descriptor itself carries.

The map is a `HashMap`, whose order the sources do not fix; the model keeps its entries in
insertion order, and every statement below is about which nodes the list holds, not their order.

* `collectNodes_ok`: the loop's invariant, the entries are the stored descriptors under their
  own ids, once each;
* `getRootReplicas_nodes`: on a schema whose node descriptors sit under their own ids,
  `get_root_replicas` returns each node of a root replica exactly once, and `move_first` brings
  any of them to the front;
* `getRootReplicas_missing_node`: a replica whose node has no descriptor fails the call with
  `InvalidData` naming the node.
-/

namespace Sekas

namespace Schema

/-- The root's `Error` as `get_root_replicas` returns it: the schema's errors, and
`GroupNotFound` when the root group has no descriptor. -/
inductive RootError where
  | schema (e : ServerError)
  | groupNotFound (groupId : UInt64)
  deriving DecidableEq, Repr

section

variable (cs : Codecs) (b : BootstrapIds) (store : RootStore)

/-- `HashMap::insert`: the entry of `id` replaced, or a new entry. -/
def insertNode (nodes : List (UInt64 × NodeDesc)) (id : UInt64) (node : NodeDesc) :
    List (UInt64 × NodeDesc) :=
  if nodes.any (·.1 = id) then nodes.map fun e => if e.1 = id then (id, node) else e
  else nodes ++ [(id, node)]

/-- The loop of `get_root_replicas` over the root group's replicas: a node the map has an entry
for is skipped; any other node's descriptor is fetched with `get_node`, or the call fails. -/
def collectNodes (nodes : List (UInt64 × NodeDesc)) :
    List ReplicaDesc → Except RootError (List (UInt64 × NodeDesc))
  | [] => .ok nodes
  | replica :: replicas =>
    let node := UInt64.ofNat replica.nodeId
    if nodes.any (·.1 = node) then collectNodes nodes replicas
    else match getNode cs b store node with
      | .error e => .error (.schema e)
      | .ok none => .error (.schema (.invalidData s!"node {node} data not found"))
      | .ok (some desc) => collectNodes (insertNode nodes desc.id desc) replicas

/-- `Schema::get_root_replicas`. -/
def getRootReplicas : Except RootError (List NodeDesc) :=
  match getGroup cs b store b.rootGroupId with
  | .error e => .error (.schema e)
  | .ok none => .error (.groupNotFound b.rootGroupId)
  | .ok (some rootDesc) => (collectNodes cs b store [] rootDesc.replicas).map fun nodes => nodes.map (·.2)

end

/-- `ReplicaNodes::move_first`: the first node with the id swapped to the front. -/
def moveFirst (nodes : List NodeDesc) (id : UInt64) : List NodeDesc :=
  match nodes.findIdx? (·.id = id) with
  | some idx => if idx ≠ 0 then swap nodes 0 idx else nodes
  | none => nodes

/-! ## The loop -/

section

variable {cs : Codecs} {b : BootstrapIds} {store : RootStore}

/-- The entries of the map: the stored descriptors, under their own ids, once each. -/
def NodesOk (cs : Codecs) (b : BootstrapIds) (store : RootStore) (nodes : List (UInt64 × NodeDesc)) :
    Prop :=
  (nodes.map (·.1)).Nodup ∧ ∀ e ∈ nodes, e.2.id = e.1 ∧ getNode cs b store e.1 = .ok (some e.2)

/-- An id with no entry gets a new entry at the end. -/
theorem insertNode_of_not_mem {nodes : List (UInt64 × NodeDesc)} {id : UInt64} {node : NodeDesc}
    (h : id ∉ nodes.map (·.1)) : insertNode nodes id node = nodes ++ [(id, node)] := by
  rw [insertNode, if_neg]
  intro hany
  obtain ⟨e, he, heq⟩ := List.any_eq_true.mp hany
  exact h (List.mem_map.mpr ⟨e, he, of_decide_eq_true heq⟩)

/-- **The loop's invariant.**  On a schema whose node descriptors sit under their own ids, and
where every replica's node has one, the loop succeeds, keeps the entries the stored descriptors
once each, and adds exactly the replicas' node ids. -/
theorem collectNodes_ok (hw : ∀ n d, getNode cs b store n = .ok (some d) → d.id = n) :
    ∀ (replicas : List ReplicaDesc) (nodes : List (UInt64 × NodeDesc)),
      (∀ r ∈ replicas, ∃ d, getNode cs b store (UInt64.ofNat r.nodeId) = .ok (some d)) →
      NodesOk cs b store nodes →
      ∃ nodes', collectNodes cs b store nodes replicas = .ok nodes' ∧ NodesOk cs b store nodes' ∧
        ∀ id, id ∈ nodes'.map (·.1) ↔
          id ∈ nodes.map (·.1) ∨ ∃ r ∈ replicas, UInt64.ofNat r.nodeId = id
  | [], nodes, _, hok => ⟨nodes, rfl, hok, by simp⟩
  | r :: replicas, nodes, hall, hok => by
    have hrest := fun r' hr' => hall r' (List.mem_cons_of_mem r hr')
    by_cases hmem : (UInt64.ofNat r.nodeId) ∈ nodes.map (·.1)
    · have hany : nodes.any (·.1 = UInt64.ofNat r.nodeId) = true := by
        simpa [List.any_eq_true] using hmem
      obtain ⟨nodes', h, hok', hids⟩ := collectNodes_ok hw replicas nodes hrest hok
      refine ⟨nodes', by rw [collectNodes, if_pos hany, h], hok', fun id => ?_⟩
      rw [hids, List.exists_mem_cons_iff]
      constructor
      · exact fun h => h.imp_right .inr
      · rintro (h | rfl | h)
        exacts [.inl h, .inl hmem, .inr h]
    · have hany : nodes.any (·.1 = UInt64.ofNat r.nodeId) = false := by
        simpa [List.any_eq_false] using fun e he heq => hmem (List.mem_map.mpr ⟨e, he, heq⟩)
      obtain ⟨d, hd⟩ := hall r (List.mem_cons_self r replicas)
      have hid := hw _ _ hd
      have hok₁ : NodesOk cs b store (nodes ++ [(d.id, d)]) := by
        refine ⟨?_, fun e he => ?_⟩
        · rw [List.map_append, List.nodup_append]
          exact ⟨hok.1, List.nodup_singleton _, by simpa [hid] using hmem⟩
        · rcases List.mem_append.mp he with he | he
          · exact hok.2 e he
          · rw [List.mem_singleton.mp he, hid]
            exact ⟨rfl, hd⟩
      obtain ⟨nodes', h, hok', hids⟩ := collectNodes_ok hw replicas _ hrest hok₁
      refine ⟨nodes', ?_, hok', fun id => ?_⟩
      · rw [collectNodes, if_neg (by simp [hany]), hd]
        show collectNodes cs b store (insertNode nodes d.id d) replicas = .ok nodes'
        rw [insertNode_of_not_mem (hid ▸ hmem)]
        exact h
      · rw [hids, hid]
        simp only [List.map_append, List.map_cons, List.map_nil, List.mem_append,
          List.mem_singleton, List.exists_mem_cons_iff, or_assoc]
        exact or_congr_right (or_congr_left eq_comm)

/-- The loop over two lists of replicas is the loop over the first, then over the second. -/
theorem collectNodes_append (nodes : List (UInt64 × NodeDesc)) :
    ∀ l₁ l₂ : List ReplicaDesc, collectNodes cs b store nodes (l₁ ++ l₂) =
      (collectNodes cs b store nodes l₁).bind fun nodes => collectNodes cs b store nodes l₂
  | [], _ => rfl
  | r :: l₁, l₂ => by
    simp only [List.cons_append, collectNodes]
    split
    · exact collectNodes_append nodes l₁ l₂
    · split
      · rfl
      · rfl
      · exact collectNodes_append _ l₁ l₂

/-- `move_first` of an id the list holds: that node in front, the list permuted. -/
theorem moveFirst_spec {nodes : List NodeDesc} {id : UInt64} (h : id ∈ nodes.map (·.id)) :
    (moveFirst nodes id).head?.map (·.id) = some id ∧ List.Perm (moveFirst nodes id) nodes := by
  rcases hf : nodes.findIdx? (·.id = id) with _ | j
  · obtain ⟨n, hn, rfl⟩ := List.mem_map.mp h
    simpa using List.findIdx?_eq_none_iff.mp hf n hn
  · obtain ⟨hj, hjx, -⟩ := List.findIdx?_eq_some_iff_getElem.mp hf
    have hmove : moveFirst nodes id = swap nodes 0 j := by
      rw [moveFirst, hf]
      dsimp only
      split_ifs with hj0
      · rfl
      · rw [show j = 0 by simpa using hj0, swap_zero_zero]
    rw [hmove, List.head?_eq_getElem?, getElem?_zero_swap_zero hj, List.getElem?_eq_getElem hj]
    exact ⟨by simpa using hjx, perm_swap_zero hj⟩

/-- `get_node` reads back what `put_node` wrote last. -/
theorem getNode_batchWrite_putNode {builder : PutBatchBuilder} {d : NodeDesc} {n : UInt64} :
    getNode cs b (store.batchWrite (builder.putNode cs b d).build) n =
      if d.id = n then .ok (some d) else getNode cs b (store.batchWrite builder.build) n := by
  simp only [getNode, getDecoded, PutBatchBuilder.putNode, get_batchWrite_put, true_and]
  by_cases h : d.id = n
  · subst h
    simp [cs.node.decode_encode]
  · rw [if_neg fun h' => h (u64ToLeBytes_injective h'), if_neg h]

/-- `get_node` does not see what `put_group` writes. -/
theorem getNode_batchWrite_putGroup {builder : PutBatchBuilder} {g : GroupDesc} {n : UInt64} :
    getNode cs b (store.batchWrite (builder.putGroup cs b g).build) n =
      getNode cs b (store.batchWrite builder.build) n := by
  have hne : systemGroupCollectionId b ≠ systemNodeCollectionId b := systemCollectionId_ne b (by decide)
  simp only [getNode, getDecoded, PutBatchBuilder.putGroup, get_batchWrite_put, hne, false_and,
    if_false]

/-- **One entry per root node.**  On a schema whose node descriptors sit under their own ids,
when the root group is known and each of its replicas' nodes has a descriptor,
`get_root_replicas` returns the stored descriptors of exactly the nodes hosting a root replica,
each once, whatever the number of replicas per node; and `move_first` of any of their ids puts
that node in front of a permutation of the list. -/
theorem getRootReplicas_nodes (rootDesc : GroupDesc)
    (hroot : getGroup cs b store b.rootGroupId = .ok (some rootDesc))
    (hw : ∀ n d, getNode cs b store n = .ok (some d) → d.id = n)
    (hall : ∀ r ∈ rootDesc.replicas, ∃ d, getNode cs b store (UInt64.ofNat r.nodeId) = .ok (some d)) :
    ∃ nodes, getRootReplicas cs b store = .ok nodes ∧ (nodes.map (·.id)).Nodup ∧
      (∀ id, id ∈ nodes.map (·.id) ↔ ∃ r ∈ rootDesc.replicas, UInt64.ofNat r.nodeId = id) ∧
      (∀ n ∈ nodes, getNode cs b store n.id = .ok (some n)) ∧
      ∀ id ∈ nodes.map (·.id),
        (moveFirst nodes id).head?.map (·.id) = some id ∧ List.Perm (moveFirst nodes id) nodes := by
  obtain ⟨nodes', h, ⟨hnd, hent⟩, hids⟩ :=
    collectNodes_ok hw rootDesc.replicas [] hall ⟨List.nodup_nil, fun _ h => (by cases h)⟩
  have hkeys : (nodes'.map (·.2)).map (·.id) = nodes'.map (·.1) := by
    rw [List.map_map]
    exact List.map_congr_left fun e he => (hent e he).1
  refine ⟨nodes'.map (·.2), by rw [getRootReplicas, hroot]; dsimp only; rw [h]; rfl, hkeys ▸ hnd,
    fun id => by rw [hkeys, hids]; simp, fun n hn => ?_, fun id _ => moveFirst_spec ‹_›⟩
  obtain ⟨e, he, rfl⟩ := List.mem_map.mp hn
  rw [(hent e he).1]
  exact (hent e he).2

/-- A root group with replicas `1` and `3` on node `1` and replica `2` on node `2`. -/
def rootGroup : GroupDesc := ⟨0, 1, [⟨1, 1⟩, ⟨2, 2⟩, ⟨3, 1⟩], []⟩

/-- The root group's descriptor, and the descriptors of nodes `1` and `2` when `withNode2`. -/
def rootStore (withNode2 : Bool) : RootStore :=
  batchWrite ∅ (if withNode2 then
      ((PutBatchBuilder.empty.putGroup exampleCodecs exampleIds rootGroup).putNode exampleCodecs
        exampleIds ⟨1, ""⟩).putNode exampleCodecs exampleIds ⟨2, ""⟩
    else (PutBatchBuilder.empty.putGroup exampleCodecs exampleIds rootGroup).putNode exampleCodecs
        exampleIds ⟨1, ""⟩).build

/-- Every node descriptor of `rootStore` sits under its own id. -/
theorem rootStore_wellFormed (withNode2 : Bool) (n : UInt64) (d : NodeDesc)
    (h : getNode exampleCodecs exampleIds (rootStore withNode2) n = .ok (some d)) : d.id = n := by
  have hnone : getNode exampleCodecs exampleIds (RootStore.batchWrite ∅
      (PutBatchBuilder.empty.putGroup exampleCodecs exampleIds rootGroup).build) n = .ok none := by
    rw [getNode_batchWrite_putGroup]
    rfl
  cases withNode2 <;>
    simp only [rootStore, Bool.false_eq_true, if_false, if_true, batchWrite, getNode_batchWrite_putNode,
      hnone] at h <;>
    split_ifs at h <;> cases h <;> simp_all

/-- `get_root_replicas` on the root group with two replicas on node `1`: nodes `1` and `2`, once
each. -/
theorem getRootReplicas_nodes_rootStore :
    getGroup exampleCodecs exampleIds (rootStore true) exampleIds.rootGroupId = .ok (some rootGroup) ∧
      (∀ n d, getNode exampleCodecs exampleIds (rootStore true) n = .ok (some d) → d.id = n) ∧
      (∀ r ∈ rootGroup.replicas, ∃ d,
        getNode exampleCodecs exampleIds (rootStore true) (UInt64.ofNat r.nodeId) = .ok (some d)) ∧
      ∃ nodes, getRootReplicas exampleCodecs exampleIds (rootStore true) = .ok nodes ∧
        (nodes.map (·.id)).Nodup ∧
        (∀ id, id ∈ nodes.map (·.id) ↔ ∃ r ∈ rootGroup.replicas, UInt64.ofNat r.nodeId = id) ∧
        (∀ n ∈ nodes, getNode exampleCodecs exampleIds (rootStore true) n.id = .ok (some n)) ∧
        ∀ id ∈ nodes.map (·.id),
          (moveFirst nodes id).head?.map (·.id) = some id ∧ List.Perm (moveFirst nodes id) nodes :=
  have hall : ∀ r ∈ rootGroup.replicas, ∃ d,
      getNode exampleCodecs exampleIds (rootStore true) (UInt64.ofNat r.nodeId) = .ok (some d) := by
    intro r hr
    simp only [rootGroup, List.mem_cons, List.mem_singleton, List.not_mem_nil, or_false] at hr
    rcases hr with rfl | rfl | rfl <;> exact ⟨_, rfl⟩
  ⟨rfl, rootStore_wellFormed true, hall,
    getRootReplicas_nodes rootGroup rfl (rootStore_wellFormed true) hall⟩

/-- **A node without a descriptor fails the call.**  When the first replica whose node the loop
has not met has no node descriptor, `get_root_replicas` fails with `InvalidData` naming that
node. -/
theorem getRootReplicas_missing_node (rootDesc : GroupDesc) (pre post : List ReplicaDesc)
    (r : ReplicaDesc) (hroot : getGroup cs b store b.rootGroupId = .ok (some rootDesc))
    (hw : ∀ n d, getNode cs b store n = .ok (some d) → d.id = n)
    (hreplicas : rootDesc.replicas = pre ++ r :: post)
    (hpre : ∀ r' ∈ pre, ∃ d, getNode cs b store (UInt64.ofNat r'.nodeId) = .ok (some d))
    (hnew : ∀ r' ∈ pre, UInt64.ofNat r'.nodeId ≠ UInt64.ofNat r.nodeId)
    (hr : getNode cs b store (UInt64.ofNat r.nodeId) = .ok none) :
    getRootReplicas cs b store =
      .error (.schema (.invalidData s!"node {UInt64.ofNat r.nodeId} data not found")) := by
  obtain ⟨nodes', h, -, hids⟩ :=
    collectNodes_ok hw pre [] hpre ⟨List.nodup_nil, fun _ h => (by cases h)⟩
  have hmem : UInt64.ofNat r.nodeId ∉ nodes'.map (·.1) := by
    rw [hids]
    rintro (h | ⟨r', hr', heq⟩)
    · cases h
    · exact hnew r' hr' heq
  have hany : nodes'.any (·.1 = UInt64.ofNat r.nodeId) = false := by
    simpa [List.any_eq_false] using fun e he heq => hmem (List.mem_map.mpr ⟨e, he, heq⟩)
  rw [getRootReplicas, hroot]
  dsimp only
  rw [hreplicas, collectNodes_append, h]
  simp only [Except.bind, collectNodes, hany, hr]
  rfl

/-- Without node `2`'s descriptor, `get_root_replicas` fails naming node `2`. -/
theorem getRootReplicas_missing_node_rootStore :
    getGroup exampleCodecs exampleIds (rootStore false) exampleIds.rootGroupId = .ok (some rootGroup) ∧
      (∀ n d, getNode exampleCodecs exampleIds (rootStore false) n = .ok (some d) → d.id = n) ∧
      rootGroup.replicas = [⟨1, 1⟩] ++ ⟨2, 2⟩ :: [⟨3, 1⟩] ∧
      (∀ r' ∈ [(⟨1, 1⟩ : ReplicaDesc)], ∃ d,
        getNode exampleCodecs exampleIds (rootStore false) (UInt64.ofNat r'.nodeId) = .ok (some d)) ∧
      (∀ r' ∈ [(⟨1, 1⟩ : ReplicaDesc)], UInt64.ofNat r'.nodeId ≠ UInt64.ofNat 2) ∧
      getNode exampleCodecs exampleIds (rootStore false) (UInt64.ofNat 2) = .ok none ∧
      getRootReplicas exampleCodecs exampleIds (rootStore false) =
        .error (.schema (.invalidData s!"node {UInt64.ofNat 2} data not found")) :=
  have hpre : ∀ r' ∈ [(⟨1, 1⟩ : ReplicaDesc)], ∃ d,
      getNode exampleCodecs exampleIds (rootStore false) (UInt64.ofNat r'.nodeId) = .ok (some d) := by
    intro r' hr'
    rw [List.mem_singleton.mp hr']
    exact ⟨_, rfl⟩
  have hnew : ∀ r' ∈ [(⟨1, 1⟩ : ReplicaDesc)], UInt64.ofNat r'.nodeId ≠ UInt64.ofNat 2 := by decide
  ⟨rfl, rootStore_wellFormed false, rfl, hpre, hnew, rfl,
    getRootReplicas_missing_node rootGroup [⟨1, 1⟩] [⟨3, 1⟩] ⟨2, 2⟩ rfl (rootStore_wellFormed false)
      rfl hpre hnew rfl⟩

end

end Schema

end Sekas
