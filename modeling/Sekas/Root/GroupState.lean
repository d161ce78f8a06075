import Sekas.Root.Schema

/-!
# Sekas.Root.GroupState

`Schema::list_group_state`: the replica states of the replica-state collection, gathered by
group into a `HashMap<u64, GroupState>`.  Each state, in the order `list` returns them, either
opens its group's entry or updates it: a Leader-role state names its replica the leader, and
the state replaces any earlier one of the same replica.  So a group's leader is its Leader-role
state listed *last*, whatever the terms.  The store lists in the byte order of the keys, and
`replica_key` is the group id's little-endian bytes then the replica id's, so a stale
Leader-role state whose key sorts after the current leader's wins over it.  A value that does
not decode fails the whole call.

The `HashMap` is the list of its entries in insertion order.  `into_iter` walks it in an order
of its own; the results here do not depend on that order.

* `updateEntry_of_not_mem`, `updateEntry_of_mem`: the two arms of the `entry` match;
* `GroupsOf`: what the map holds after a prefix of the listing, with `GroupsOf.step` for one
  more state and `GroupsOf.foldl` for the rest;
* `listGroupState_groups`: what `list_group_state` returns for states with distinct keys, and
  that it fails on a value that does not decode.
-/

namespace Sekas

/-- `GroupState`. -/
structure GroupState where
  groupId : UInt64
  leaderId : Option UInt64
  replicas : List ReplicaState
  deriving DecidableEq, Repr

namespace GroupState

/-- The `Vacant` arm of `list_group_state`: a group's first state opens its entry. -/
def ofState (state : ReplicaState) : GroupState :=
  ⟨state.groupId, if state.role = .leader then some state.replicaId else none, [state]⟩

/-- The `Occupied` arm of `list_group_state`: one more state of the group. -/
def applyState (group : GroupState) (state : ReplicaState) : GroupState :=
  { group with
    leaderId :=
      if state.role = .leader then some state.replicaId
      else if group.leaderId = some state.replicaId then none
      else group.leaderId
    replicas := (group.replicas.filter fun desc => desc.replicaId ≠ state.replicaId) ++ [state] }

end GroupState

/-- `states.entry(state.group_id)` and the match on it, on the map's entries. -/
def updateEntry : List (UInt64 × GroupState) → ReplicaState → List (UInt64 × GroupState)
  | [], state => [(state.groupId, GroupState.ofState state)]
  | (groupId, group) :: states, state =>
    if groupId = state.groupId then (groupId, group.applyState state) :: states
    else (groupId, group) :: updateEntry states state

namespace Schema

/-- One turn of `list_group_state`'s loop: decode the value, then enter the state. -/
def enterValue (codec : Codec ReplicaState) (states : List (UInt64 × GroupState)) (val : Bytes) :
    Except ServerError (List (UInt64 × GroupState)) :=
  match codec.decode val with
  | some state => .ok (updateEntry states state)
  | none => .error (.invalidData "replica state desc")

/-- `Schema::list_group_state`; `ReplicaState::decode` is `codec.decode`, the only encoding it
reads. -/
def listGroupState (codec : Codec ReplicaState) (b : BootstrapIds) (store : RootStore) :
    Except ServerError (List GroupState) := do
  let vals := list store (systemReplicaStateCollectionId b)
  let states ← vals.foldlM (enterValue codec) []
  pure (states.map (·.2))

end Schema

/-! ## The two arms -/

section Entry

variable {m : List (UInt64 × GroupState)} {state : ReplicaState}

/-- A group not in the map gets a new entry at the end. -/
theorem updateEntry_of_not_mem (h : state.groupId ∉ m.map (·.1)) :
    updateEntry m state = m ++ [(state.groupId, GroupState.ofState state)] := by
  induction m with
  | nil => rfl
  | cons p m ih =>
    simp only [List.map_cons, List.mem_cons, not_or] at h
    rw [updateEntry, if_neg (Ne.symm h.1), ih h.2]
    rfl

/-- A group in the map, whose groups are distinct, has its entry updated in place. -/
theorem updateEntry_of_mem (hnd : (m.map (·.1)).Nodup) (h : state.groupId ∈ m.map (·.1)) :
    updateEntry m state =
      m.map fun p => if p.1 = state.groupId then (p.1, p.2.applyState state) else p := by
  induction m with
  | nil => cases h
  | cons p m ih =>
    obtain ⟨hp, hnd⟩ := List.nodup_cons.mp hnd
    by_cases hg : p.1 = state.groupId
    · have hrest : (m.map fun p => if p.1 = state.groupId then (p.1, p.2.applyState state) else p)
          = m := (List.map_congr_left fun q hq =>
            if_neg fun hq' => hp (List.mem_map.mpr ⟨q, hq, hq'.trans hg.symm⟩)).trans (List.map_id m)
      rw [updateEntry, if_pos hg, List.map_cons, if_pos hg, hrest]
    · have hm : state.groupId ∈ m.map (·.1) :=
        (List.mem_cons.mp h).resolve_left fun h' => hg h'.symm
      rw [updateEntry, if_neg hg, List.map_cons, if_neg hg, ih hnd hm]

end Entry

/-! ## What the map holds -/

/-- What a listing says of a group: its states in listing order, and the replica of its last
Leader-role state. -/
def groupOf (states : List ReplicaState) (groupId : UInt64) : GroupState :=
  ⟨groupId,
    (((states.filter (·.groupId = groupId)).filter (·.role = .leader)).getLast?).map (·.replicaId),
    states.filter (·.groupId = groupId)⟩

section GroupOf

variable {states : List ReplicaState} {s : ReplicaState}

/-- A state of another group leaves a group as it was. -/
theorem groupOf_append_of_ne {g : UInt64} (h : s.groupId ≠ g) :
    groupOf (states ++ [s]) g = groupOf states g := by
  simp [groupOf, List.filter_append, h]

/-- The first state of a group is what the `Vacant` arm enters. -/
theorem groupOf_append_new (h : ∀ t ∈ states, t.groupId ≠ s.groupId) :
    groupOf (states ++ [s]) s.groupId = GroupState.ofState s := by
  have hnil : states.filter (·.groupId = s.groupId) = [] :=
    List.filter_eq_nil_iff.mpr fun t ht => by simpa using h t ht
  cases hr : s.role <;> simp [groupOf, GroupState.ofState, List.filter_append, hnil, hr]

/-- A later state of a group, of a replica the group has no state of yet, is what the
`Occupied` arm enters: its `retain` removes nothing, and the leader is cleared only for a
replica the group already has. -/
theorem groupOf_append_self (h : ∀ t ∈ states, t.groupId = s.groupId → t.replicaId ≠ s.replicaId) :
    groupOf (states ++ [s]) s.groupId = (groupOf states s.groupId).applyState s := by
  have hkeep : ((states.filter (·.groupId = s.groupId)).filter fun d => d.replicaId ≠ s.replicaId) =
      states.filter (·.groupId = s.groupId) :=
    List.filter_eq_self.mpr fun t ht => by
      simp only [List.mem_filter, decide_eq_true_eq] at ht
      simpa using h t ht.1 ht.2
  have hlast : (((states.filter (·.groupId = s.groupId)).filter (·.role = .leader)).getLast?).map
      (·.replicaId) ≠ some s.replicaId := by
    intro hl
    obtain ⟨t, ht, hts⟩ := Option.map_eq_some'.mp hl
    have := List.mem_of_getLast?_eq_some ht
    simp only [List.mem_filter, decide_eq_true_eq] at this
    exact h t this.1.1 this.1.2 hts
  have hG : (states ++ [s]).filter (·.groupId = s.groupId) =
      states.filter (·.groupId = s.groupId) ++ [s] := by
    simp [List.filter_append]
  unfold groupOf
  rw [hG]
  cases hr : s.role with
  | leader =>
    have hL : (states.filter (·.groupId = s.groupId) ++ [s]).filter (·.role = .leader) =
        (states.filter (·.groupId = s.groupId)).filter (·.role = .leader) ++ [s] := by
      simp [List.filter_append, hr]
    simp only [GroupState.applyState, hL, hkeep, hr, List.getLast?_concat, Option.map_some',
      if_true]
  | other =>
    have hL : (states.filter (·.groupId = s.groupId) ++ [s]).filter (·.role = .leader) =
        (states.filter (·.groupId = s.groupId)).filter (·.role = .leader) := by
      simp [List.filter_append, hr]
    simp only [GroupState.applyState, hL, hkeep, hr, if_neg hlast, reduceCtorEq, if_false]

end GroupOf

/-- **The map after a prefix of the listing**: one entry per group of the prefix, each the
group's `groupOf`. -/
structure GroupsOf (states : List ReplicaState) (m : List (UInt64 × GroupState)) : Prop where
  nodup : (m.map (·.1)).Nodup
  mem_keys : ∀ g, g ∈ m.map (·.1) ↔ ∃ s ∈ states, s.groupId = g
  eq_groupOf : ∀ p ∈ m, p.2 = groupOf states p.1

theorem groupsOf_nil : GroupsOf [] [] := ⟨List.nodup_nil, by simp, by simp⟩

section Steps

variable {states : List ReplicaState} {m : List (UInt64 × GroupState)} {s : ReplicaState}

/-- **One state.**  Entering a state of a replica the listing had no state of keeps the map
what the listing says. -/
theorem GroupsOf.step (hinv : GroupsOf states m)
    (hfresh : ∀ t ∈ states, t.groupId = s.groupId → t.replicaId ≠ s.replicaId) :
    GroupsOf (states ++ [s]) (updateEntry m s) := by
  have hkeys : ∀ g, (∃ t ∈ states ++ [s], t.groupId = g) ↔
      (∃ t ∈ states, t.groupId = g) ∨ s.groupId = g := by
    simp [or_and_right, exists_or]
  by_cases hmem : s.groupId ∈ m.map (·.1)
  · -- the `Occupied` arm
    rw [updateEntry_of_mem hinv.nodup hmem]
    have hfst : (m.map fun p => if p.1 = s.groupId then (p.1, p.2.applyState s) else p).map (·.1)
        = m.map (·.1) := by
      rw [List.map_map]
      exact List.map_congr_left fun p _ => by simp only [Function.comp_apply]; split <;> rfl
    refine ⟨hfst ▸ hinv.nodup, fun g => ?_, fun p hp => ?_⟩
    · rw [hfst, hinv.mem_keys, hkeys, or_iff_left_of_imp]
      rintro rfl
      exact (hinv.mem_keys _).mp hmem
    · obtain ⟨q, hq, rfl⟩ := List.mem_map.mp hp
      by_cases hg : q.1 = s.groupId
      · rw [if_pos hg]
        show q.2.applyState s = groupOf (states ++ [s]) q.1
        rw [hinv.eq_groupOf q hq, hg, groupOf_append_self hfresh]
      · rw [if_neg hg, groupOf_append_of_ne (Ne.symm hg)]
        exact hinv.eq_groupOf q hq
  · -- the `Vacant` arm
    rw [updateEntry_of_not_mem hmem]
    have hnew : ∀ t ∈ states, t.groupId ≠ s.groupId := fun t ht h =>
      hmem ((hinv.mem_keys _).mpr ⟨t, ht, h⟩)
    refine ⟨?_, fun g => ?_, fun p hp => ?_⟩
    · rw [List.map_append, List.map_singleton]
      exact List.nodup_append.mpr ⟨hinv.nodup, List.nodup_singleton _, List.disjoint_singleton.mpr hmem⟩
    · rw [List.map_append, List.mem_append, hinv.mem_keys, hkeys, List.map_singleton,
        List.mem_singleton, eq_comm]
    · rcases List.mem_append.mp hp with hp | hp
      · have hne : s.groupId ≠ p.1 := fun h => hmem (h ▸ List.mem_map_of_mem _ hp)
        rw [groupOf_append_of_ne hne]
        exact hinv.eq_groupOf p hp
      · rw [List.mem_singleton.mp hp]
        exact (groupOf_append_new hnew).symm

/-- **The rest of the listing.**  Entering the rest of a listing whose states have distinct
keys keeps the map what the listing says. -/
theorem GroupsOf.foldl : ∀ (rest : List ReplicaState) {states : List ReplicaState}
    {m : List (UInt64 × GroupState)}, GroupsOf states m →
    ((states ++ rest).map fun t => (t.groupId, t.replicaId)).Nodup →
    GroupsOf (states ++ rest) (rest.foldl updateEntry m)
  | [], _, _, h, _ => by simpa using h
  | s :: rest, states, m, h, hnd => by
    rw [List.map_append] at hnd
    have hfresh : ∀ t ∈ states, t.groupId = s.groupId → t.replicaId ≠ s.replicaId :=
      fun t ht hg hr => (List.nodup_append.mp hnd).2.2 (List.mem_map_of_mem _ ht)
        (List.mem_map.mpr ⟨s, List.mem_cons_self s rest, by rw [hg, hr]⟩)
    rw [List.foldl_cons, show states ++ s :: rest = (states ++ [s]) ++ rest by simp]
    exact GroupsOf.foldl rest (h.step hfresh) (by simpa using hnd)

end Steps

/-! ## The loop -/

namespace Schema

section

variable {codec : Codec ReplicaState} {b : BootstrapIds} {store : RootStore}

/-- The loop over values that all decode enters their states in order. -/
theorem foldlM_enterValue :
    ∀ {vals : List Bytes} {states : List ReplicaState} (m : List (UInt64 × GroupState)),
      vals.map codec.decode = states.map some →
      vals.foldlM (enterValue codec) m = .ok (states.foldl updateEntry m)
  | [], [], _, _ => rfl
  | val :: vals, state :: states, m, h => by
    simp only [List.map_cons, List.cons.injEq] at h
    rw [List.foldlM_cons, enterValue, h.1]
    exact foldlM_enterValue _ h.2
  | [], _ :: _, _, h | _ :: _, [], _, h => by cases h

/-- The loop fails at a value that does not decode, whatever the values before it. -/
theorem foldlM_enterValue_undecodable :
    ∀ {vals : List Bytes} (m : List (UInt64 × GroupState)),
      (∃ val ∈ vals, codec.decode val = none) →
      vals.foldlM (enterValue codec) m = .error (.invalidData "replica state desc")
  | [], _, ⟨_, hv, _⟩ => absurd hv (List.not_mem_nil _)
  | val :: vals, m, ⟨v, hv, hd⟩ => by
    rw [List.foldlM_cons, enterValue]
    cases hval : codec.decode val with
    | none => rfl
    | some state =>
      have hrest : ∃ v ∈ vals, codec.decode v = none := by
        rcases List.mem_cons.mp hv with rfl | hv
        · rw [hval] at hd
          cases hd
        · exact ⟨v, hv, hd⟩
      exact foldlM_enterValue_undecodable _ hrest

/-! ## A codec to run the listing on -/

/-- Read a little-endian `u64` off the front of a byte string. -/
def readU64 (bytes : Bytes) : Option (UInt64 × Bytes) :=
  (u64FromLeBytes (bytes.take 8)).map fun x => (x, bytes.drop 8)

/-- Reading back a written `u64` leaves the rest. -/
theorem readU64_append (x : UInt64) (rest : Bytes) :
    readU64 (u64ToLeBytes x ++ rest) = some (x, rest) := by
  simp [readU64, List.take_left' (length_u64ToLeBytes x), List.drop_left' (length_u64ToLeBytes x)]

/-- A fixed-width encoding of `ReplicaState`: its four ids as little-endian `u64`s, then its
role as one byte. -/
def fixedReplicaStateCodec : Codec ReplicaState where
  encode s := u64ToLeBytes s.replicaId ++ (u64ToLeBytes s.groupId ++ (u64ToLeBytes s.term ++
    (u64ToLeBytes s.votedFor ++ [if s.role = .leader then 1 else 0])))
  decode bytes := do
    let (replicaId, bytes) ← readU64 bytes
    let (groupId, bytes) ← readU64 bytes
    let (term, bytes) ← readU64 bytes
    let (votedFor, bytes) ← readU64 bytes
    pure ⟨replicaId, groupId, term, votedFor, if bytes = [1] then .leader else .other⟩
  decode_encode := fun ⟨_, _, _, _, role⟩ => by cases role <;> simp [readU64_append]

/-- Bootstrap constants to list under. -/
def exampleIds : BootstrapIds := ⟨0, 0, 0, 0, 0, 0, [], []⟩

/-! ## Two Leader-role states of one group -/

/-- Replica `1` of group `1`, leader at term `5`. -/
def newLeader : ReplicaState := ⟨1, 1, 5, 1, .leader⟩

/-- Replica `2` of group `1`, whose state still says leader, from term `3`. -/
def staleLeader : ReplicaState := ⟨2, 1, 3, 2, .leader⟩

/-- A store whose replica-state collection holds the two states, written by one batch as
`put_replica_state` writes them. -/
def twoLeadersStore (codec : Codec ReplicaState) (b : BootstrapIds) : RootStore :=
  RootStore.batchWrite ∅
    [⟨dataKey (systemReplicaStateCollectionId b) (replicaKey 1 2), codec.encode staleLeader⟩,
     ⟨dataKey (systemReplicaStateCollectionId b) (replicaKey 1 1), codec.encode newLeader⟩]

/-- The store lists replica `1`'s state, then replica `2`'s: their keys first differ in the
replica id's low byte. -/
theorem list_twoLeadersStore (codec : Codec ReplicaState) (b : BootstrapIds) :
    list (twoLeadersStore codec b) (systemReplicaStateCollectionId b) =
      [codec.encode newLeader, codec.encode staleLeader] := by
  have hne : dataKey (systemReplicaStateCollectionId b) (replicaKey 1 1) ≠
      dataKey (systemReplicaStateCollectionId b) (replicaKey 1 2) := fun h =>
    absurd (dataKey_inj.mp h).2 (by decide)
  have hkeys : (twoLeadersStore codec b).keys = [dataKey (systemReplicaStateCollectionId b)
      (replicaKey 1 1), dataKey (systemReplicaStateCollectionId b) (replicaKey 1 2)] := by
    simp [twoLeadersStore, RootStore.batchWrite, AList.keys_insert, List.erase_cons, hne.symm]
  have hscan : RootStore.ScanOrder (dataKey (systemReplicaStateCollectionId b) (replicaKey 1 1))
      (dataKey (systemReplicaStateCollectionId b) (replicaKey 1 2)) := by
    simp only [RootStore.ScanOrder, dataKey, bytesLt_append_left]
    decide
  have hpfx : ∀ key, (u64ToLeBytes (systemReplicaStateCollectionId b)).isPrefixOf
      (dataKey (systemReplicaStateCollectionId b) key) = true := fun key =>
    isPrefixOf_iff.mpr ⟨key, rfl⟩
  have hnew : (twoLeadersStore codec b).get (dataKey (systemReplicaStateCollectionId b)
      (replicaKey 1 1)) = some (codec.encode newLeader) := by
    simp [twoLeadersStore, RootStore.get_batchWrite]
  have hstale : (twoLeadersStore codec b).get (dataKey (systemReplicaStateCollectionId b)
      (replicaKey 1 2)) = some (codec.encode staleLeader) := by
    simp [twoLeadersStore, RootStore.get_batchWrite, hne]
  simp [list, RootStore.list, hkeys, hpfx, List.orderedInsert, hscan, hnew, hstale]

/-- Under any encoding, the two-leader store lists group `1` with replica `2` as its leader. -/
theorem listGroupState_twoLeadersStore (codec : Codec ReplicaState) (b : BootstrapIds) :
    listGroupState codec b (twoLeadersStore codec b) =
      .ok [⟨1, some 2, [newLeader, staleLeader]⟩] := by
  have hdecode : [codec.encode newLeader, codec.encode staleLeader].map codec.decode =
      [newLeader, staleLeader].map some := by
    simp [codec.decode_encode]
  simp only [listGroupState, list_twoLeadersStore, foldlM_enterValue _ hdecode]
  rfl

/-! ## What `list_group_state` returns -/

/-- **What `list_group_state` returns.**  When the values of the replica-state collection decode
to states with distinct `(group_id, replica_id)` keys, it returns one `GroupState` for each
group that occurs; its replicas are the group's states in listing order, and its leader is the
replica of the group's Leader-role state listed last, or none when the group has none.  When a
value does not decode, it fails with `InvalidData`. -/
theorem listGroupState_groups (codec : Codec ReplicaState) (b : BootstrapIds) (store : RootStore) :
    (∀ states : List ReplicaState,
      (list store (systemReplicaStateCollectionId b)).map codec.decode = states.map some →
      (states.map fun s => (s.groupId, s.replicaId)).Nodup →
      ∃ groups, listGroupState codec b store = .ok groups ∧
        (groups.map (·.groupId)).Nodup ∧
        (∀ g, g ∈ groups.map (·.groupId) ↔ ∃ s ∈ states, s.groupId = g) ∧
        ∀ group ∈ groups,
          group.replicas = states.filter (·.groupId = group.groupId) ∧
          group.leaderId =
            (((states.filter (·.groupId = group.groupId)).filter (·.role = .leader)).getLast?).map
              (·.replicaId)) ∧
    ((∃ val ∈ list store (systemReplicaStateCollectionId b), codec.decode val = none) →
      listGroupState codec b store = .error (.invalidData "replica state desc")) := by
  refine ⟨fun states hlist hkeys => ?_, fun hbad => ?_⟩
  · have hinv := GroupsOf.foldl states groupsOf_nil (by simpa using hkeys)
    rw [List.nil_append] at hinv
    have hfst : ((states.foldl updateEntry []).map (·.2)).map (·.groupId) =
        (states.foldl updateEntry []).map (·.1) := by
      rw [List.map_map]
      exact List.map_congr_left fun p hp => by
        simp only [Function.comp_apply, hinv.eq_groupOf p hp, groupOf]
    refine ⟨_, ?_, hfst ▸ hinv.nodup, fun g => hfst ▸ hinv.mem_keys g, fun group hg => ?_⟩
    · simp only [listGroupState, foldlM_enterValue _ hlist]
      rfl
    · obtain ⟨p, hp, rfl⟩ := List.mem_map.mp hg
      rw [hinv.eq_groupOf p hp]
      exact ⟨rfl, rfl⟩
  · simp only [listGroupState, foldlM_enterValue_undecodable _ hbad]
    rfl

/-- A store whose replica-state collection holds an empty value, which the fixed-width codec does
not decode. -/
def emptyValueStore : RootStore :=
  RootStore.batchWrite ∅ [⟨dataKey (systemReplicaStateCollectionId exampleIds) (replicaKey 1 1), []⟩]

/-- `listGroupState_groups` on the two-leader store, and on the store holding an empty value. -/
theorem listGroupState_groups_twoLeaders :
    ((list (twoLeadersStore fixedReplicaStateCodec exampleIds)
        (systemReplicaStateCollectionId exampleIds)).map fixedReplicaStateCodec.decode =
      [newLeader, staleLeader].map some ∧
    ([newLeader, staleLeader].map fun s => (s.groupId, s.replicaId)).Nodup ∧
    ∃ groups, listGroupState fixedReplicaStateCodec exampleIds
        (twoLeadersStore fixedReplicaStateCodec exampleIds) = .ok groups ∧
      (groups.map (·.groupId)).Nodup ∧
      (∀ g, g ∈ groups.map (·.groupId) ↔ ∃ s ∈ [newLeader, staleLeader], s.groupId = g) ∧
      ∀ group ∈ groups,
        group.replicas = [newLeader, staleLeader].filter (·.groupId = group.groupId) ∧
        group.leaderId =
          ((([newLeader, staleLeader].filter (·.groupId = group.groupId)).filter
            (·.role = .leader)).getLast?).map (·.replicaId)) ∧
    (∃ val ∈ list emptyValueStore (systemReplicaStateCollectionId exampleIds),
      fixedReplicaStateCodec.decode val = none) ∧
    listGroupState fixedReplicaStateCodec exampleIds emptyValueStore =
      .error (.invalidData "replica state desc") :=
  have hlist : (list (twoLeadersStore fixedReplicaStateCodec exampleIds)
      (systemReplicaStateCollectionId exampleIds)).map fixedReplicaStateCodec.decode =
      [newLeader, staleLeader].map some := by
    simp [list_twoLeadersStore, fixedReplicaStateCodec.decode_encode]
  have hkeys : ([newLeader, staleLeader].map fun s => (s.groupId, s.replicaId)).Nodup := by decide
  have hbad : ∃ val ∈ list emptyValueStore (systemReplicaStateCollectionId exampleIds),
      fixedReplicaStateCodec.decode val = none := ⟨[], by decide, rfl⟩
  ⟨⟨hlist, hkeys, (listGroupState_groups fixedReplicaStateCodec exampleIds _).1 _ hlist hkeys⟩,
    hbad, (listGroupState_groups fixedReplicaStateCodec exampleIds emptyValueStore).2 hbad⟩

/-- The leader is the Leader-role state listed last, not the one of the greatest term: with the
stale state of replica `2` listed after replica `1`'s, `list_group_state` names replica `2`. -/
theorem listGroupState_last_leader_wins :
    listGroupState fixedReplicaStateCodec exampleIds
        (twoLeadersStore fixedReplicaStateCodec exampleIds) =
      .ok [⟨1, some 2, [newLeader, staleLeader]⟩] :=
  listGroupState_twoLeadersStore _ _

end

end Schema

end Sekas
