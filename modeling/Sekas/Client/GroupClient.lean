import Sekas.Client.Executable
import Sekas.Client.Replicas

/-!
# Sekas.Client.GroupClient

The state of a `GroupClient` and the functions of `group_client.rs` that read and change it:
construction (`lazy`, `new`, `apply_group_state`, `initial_group_state`), replica selection
(`next_access_node_id`, `fetch_client`, one pass of `recommend_client`'s loop) and the error
classifier (`apply_status` with its two helpers).

The `SekasClient` handle a client owns (router and connection manager) is not state of the
model: what it answers is an argument of the function that asks it.  `node_clients` keeps
only the node ids it has a connection for.  `debug_assert!`s are those of a release build:
they do nothing.
-/

namespace Sekas

/-- `InvokeOpt`: the per-call options of `invoke_with_opt`. -/
structure InvokeOpt where
  request : Option Request
  accurateEpoch : Bool
  ignoreTransportError : Bool
  deriving DecidableEq, Repr

/-- `InvokeContext`: what every attempt hands to `op`. -/
structure InvokeContext where
  groupId : Nat
  epoch : UInt64
  timeout : Option Nat
  deriving DecidableEq, Repr

/-- `GroupClient`.  A timeout is a `Duration`, kept as a number of time units. -/
structure GroupClient where
  groupId : Nat
  timeout : Option Nat
  epoch : UInt64
  leaderState : Option (Nat × UInt64)
  replicas : List ReplicaDesc
  accessNodeId : Option Nat
  nextAccessIndex : Nat
  nodeClients : List Nat
  deriving DecidableEq, Repr

/-- What one pass of `recommend_client`'s loop yields. -/
inductive Pick where
  /-- `fetch_client` connected to the node: the loop returns it. -/
  | found (nodeId : Nat)
  /-- `fetch_client` failed: `access_node_id` is cleared and the loop goes on. -/
  | skipped (nodeId : Nat)
  /-- No candidate is left: the loop returns `None`. -/
  | none
  deriving DecidableEq, Repr

namespace GroupClient

/-! ## Construction -/

/-- `GroupClient::lazy`: no group state yet, epoch `0`. -/
def lazy (groupId : Nat) : GroupClient where
  groupId := groupId
  timeout := none
  epoch := 0
  leaderState := none
  replicas := []
  accessNodeId := none
  nextAccessIndex := 0
  nodeClients := []

/-- `apply_group_state`: adopt a router snapshot, the leader's node first. -/
def applyGroupState (c : GroupClient) (group : RouterGroupState) : GroupClient :=
  let leaderNodeId := (group.leaderState.bind fun (leaderId, _) =>
    group.replicas.lookup leaderId).map (·.nodeId)
  let c := { c with
    leaderState := group.leaderState, epoch := group.epoch, replicas := group.replicas.map (·.2) }
  match leaderNodeId with
  | some nodeId => { c with replicas := moveNodeToFirstElement c.replicas nodeId }
  | none => c

/-- `GroupClient::new`: a lazy client that applied the snapshot. -/
def new (groupState : RouterGroupState) : GroupClient :=
  (lazy groupState.id).applyGroupState groupState

/-- `set_timeout`. -/
def setTimeout (c : GroupClient) (timeout : Nat) : GroupClient := { c with timeout := some timeout }

/-- `set_timeout_opt`. -/
def setTimeoutOpt (c : GroupClient) (timeout : Option Nat) : GroupClient := { c with timeout }

/-- `initial_group_state`; `found` is what `router().find_group(group_id)` returned. -/
def initialGroupState (c : GroupClient) (found : Option RouterGroupState) :
    Except Error GroupClient :=
  match found with
  | none => .error (.groupNotAccessable c.groupId)
  | some group => .ok (c.applyGroupState group)

/-! ## Replica selection -/

/-- `next_access_node_id`: the replica at `next_access_index % replicas.len()` while the
index is at most `replicas.len()`.  The remainder panics when there is no replica. -/
def nextAccessNodeId (c : GroupClient) : Except Panic (Option Nat × GroupClient) :=
  if c.nextAccessIndex ≤ c.replicas.length then
    if h : 0 < c.replicas.length then
      let replicaDesc := c.replicas.get ⟨c.nextAccessIndex % c.replicas.length, Nat.mod_lt _ h⟩
      .ok (some replicaDesc.nodeId, { c with nextAccessIndex := c.nextAccessIndex + 1 })
    else .error .remainderByZero
  else .ok (none, c)

/-- `fetch_client`: a cached connection, or a new one when `reachable` (the router knows the
node's address and the connection manager connects to it). -/
def fetchClient (c : GroupClient) (nodeId : Nat) (reachable : Bool) : Bool × GroupClient :=
  if nodeId ∈ c.nodeClients then (true, c)
  else if reachable then (true, { c with nodeClients := nodeId :: c.nodeClients })
  else (false, c)

/-- One pass of the `while let` loop of `recommend_client`: the sticky `access_node_id`, or
else `next_access_node_id`, then `fetch_client` on it. -/
def recommendClientOnce (c : GroupClient) (reachable : Bool) : Except Panic (Pick × GroupClient) :=
  let candidate : Except Panic (Option Nat × GroupClient) := match c.accessNodeId with
    | some nodeId => .ok (some nodeId, c)
    | none => c.nextAccessNodeId
  match candidate with
  | .error p => .error p
  | .ok (none, c) => .ok (.none, c)
  | .ok (some nodeId, c) =>
    match c.fetchClient nodeId reachable with
    | (true, c) => .ok (.found nodeId, { c with accessNodeId := some nodeId })
    | (false, c) => .ok (.skipped nodeId, { c with accessNodeId := none })

/-! ## The error classifier -/

/-- `apply_not_leader_status`: forget the access node; follow a named leader unless the
local term is at least the message's. -/
def applyNotLeaderStatus (c : GroupClient) (term : UInt64) (leaderDesc : Option ReplicaDesc) :
    GroupClient :=
  let c := { c with accessNodeId := none }
  match leaderDesc with
  | none => c
  | some leader =>
    if !(c.leaderState.map fun (_, localTerm) => decide (localTerm ≥ term)).getD false then
      { c with
        accessNodeId := some leader.nodeId
        leaderState := some (leader.id, term)
        replicas := moveReplicaToFirstElement c.replicas leader }
    else c

/-- `apply_epoch_not_match_status`. -/
def applyEpochNotMatchStatus (c : GroupClient) (groupDesc : GroupDesc) (opt : InvokeOpt) :
    Outcome Unit × GroupClient :=
  if opt.accurateEpoch then (.err (.epochNotMatch groupDesc), c)
  else if groupDesc.epoch ≤ c.epoch then (.panic .epochNotAdvanced, c)
  else if (opt.request.map fun r => !isExecutable groupDesc r).getD false then
    (.err (.epochNotMatch groupDesc), c)
  else
    let c := { c with replicas := groupDesc.replicas, epoch := groupDesc.epoch, nextAccessIndex := 1 }
    (.ok (), { c with replicas := moveNodeToFirstElement c.replicas (c.accessNodeId.getD 0) })

/-- `apply_status`: `Ok(())` when the loop may retry, the error otherwise. -/
def applyStatus (c : GroupClient) (status : Error) (opt : InvokeOpt) : Outcome Unit × GroupClient :=
  match status with
  | .groupNotFound _ => (.ok (), { c with accessNodeId := none })
  | .notLeader _ term leaderDesc => (.ok (), c.applyNotLeaderStatus term leaderDesc)
  | .connect _ => (.ok (), { c with accessNodeId := none })
  | .transport s =>
    if opt.ignoreTransportError || (opt.request.map isReadOnlyRequest).getD false then
      (.ok (), { c with accessNodeId := none })
    else (.err (.transport s), c)
  | .epochNotMatch groupDesc => c.applyEpochNotMatchStatus groupDesc opt
  | e => (.err e, c)

/-! ## Adopting a router snapshot -/

/-- A descriptor the router's map returns for an id is one of the map's values. -/
theorem mem_of_lookup_eq_some {replicas : List (Nat × ReplicaDesc)} {id : Nat} {desc : ReplicaDesc}
    (h : replicas.lookup id = some desc) : desc ∈ replicas.map (·.2) := by
  obtain ⟨l₁, l₂, rfl, -⟩ := List.lookup_eq_some_iff.mp h
  simp

/-- The replicas `apply_group_state` adopts: the map's values, with the leader's node moved to
the front when the map holds the leader's descriptor. -/
theorem applyGroupState_replicas_eq (c : GroupClient) (g : RouterGroupState) :
    (c.applyGroupState g).replicas =
      match (g.leaderState.bind fun (leaderId, _) => g.replicas.lookup leaderId).map (·.nodeId) with
      | some nodeId => moveNodeToFirstElement (g.replicas.map (·.2)) nodeId
      | none => g.replicas.map (·.2) := by
  simp only [applyGroupState]
  split <;> rfl

/-- **A snapshot's replicas, the leader's node first.**  After `apply_group_state`, the client's
replicas are the router's replica descriptors, each once, in some order; and when the router
names a leader whose descriptor it holds, the first replica is on the leader's node, so the
first attempt of the next call goes there. -/
theorem applyGroupState_replicas (c : GroupClient) (g : RouterGroupState) :
    List.Perm (c.applyGroupState g).replicas (g.replicas.map (·.2)) ∧
      ∀ leaderId term desc, g.leaderState = some (leaderId, term) →
        g.replicas.lookup leaderId = some desc →
          ∃ r, (c.applyGroupState g).replicas.head? = some r ∧ r.nodeId = desc.nodeId := by
  rw [applyGroupState_replicas_eq]
  split
  · rename_i n hl
    refine ⟨perm_moveNodeToFirstElement, fun leaderId term desc hs hd => ?_⟩
    obtain rfl : n = desc.nodeId := by simpa [hs, hd] using hl.symm
    have hmem := mem_of_lookup_eq_some hd
    have hne : moveNodeToFirstElement (g.replicas.map (·.2)) desc.nodeId ≠ [] :=
      List.ne_nil_of_length_pos (by
        rw [length_moveNodeToFirstElement]
        exact List.length_pos_of_mem hmem)
    obtain ⟨r, rs, hrs⟩ := List.exists_cons_of_ne_nil hne
    exact ⟨r, by rw [hrs]; rfl,
      getElem?_zero_moveNodeToFirstElement ⟨desc, hmem, rfl⟩ (by rw [hrs]; simp)⟩
  · rename_i hl
    refine ⟨List.Perm.refl _, fun leaderId term desc hs hd => ?_⟩
    simp [hs, hd] at hl

end GroupClient

end Sekas
