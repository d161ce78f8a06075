import Sekas.Client.GroupClient

/-!
# Sekas.Client.Invoke

`invoke_with_opt`, the retry loop every public method of `GroupClient` runs, and the runs of
calls a client's owner makes.

The loop is a state machine.  One *turn* is one pass of `recommend_client`'s loop and, when
that pass found a node, the attempt on it: `op`, `apply_status` on a failure, the deadline
check.  `recommend_client`'s own loop is thereby unrolled into `invoke_with_opt`'s: a skipped
node ends a turn that the next turn continues, as the inner loop would.

Whatever the world answers in a turn (can the node be reached, what `op` returns, has the
deadline passed) is an `Input`; a run is a list of inputs, one per turn, so that every
sequence of router lookups, connection results and attempt outcomes is some list.  Each turn
is recorded with the client before and after it.
-/

namespace Sekas

/-- What the world answers during one turn of the retry loop. -/
structure Input (V : Type) where
  /-- Whether `fetch_client` connects to the candidate node when no connection is cached. -/
  reachable : Bool
  /-- What `op` returns when the turn calls it. -/
  reply : Except Error V
  /-- Whether the deadline has passed when the turn checks it. -/
  expired : Bool

/-- What one turn of the loop did. -/
inductive Event (V : Type) where
  /-- `next_access_node_id` panicked. -/
  | aborted (p : Panic)
  /-- `recommend_client` found no node. -/
  | exhausted
  /-- `fetch_client` failed on the node. -/
  | skipped (nodeId : Nat)
  /-- `op` ran on the node with the context, and replied. -/
  | attempted (nodeId : Nat) (ctx : InvokeContext) (reply : Except Error V)

/-- Where the loop stands after a turn. -/
inductive Next (V : Type) where
  /-- The loop goes on. -/
  | again (c : GroupClient)
  /-- `invoke_with_opt` returns (or panics). -/
  | finish (r : Outcome V) (c : GroupClient)

/-- The client a turn leaves. -/
def Next.client {V : Type} : Next V → GroupClient
  | .again c | .finish _ c => c

/-- A turn of the loop: the client before it, what it did, the client after it. -/
structure Turn (V : Type) where
  before : GroupClient
  event : Event V
  after : GroupClient

variable {V : Type}

/-! ## The loop -/

/-- The end of a turn once `recommend_client` returned a node: `op`'s reply, `apply_status`
on a failure, and the deadline check after a recovered failure. -/
def attempt (opt : InvokeOpt) (deadline : Option Nat) (reply : Except Error V) (expired : Bool)
    (c : GroupClient) : Next V :=
  match reply with
  | .ok s => .finish (.ok s) c
  | .error status =>
    match c.applyStatus status opt with
    | (.ok (), c) =>
      if (deadline.map fun _ => expired).getD false then
        .finish (.err (.deadlineExceeded "issue rpc")) c
      else .again c
    | (.err e, c) => .finish (.err e) c
    | (.panic p, c) => .finish (.panic p) c

/-- One turn of the `while let Some(..) = self.recommend_client()` loop. -/
def invokeTurn (opt : InvokeOpt) (deadline : Option Nat) (i : Input V) (c : GroupClient) :
    Event V × Next V :=
  match c.recommendClientOnce i.reachable with
  | .error p => (.aborted p, .finish (.panic p) c)
  | .ok (.none, c) => (.exhausted, .finish (.err (.groupNotAccessable c.groupId)) c)
  | .ok (.skipped nodeId, c) => (.skipped nodeId, .again c)
  | .ok (.found nodeId, c) =>
    (.attempted nodeId ⟨c.groupId, c.epoch, c.timeout⟩ i.reply,
      attempt opt deadline i.reply i.expired c)

/-- The retry loop over the world's answers, one per turn: the turns taken, and where the
loop stands when it returned or the answers ran out. -/
def invokeLoop (opt : InvokeOpt) (deadline : Option Nat) :
    List (Input V) → GroupClient → List (Turn V) × Next V
  | [], c => ([], .again c)
  | i :: is, c =>
    match invokeTurn opt deadline i c with
    | (ev, .again c') =>
      let r := invokeLoop opt deadline is c'
      (⟨c, ev, c'⟩ :: r.1, r.2)
    | (ev, .finish o c') => ([⟨c, ev, c'⟩], .finish o c')

/-- A call of `invoke_with_opt`: what the lazy load did, the turns of its loop, and where it
stands. -/
structure Call (V : Type) where
  /-- The call ran `initial_group_state`: its client's epoch was `0`. -/
  initialized : Bool
  /-- `initial_group_state` applied a router snapshot. -/
  loaded : Bool
  turns : List (Turn V)
  next : Next V

/-- The client a call's loop starts from: `next_access_index` reset and the timeout taken. -/
def GroupClient.callStart (c : GroupClient) : GroupClient :=
  { c with nextAccessIndex := 0, timeout := none }

/-- `invoke_with_opt`; `found` is what the router returns for the group if it is asked. -/
def invokeWithOpt (found : Option RouterGroupState) (opt : InvokeOpt) (is : List (Input V))
    (c : GroupClient) : Call V :=
  match (if c.epoch = 0 then c.initialGroupState found else .ok c) with
  | .error e => ⟨c.epoch = 0, false, [], .finish (.err e) c⟩
  | .ok c' =>
    let r := invokeLoop opt c'.timeout is c'.callStart
    ⟨c.epoch = 0, c.epoch = 0 && found.isSome, r.1, r.2⟩

/-! ## The public methods -/

namespace GroupClient

/-- `invoke`: `invoke_with_opt` with `InvokeOpt::default()`. -/
def invoke (c : GroupClient) (found : Option RouterGroupState) (is : List (Input V)) : Call V :=
  invokeWithOpt found ⟨none, false, false⟩ is c

/-- `request`. -/
def request (c : GroupClient) (request : Request) (found : Option RouterGroupState)
    (is : List (Input V)) : Call V :=
  invokeWithOpt found ⟨some request, false, false⟩ is c

/-- `watch_key`. -/
def watchKey (c : GroupClient) (found : Option RouterGroupState) (is : List (Input V)) : Call V :=
  invokeWithOpt found ⟨none, false, false⟩ is c

/-- `create_shard`, `remove_group_replica`, `add_replica` and `add_learner` are `invoke`. -/
def createShard (c : GroupClient) (found : Option RouterGroupState) (is : List (Input V)) :
    Call V :=
  c.invoke found is

/-- `move_replicas` is `request` of a `MoveReplicas` request. -/
def moveReplicas (c : GroupClient) (found : Option RouterGroupState) (is : List (Input V)) :
    Call V :=
  c.request .other found is

/-- `transfer_leader`, `accept_shard`, `split_shard`, `merge_shard` and `acquire_shard`:
accurate epoch, transport errors ignored. -/
def transferLeader (c : GroupClient) (found : Option RouterGroupState) (is : List (Input V)) :
    Call V :=
  invokeWithOpt found ⟨none, true, true⟩ is c

/-- `move_out`: transport errors ignored. -/
def moveOut (c : GroupClient) (found : Option RouterGroupState) (is : List (Input V)) : Call V :=
  invokeWithOpt found ⟨none, false, true⟩ is c

/-- `forward`: accurate epoch. -/
def forward (c : GroupClient) (found : Option RouterGroupState) (is : List (Input V)) : Call V :=
  invokeWithOpt found ⟨none, true, false⟩ is c

end GroupClient

/-! ## Runs of calls -/

/-- One use of a client by its owner: a timeout setter, or a call of a public method, which is
`invoke_with_opt` with that method's options. -/
inductive Use (V : Type) where
  | setTimeout (timeout : Nat)
  | setTimeoutOpt (timeout : Option Nat)
  | call (opt : InvokeOpt) (found : Option RouterGroupState) (answers : List (Input V))

/-- A run of uses from a client: each call made with the client it started from, and the
client after the run.  The run stops at a call whose answers ran out before it returned. -/
def session : List (Use V) → GroupClient → List (GroupClient × Call V) × GroupClient
  | [], c => ([], c)
  | .setTimeout d :: us, c => session us (c.setTimeout d)
  | .setTimeoutOpt d :: us, c => session us (c.setTimeoutOpt d)
  | .call opt found is :: us, c =>
    let k := invokeWithOpt found opt is c
    match k.next with
    | .again c' => ([(c, k)], c')
    | .finish _ c' =>
      let r := session us c'
      ((c, k) :: r.1, r.2)

end Sekas
