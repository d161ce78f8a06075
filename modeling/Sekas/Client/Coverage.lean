import Sekas.Client.Budget

/-!
# Sekas.Client.Coverage

Which replicas a call has tried when it gives up.  The doc comment of `GroupClient` says that
`GroupNotAccessable` comes once the client "has traversed all the replicas".

The argument is a cursor invariant, `Covered`: every replica below `next_access_index` is on
a node selected since the stretch began (attempted through `op`, or skipped because
`fetch_client` failed), or on the sticky access node, which the next pass selects.  A pass of
`recommend_client` keeps it, and so does every recovered failure, the `NotLeader` swap
included; it holds at the call's start, where the cursor is `0`; and when `recommend_client`
returns `None` there is no access node and the cursor is past the end, so every replica was
selected.

An adopted `EpochNotMatch` descriptor restarts the cursor at `1`, past the front replica,
counting on `move_node_to_first_element` to have put the answering node, the sticky one,
there.  When the descriptor does not hold that node, the front replica is neither selected
nor sticky, and a later `NotLeader` swap can move it behind the cursor: the call then gives
up without having tried it.

The same selection code divides by the number of replicas.  A client with none and no
access node panics on the remainder by zero, and both the lazy load and an adopted empty
descriptor lead there.
-/

namespace Sekas

open GroupClient

variable {V : Type} {opt : InvokeOpt} {dl : Option Nat} {i : Input V} {c c' s : GroupClient}
  {sel : List Nat}

/-- The node a turn selected: attempted through `op`, or skipped because `fetch_client`
failed. -/
def Event.selected : Event V → Option Nat
  | .attempted n _ _ | .skipped n => some n
  | .aborted _ | .exhausted => none

/-! ## The cursor invariant -/

/-- **The cursor invariant.**  Every replica below `next_access_index` is on a node of `sel`,
or on the sticky access node. -/
def Covered (c : GroupClient) (sel : List Nat) : Prop :=
  ∀ p r, p < c.nextAccessIndex → c.replicas[p]? = some r →
    r.nodeId ∈ sel ∨ c.accessNodeId = some r.nodeId

/-- A call's loop starts with the cursor at `0`. -/
theorem covered_callStart (c : GroupClient) : Covered c.callStart [] :=
  fun _ _ hp => absurd hp (Nat.not_lt_zero _)

/-- Selecting more keeps the invariant. -/
theorem Covered.append (hcov : Covered c sel) (l : List Nat) : Covered c (sel ++ l) :=
  fun p r hp hr => (hcov p r hp hr).imp (List.mem_append_left l) id

/-- Once the access node is selected, the invariant survives any change that keeps the
replicas and the cursor. -/
theorem Covered.of_access (hcov : Covered c sel) (hr : s.replicas = c.replicas)
    (hi : s.nextAccessIndex = c.nextAccessIndex) (ha : ∀ n, c.accessNodeId = some n → n ∈ sel) :
    Covered s sel := fun p r hp hrp =>
  .inl ((hcov p r (hi ▸ hp) (hr ▸ hrp)).elim id (ha _))

/-- With no access node and the cursor past the end, every replica was selected. -/
theorem Covered.all (hcov : Covered c sel) (ha : c.accessNodeId = none)
    (hi : c.replicas.length < c.nextAccessIndex) : ∀ r ∈ c.replicas, r.nodeId ∈ sel := by
  intro r hr
  obtain ⟨p, hp⟩ := List.mem_iff_getElem?.mp hr
  have hpl : p < c.replicas.length := (List.getElem?_eq_some_iff.mp hp).1
  simpa [ha] using hcov p r (by omega) hp

/-- `next_access_node_id` moves the cursor over the replica it hands out. -/
theorem Covered.next (hcov : Covered c sel) (ha : c.accessNodeId = none)
    (h : 0 < c.replicas.length) :
    Covered { c with nextAccessIndex := c.nextAccessIndex + 1 }
      (sel ++ [(c.replicas.get ⟨c.nextAccessIndex % c.replicas.length, Nat.mod_lt _ h⟩).nodeId]) := by
  intro p r hp hr
  rcases Nat.lt_succ_iff_lt_or_eq.mp hp with hp | rfl
  · exact .inl (List.mem_append_left _ ((hcov p r hp hr).resolve_right (by simp [ha])))
  · obtain ⟨hlt, rfl⟩ := List.getElem?_eq_some_iff.mp hr
    simp [Nat.mod_eq_of_lt hlt]

/-- **A pass of `recommend_client` keeps the invariant**, with the node it selected added; a
pass that finds nothing finds every replica selected. -/
theorem covered_recommendClientOnce {reachable : Bool} {pick : Pick} (hcov : Covered c sel)
    (h : c.recommendClientOnce reachable = .ok (pick, s)) :
    match pick with
    | .found n | .skipped n => Covered s (sel ++ [n])
    | .none => ∀ r ∈ s.replicas, r.nodeId ∈ sel := by
  unfold recommendClientOnce at h
  cases hc : c.accessNodeId with
  | some m =>
    simp only [hc, fetchClient] at h
    split_ifs at h <;> cases h <;> exact (hcov.append [m]).of_access rfl rfl (by simp [hc])
  | none =>
    simp only [hc, nextAccessNodeId] at h
    split_ifs at h with h1 h2
    · simp only [fetchClient] at h
      split_ifs at h <;> cases h <;> exact (hcov.next hc h2).of_access rfl rfl (by simp [hc])
    · cases h
      exact hcov.all hc (by omega)

/-! ## Turns and runs -/

/-- **A turn that goes on keeps the invariant**, with the node it selected added, unless it
adopted a descriptor. -/
theorem covered_invokeTurn {ev : Event V} (hcov : Covered c sel)
    (h : invokeTurn opt dl i c = (ev, .again c')) (he : c'.epoch = c.epoch) :
    Covered c' (sel ++ ev.selected.toList) := by
  rcases invokeTurn_eq_again h with ⟨n, hs, rfl⟩ | ⟨n, s, e, hs, rfl, hok⟩
  · exact covered_recommendClientOnce hcov hs
  · show Covered c' (sel ++ [n])
    have hsel : Covered s (sel ++ [n]) := covered_recommendClientOnce hcov hs
    obtain ⟨hv, hacc, -⟩ := recommendClientOnce_spec hs
    simp only [view_eq_view_iff] at hv
    rcases applyStatus_eq_ok hok with rfl | ⟨_, _, leader, -, -, rfl⟩ | ⟨d, -, hd, rfl⟩
    · exact hsel.of_access rfl rfl (by simp [hacc])
    · intro p r hp hr
      rcases getElem?_moveReplicaToFirstElement_eq_some hr with hr | ⟨q, hqp, hq⟩
      · exact .inr (by simp [hr])
      · refine .inl ((hsel q r (by simp only at hp ⊢; omega) hq).elim id fun ha => ?_)
        rw [hacc, Option.some.injEq] at ha
        simp [← ha]
    · have heq : d.epoch = s.epoch := he.trans hv.2.2.1.symm
      exact absurd (uint64_lt_iff.mp hd) (by rw [heq]; exact Nat.lt_irrefl _)

/-- **An adoption restarts the invariant** when the adopted descriptor holds the node that
answered it: `move_node_to_first_element` puts that node, the sticky one, at the front. -/
theorem covered_of_adoption {ev : Event V} (h : invokeTurn opt dl i c = (ev, .again c'))
    (he : c'.epoch ≠ c.epoch)
    (hn : ∀ n ctx d, ev = .attempted n ctx (.error (.epochNotMatch d)) →
      ∃ r ∈ d.replicas, r.nodeId = n) :
    Covered c' [] := by
  rcases invokeTurn_eq_again h with ⟨n, hs, rfl⟩ | ⟨n, s, e, hs, rfl, hok⟩
  · exact absurd (view_eq_view_iff.mp (recommendClientOnce_spec hs).1).2.2.1 he
  · obtain ⟨hv, hacc, -⟩ := recommendClientOnce_spec hs
    simp only [view_eq_view_iff] at hv
    rcases applyStatus_eq_ok hok with rfl | ⟨_, _, _, -, -, rfl⟩ | ⟨d, rfl, -, rfl⟩
    · exact absurd hv.2.2.1 he
    · exact absurd hv.2.2.1 he
    · obtain ⟨r, hr, hrn⟩ := hn n _ d rfl
      intro p r' hp hr'
      obtain rfl : p = 0 := by simpa using hp
      refine .inr ?_
      simp only [hacc, Option.getD_some] at hr' ⊢
      rw [getElem?_zero_moveNodeToFirstElement ⟨r, hr, hrn⟩ hr']

/-- **A turn that finds no node saw every replica selected.** -/
theorem covered_exhausted (hcov : Covered c sel) (h : (invokeTurn opt dl i c).1 = .exhausted) :
    ∀ r ∈ (invokeTurn opt dl i c).2.client.replicas, r.nodeId ∈ sel := by
  rcases invokeTurn_cases opt dl i c with ⟨p, -, h'⟩ | ⟨s, hs, h'⟩ | ⟨n, s, -, h'⟩ | ⟨n, s, -, h'⟩ <;>
    rw [h'] at h ⊢ <;> cases h
  exact covered_recommendClientOnce hcov hs

/-- **Over a run of the loop with no adoption**, a turn that finds no node saw every replica
selected, before the run or by one of its turns. -/
theorem invokeLoop_covered : ∀ (is : List (Input V)) (c : GroupClient) (sel : List Nat),
    Covered c sel → (∀ t ∈ (invokeLoop opt dl is c).1, t.after.epoch = t.before.epoch) →
    ∀ t ∈ (invokeLoop opt dl is c).1, t.event = .exhausted →
      ∀ r ∈ t.after.replicas, r.nodeId ∈ sel ++ (invokeLoop opt dl is c).1.filterMap (·.event.selected)
  | [], _, _, _, _, t, ht => by cases ht
  | i :: is, c, sel, hcov, hno, t, ht => by
    have hlast : t = ⟨c, (invokeTurn opt dl i c).1, (invokeTurn opt dl i c).2.client⟩ →
        t.event = .exhausted → ∀ r ∈ t.after.replicas, r.nodeId ∈ sel := by
      rintro rfl hex
      exact covered_exhausted hcov hex
    rcases hturn : invokeTurn opt dl i c with ⟨ev, c' | ⟨r, c'⟩⟩
    · rw [invokeLoop_cons_again hturn] at hno ht ⊢
      rcases List.mem_cons.mp ht with rfl | ht
      · intro hex r hr
        exact List.mem_append_left _ (hlast (by rw [hturn]; rfl) hex r hr)
      · have hc' := covered_invokeTurn hcov hturn (hno _ (.head _))
        intro hex r hr
        have := invokeLoop_covered is c' _ hc' (fun t ht => hno t (.tail _ ht)) t ht hex r hr
        rcases hsel : ev.selected with _ | n <;> simpa [hsel] using this
    · rw [invokeLoop_cons_finish hturn] at ht ⊢
      rcases List.mem_singleton.mp ht with rfl
      intro hex r hr
      exact List.mem_append_left _ (hlast (by rw [hturn]; rfl) hex r hr)

/-- What follows some turns of a run, when anything does, is a run from the client the run
started from, or from the client the last of those turns left as it went on. -/
theorem invokeLoop_append : ∀ (pre : List (Turn V)) (is : List (Input V)) (c : GroupClient)
    (post : List (Turn V)), (invokeLoop opt dl is c).1 = pre ++ post → post ≠ [] →
    ∃ is' c', (invokeLoop opt dl is' c').1 = post ∧
      (pre = [] ∧ c' = c ∨ ∃ t i, pre.getLast? = some t ∧
        invokeTurn opt dl i t.before = (t.event, .again c') ∧ t.after = c')
  | [], is, c, _, h, _ => ⟨is, c, h, .inl ⟨rfl, rfl⟩⟩
  | _ :: _, [], _, _, h, _ => by cases h
  | t :: pre, i :: is, c, post, h, hne => by
    rcases hturn : invokeTurn opt dl i c with ⟨ev, c' | ⟨r, c'⟩⟩
    · rw [invokeLoop_cons_again hturn] at h
      obtain ⟨rfl, hrest⟩ := List.cons.inj h
      obtain ⟨is', c'', hpost, hcase⟩ := invokeLoop_append pre is c' post hrest hne
      refine ⟨is', c'', hpost, .inr ?_⟩
      rcases hcase with ⟨rfl, rfl⟩ | ⟨t', i', hlast, hturn', haft⟩
      · exact ⟨_, i, rfl, hturn, rfl⟩
      · exact ⟨t', i', by simp [List.getLast?_cons, hlast], hturn', haft⟩
    · rw [invokeLoop_cons_finish hturn] at h
      exact absurd (List.append_eq_nil.mp (List.cons.inj h).2.symm).2 hne

/-- **Every replica is tried before the call gives up**, within a stretch that starts at the
call's start or at the adoption of a descriptor holding the node that answered it.  Take the
turns of a call after such a start, with no adoption among them: if one of them finds no
node, every replica of the client it leaves was selected by one of them. -/
theorem invokeWithOpt_covers (found : Option RouterGroupState) (opt : InvokeOpt)
    (is : List (Input V)) (c : GroupClient) {pre post : List (Turn V)}
    (htr : (invokeWithOpt found opt is c).turns = pre ++ post)
    (hstart : ∀ t ∈ pre.getLast?, t.after.epoch ≠ t.before.epoch ∧
      ∀ n ctx d, t.event = .attempted n ctx (.error (.epochNotMatch d)) →
        ∃ r ∈ d.replicas, r.nodeId = n)
    (hpost : ∀ t ∈ post, t.after.epoch = t.before.epoch) {t : Turn V} (ht : t ∈ post)
    (hex : t.event = .exhausted) :
    ∀ r ∈ t.after.replicas, r.nodeId ∈ post.filterMap (·.event.selected) := by
  have hloop : ∀ dl is (c : GroupClient), (invokeLoop opt dl is c.callStart).1 = pre ++ post →
      ∀ r ∈ t.after.replicas, r.nodeId ∈ post.filterMap (·.event.selected) := by
    intro dl is c h
    obtain ⟨is', c', rfl, hcase⟩ := invokeLoop_append pre is _ post h (List.ne_nil_of_mem ht)
    have hcov : Covered c' [] := by
      rcases hcase with ⟨-, rfl⟩ | ⟨t', i', hlast, hturn, haft⟩
      · exact covered_callStart c
      · obtain ⟨hep, hn⟩ := hstart t' hlast
        exact covered_of_adoption hturn (haft ▸ hep) hn
    simpa using invokeLoop_covered is' c' [] hcov hpost t ht hex
  rcases invokeWithOpt_shape (V := V) found opt c with ⟨-, -, he⟩ | ⟨-, g, -, he⟩ | ⟨-, he⟩ <;>
    rw [he] at htr
  · rw [List.nil_eq_append_iff] at htr
    exact absurd (htr.2 ▸ ht) (List.not_mem_nil t)
  · exact hloop _ is _ htr
  · exact hloop _ is _ htr

/-- A client at epoch `1` whose one replica is on node `1`. -/
def oneReplicaClient : GroupClient := ⟨1, none, 1, none, [⟨1, 1⟩], none, 0, []⟩

/-- A call of `oneReplicaClient` while node `1` cannot be reached. -/
def unreachableCall : Call Unit :=
  invokeWithOpt none ⟨none, false, false⟩ (List.replicate 3 ⟨false, .ok (), false⟩) oneReplicaClient

/-- The call skips node `1` twice, then finds no node: its one replica was selected. -/
theorem invokeWithOpt_covers_unreachable :
    unreachableCall.turns = [] ++ unreachableCall.turns ∧
      (∀ t ∈ unreachableCall.turns, t.after.epoch = t.before.epoch) ∧
      (unreachableCall.turns.get ⟨2, by decide⟩).event = .exhausted ∧
      ∀ r ∈ (unreachableCall.turns.get ⟨2, by decide⟩).after.replicas,
        r.nodeId ∈ unreachableCall.turns.filterMap (·.event.selected) :=
  have htr : unreachableCall.turns = [] ++ unreachableCall.turns := rfl
  have hpost : ∀ t ∈ unreachableCall.turns, t.after.epoch = t.before.epoch := by decide
  have hex : (unreachableCall.turns.get ⟨2, by decide⟩).event = .exhausted := rfl
  ⟨htr, hpost, hex, invokeWithOpt_covers none ⟨none, false, false⟩ _ oneReplicaClient htr
    (fun _ ht => nomatch ht) hpost (List.get_mem _ _ _) hex⟩

/-- A descriptor at epoch `2` whose replicas `2`, `3` and `4` are on nodes `2`, `3` and `4`:
the group has left node `1`. -/
def movedAwayDesc : GroupDesc := ⟨1, 2, [⟨2, 2⟩, ⟨3, 3⟩, ⟨4, 4⟩], []⟩

/-- Node `1` reports `movedAwayDesc`, then no longer has the group; node `3` refuses the
connection; node `4` names replica `3` on node `3` the leader at term `5`; node `3` refuses
twice more. -/
def movedAwayAnswers : List (Input Unit) :=
  [⟨true, .error (.epochNotMatch movedAwayDesc), false⟩,
    ⟨true, .error (.groupNotFound 1), false⟩,
    ⟨true, .error (.connect "connection refused"), false⟩,
    ⟨true, .error (.notLeader 1 5 (some ⟨3, 3⟩)), false⟩,
    ⟨true, .error (.connect "connection refused"), false⟩,
    ⟨true, .error (.connect "connection refused"), false⟩,
    ⟨true, .ok (), false⟩]

/-- A call of `oneReplicaClient` answered by `movedAwayAnswers`. -/
def movedAwayCall : Call Unit := invokeWithOpt none ⟨none, false, false⟩ movedAwayAnswers oneReplicaClient

/-- The call adopts `movedAwayDesc` in its first turn, then gives up with `GroupNotAccessable`
from `recommend_client` while node `2`, on which a replica of the final descriptor sits, was
never selected after the adoption: the `NotLeader` swap moved it from the front, which the
restarted cursor had skipped, behind the cursor. -/
theorem gives_up_with_replica_untried :
    movedAwayCall.turns.map (·.event.selected) =
      [some 1, some 1, some 3, some 4, some 3, some 3, none] ∧
    movedAwayCall.turns.map (·.before.epoch) = [1, 2, 2, 2, 2, 2, 2] ∧
    movedAwayCall.next.client.replicas.map (·.nodeId) = [3, 2, 4] ∧
    (∃ t, movedAwayCall.turns.getLast? = some t ∧ t.event = .exhausted) ∧
    ∃ c', movedAwayCall.next = .finish (.err (.groupNotAccessable 1)) c' :=
  ⟨by decide, by decide, by decide, ⟨_, rfl, rfl⟩, ⟨_, rfl⟩⟩

/-! ## No replica to select -/

/-- **When a pass of `recommend_client` panics.**  Exactly when there is no access node, no
replica and the cursor is at `0`: `next_access_index % replicas.len()` is then a remainder by
zero. -/
theorem recommendClientOnce_eq_error_iff {reachable : Bool} {p : Panic} :
    c.recommendClientOnce reachable = .error p ↔
      c.accessNodeId = none ∧ c.replicas = [] ∧ c.nextAccessIndex = 0 ∧ p = .remainderByZero := by
  unfold recommendClientOnce
  cases hc : c.accessNodeId with
  | some m =>
    simp only [fetchClient]
    split_ifs <;> simp
  | none =>
    simp only [nextAccessNodeId, true_and]
    split_ifs with h1 h2
    · simp only [fetchClient]
      split_ifs <;> simp [List.length_pos.mp h2]
    · have : c.replicas = [] := List.length_eq_zero.mp (by omega)
      simp [this, eq_comm (a := Panic.remainderByZero)]
      omega
    · simp only [reduceCtorEq, false_iff, not_and]
      intro hr
      simp [hr] at h1
      omega

/-- A turn panics exactly when `recommend_client` meets no access node, no replica and the
cursor at `0`. -/
theorem invokeTurn_aborted_iff {p : Panic} :
    (invokeTurn opt dl i c).1 = .aborted p ↔
      c.accessNodeId = none ∧ c.replicas = [] ∧ c.nextAccessIndex = 0 ∧ p = .remainderByZero := by
  rw [← @recommendClientOnce_eq_error_iff c i.reachable p]
  rcases invokeTurn_cases opt dl i c with ⟨q, hs, h'⟩ | ⟨s, hs, h'⟩ | ⟨n, s, hs, h'⟩ | ⟨n, s, hs, h'⟩ <;>
    rw [h', hs] <;> simp [eq_comm]

/-- A router snapshot at epoch `1` with no replica. -/
def emptySnapshot : RouterGroupState := ⟨1, 1, none, [], by decide⟩

/-- A descriptor at epoch `2` with no replica. -/
def emptyDesc : GroupDesc := ⟨1, 2, [], []⟩

/-- Two calls of `oneReplicaClient`: node `1` reports `emptyDesc`, then serves the first
call; in the second call it no longer has the group. -/
def emptiedUses : List (Use Unit) :=
  [.call ⟨none, false, false⟩ none
      [⟨true, .error (.epochNotMatch emptyDesc), false⟩, ⟨true, .ok (), false⟩],
    .call ⟨none, false, false⟩ none
      [⟨true, .error (.groupNotFound 1), false⟩, ⟨true, .ok (), false⟩]]

/-- Both routes to a client with no replica end in the remainder-by-zero panic rather than
`GroupNotAccessable`: a lazy client that loads `emptySnapshot`, and a client that adopted
`emptyDesc` and, in its next call, loses its access node. -/
theorem remainder_by_zero_reachable :
    (∃ c', (invokeWithOpt (some emptySnapshot) ⟨none, false, false⟩
        [(⟨true, .ok (), false⟩ : Input Unit)] (GroupClient.lazy 1)).next =
      .finish (.panic .remainderByZero) c') ∧
    ∃ c' c'', (session emptiedUses oneReplicaClient).1.map (·.2.next) =
      [.finish (.ok ()) c', .finish (.panic .remainderByZero) c''] :=
  ⟨⟨_, rfl⟩, ⟨_, _, rfl⟩⟩

end Sekas
