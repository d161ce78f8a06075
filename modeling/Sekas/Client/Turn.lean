import Sekas.Client.Invoke

/-!
# Sekas.Client.Turn

What one turn of the retry loop can do to the client, said once so that the run-level
results never unfold the loop.

* `recommendClientOnce_spec`: a pass of `recommend_client` keeps the group view (group id,
  timeout, epoch, leader state, replicas) and moves the selection cursor only as far as the
  `budget` allows;
* `applyNotLeaderStatus_some`: a `NotLeader` hint naming a leader either follows it or only
  forgets the access node;
* `applyStatus_eq_ok` and `applyStatus_snd_of_ne_ok`: `apply_status` either clears the access
  node, follows a newer leader, or adopts a newer descriptor, and leaves the client alone
  when it does not recover;
* `invokeTurn_*`: the same facts for a whole turn.
-/

namespace Sekas

namespace GroupClient

/-- The leader term as a rank, with no leader below every term. -/
def termRank : Option (Nat × UInt64) → Nat
  | none => 0
  | some (_, term) => term.toNat + 1

/-- The passes `recommend_client` can still make before it returns `None`: one for a sticky
access node, one for each index `next_access_node_id` can still hand out. -/
def budget (c : GroupClient) : Nat :=
  (if c.accessNodeId.isSome then 1 else 0) + (c.replicas.length + 1 - c.nextAccessIndex)

/-- The part of a client that replica selection does not touch. -/
def view (c : GroupClient) :
    Nat × Option Nat × UInt64 × Option (Nat × UInt64) × List ReplicaDesc :=
  (c.groupId, c.timeout, c.epoch, c.leaderState, c.replicas)

@[simp] theorem view_eq_view_iff {c s : GroupClient} :
    s.view = c.view ↔ s.groupId = c.groupId ∧ s.timeout = c.timeout ∧ s.epoch = c.epoch ∧
      s.leaderState = c.leaderState ∧ s.replicas = c.replicas := by
  simp [view]

/-- No client has more budget than its replicas and two. -/
theorem budget_le (c : GroupClient) : c.budget ≤ c.replicas.length + 2 := by
  unfold budget; split <;> omega

/-! ## Replica selection -/

variable {c s : GroupClient} {reachable : Bool}

/-- **One pass of `recommend_client`.**  It keeps the view; a found node becomes the access
node at no cost in budget, a skipped node costs one. -/
theorem recommendClientOnce_spec {p : Pick}
    (h : c.recommendClientOnce reachable = .ok (p, s)) :
    s.view = c.view ∧
      match p with
      | .found n => s.accessNodeId = some n ∧ s.budget = c.budget
      | .skipped _ => s.accessNodeId = none ∧ s.budget + 1 = c.budget
      | .none => s = c := by
  unfold recommendClientOnce at h
  cases hc : c.accessNodeId with
  | some n =>
    simp only [hc, fetchClient] at h
    split_ifs at h <;> cases h <;> simp [budget, hc]
    omega
  | none =>
    simp only [hc, nextAccessNodeId] at h
    split_ifs at h with h1 h2
    · simp only [fetchClient] at h
      split_ifs at h <;> cases h <;> simp [budget, hc] <;> omega
    · cases h
      simp

/-! ## The error classifier -/

/-- **One hint.**  `apply_not_leader_status` follows a named leader whose term is above the
local rank, and otherwise only forgets the access node. -/
theorem applyNotLeaderStatus_some (c : GroupClient) (term : UInt64) (leader : ReplicaDesc) :
    c.applyNotLeaderStatus term (some leader) =
      if termRank c.leaderState < term.toNat + 1 then
        { c with accessNodeId := some leader.nodeId, leaderState := some (leader.id, term),
                 replicas := moveReplicaToFirstElement c.replicas leader }
      else { c with accessNodeId := none } := by
  have hacc : (!(c.leaderState.map fun (_, localTerm) => decide (localTerm ≥ term)).getD false)
      = true ↔ termRank c.leaderState < term.toNat + 1 := by
    cases c.leaderState <;> simp [termRank, uint64_le_iff]
  simp only [applyNotLeaderStatus, hacc]

variable {e : Error} {opt : InvokeOpt} {c' : GroupClient}

/-- **What a recovered failure does.**  `apply_status` returns `Ok(())` by clearing the access
node, by following a leader of higher term rank, or by adopting a descriptor of higher epoch. -/
theorem applyStatus_eq_ok (h : c.applyStatus e opt = (.ok (), c')) :
    c' = { c with accessNodeId := none } ∨
    (∃ g term leader, e = .notLeader g term (some leader) ∧
      termRank c.leaderState < termRank (some (leader.id, term)) ∧
      c' = { c with accessNodeId := some leader.nodeId, leaderState := some (leader.id, term),
                    replicas := moveReplicaToFirstElement c.replicas leader }) ∨
    (∃ d, e = .epochNotMatch d ∧ c.epoch < d.epoch ∧
      c' = { c with replicas := moveNodeToFirstElement d.replicas (c.accessNodeId.getD 0),
                    epoch := d.epoch, nextAccessIndex := 1 }) := by
  cases e with
  | notLeader g term leader =>
    simp only [applyStatus, Prod.mk.injEq] at h
    obtain ⟨-, rfl⟩ := h
    cases leader with
    | none => exact .inl rfl
    | some leader =>
      rw [applyNotLeaderStatus_some]
      split_ifs with hnew
      · exact .inr (.inl ⟨g, term, leader, rfl, hnew, rfl⟩)
      · exact .inl rfl
  | epochNotMatch d =>
    simp only [applyStatus, applyEpochNotMatchStatus] at h
    split_ifs at h with h1 h2 h3 <;> cases h
    exact .inr (.inr ⟨d, rfl, by simpa using h2, rfl⟩)
  | transport s =>
    simp only [applyStatus] at h
    split_ifs at h <;> cases h
    exact .inl rfl
  | groupNotFound | connect => cases h; exact .inl rfl
  | _ => cases h

/-- `apply_status` leaves the client as it was when it does not return `Ok(())`. -/
theorem applyStatus_snd_of_ne_ok (h : (c.applyStatus e opt).1 ≠ .ok ()) :
    (c.applyStatus e opt).2 = c := by
  cases e <;> simp only [applyStatus, applyEpochNotMatchStatus, ne_eq, not_true_eq_false] at h ⊢ <;>
    (try split_ifs at h ⊢) <;> simp_all

/-- A recovered failure never lowers the epoch or the leader's term rank. -/
theorem applyStatus_mono (h : c.applyStatus e opt = (.ok (), c')) :
    c.epoch ≤ c'.epoch ∧ termRank c.leaderState ≤ termRank c'.leaderState := by
  rcases applyStatus_eq_ok h with rfl | ⟨_, _, _, -, hr, rfl⟩ | ⟨_, -, he, rfl⟩
  · exact ⟨UInt64.le_refl _, le_rfl⟩
  · exact ⟨UInt64.le_refl _, hr.le⟩
  · exact ⟨uint64_le_iff.mpr (uint64_lt_iff.mp he).le, le_rfl⟩

end GroupClient

open GroupClient

variable {V : Type} {opt : InvokeOpt} {dl : Option Nat} {i : Input V} {c : GroupClient}

/-! ## Turns -/

/-- **What an attempt does.**  It returns with the client it started from, or `apply_status`
recovered and the loop goes on (or stops at the deadline) with the recovered client. -/
theorem attempt_cases (opt : InvokeOpt) (dl : Option Nat) (reply : Except Error V)
    (expired : Bool) (s : GroupClient) :
    (∃ r, attempt opt dl reply expired s = .finish r s) ∨
    ∃ e s', reply = .error e ∧ s.applyStatus e opt = (.ok (), s') ∧
      (attempt opt dl reply expired s = .again s' ∨
        attempt opt dl reply expired s = .finish (.err (.deadlineExceeded "issue rpc")) s') := by
  cases reply with
  | ok v => exact .inl ⟨_, rfl⟩
  | error e =>
    have hsnd : (s.applyStatus e opt).1 ≠ .ok () → (s.applyStatus e opt).2 = s :=
      applyStatus_snd_of_ne_ok
    rcases hs : s.applyStatus e opt with ⟨⟨⟩ | e' | p, s'⟩ <;> rw [hs] at hsnd <;>
      simp only [attempt, hs]
    · refine .inr ⟨e, s', rfl, hs, ?_⟩
      split <;> simp
    all_goals exact .inl ⟨_, by rw [show s' = s from hsnd (by simp)]⟩

/-- **What a turn does**, by what `recommend_client`'s pass found. -/
theorem invokeTurn_cases (opt : InvokeOpt) (dl : Option Nat) (i : Input V) (c : GroupClient) :
    (∃ p, c.recommendClientOnce i.reachable = .error p ∧
      invokeTurn opt dl i c = (.aborted p, .finish (.panic p) c)) ∨
    (∃ s, c.recommendClientOnce i.reachable = .ok (.none, s) ∧
      invokeTurn opt dl i c = (.exhausted, .finish (.err (.groupNotAccessable s.groupId)) s)) ∨
    (∃ n s, c.recommendClientOnce i.reachable = .ok (.skipped n, s) ∧
      invokeTurn opt dl i c = (.skipped n, .again s)) ∨
    (∃ n s, c.recommendClientOnce i.reachable = .ok (.found n, s) ∧
      invokeTurn opt dl i c =
        (.attempted n ⟨s.groupId, s.epoch, s.timeout⟩ i.reply, attempt opt dl i.reply i.expired s)) := by
  unfold invokeTurn
  rcases c.recommendClientOnce i.reachable with p | ⟨n | n | _, s⟩
  · exact .inl ⟨p, rfl, rfl⟩
  · exact .inr (.inr (.inr ⟨n, s, rfl, rfl⟩))
  · exact .inr (.inr (.inl ⟨n, s, rfl, rfl⟩))
  · exact .inr (.inl ⟨s, rfl, rfl⟩)

/-- **A turn that goes on** skipped an unreachable node, or attempted a node and recovered from
its failure with `apply_status`. -/
theorem invokeTurn_eq_again {ev : Event V} (h : invokeTurn opt dl i c = (ev, .again c')) :
    (∃ n, c.recommendClientOnce i.reachable = .ok (.skipped n, c') ∧ ev = .skipped n) ∨
    ∃ n s e, c.recommendClientOnce i.reachable = .ok (.found n, s) ∧
      ev = .attempted n ⟨s.groupId, s.epoch, s.timeout⟩ (.error e) ∧
      s.applyStatus e opt = (.ok (), c') := by
  rcases invokeTurn_cases opt dl i c with ⟨p, -, h'⟩ | ⟨s, -, h'⟩ | ⟨n, s, hs, h'⟩ | ⟨n, s, hs, h'⟩ <;>
    rw [h'] at h <;> simp only [Prod.mk.injEq, Next.again.injEq] at h
  · cases h.2
  · cases h.2
  · obtain ⟨rfl, rfl⟩ := h
    exact .inl ⟨n, hs, rfl⟩
  · obtain ⟨rfl, hat⟩ := h
    rcases attempt_cases opt dl i.reply i.expired s with ⟨r, hr⟩ | ⟨e, s', hrep, hok, hr | hr⟩ <;>
      rw [hr] at hat <;> cases hat
    exact .inr ⟨n, s, e, hs, by rw [hrep], hok⟩

/-- A turn never lowers the epoch or the leader's term rank. -/
theorem invokeTurn_mono (opt : InvokeOpt) (dl : Option Nat) (i : Input V) (c : GroupClient) :
    c.epoch ≤ (invokeTurn opt dl i c).2.client.epoch ∧
      termRank c.leaderState ≤ termRank (invokeTurn opt dl i c).2.client.leaderState := by
  rcases invokeTurn_cases opt dl i c with ⟨p, -, h⟩ | ⟨s, hs, h⟩ | ⟨n, s, hs, h⟩ | ⟨n, s, hs, h⟩ <;>
    rw [h] <;> simp only [Next.client]
  · exact ⟨UInt64.le_refl _, le_rfl⟩
  · rw [(recommendClientOnce_spec hs).2]
    exact ⟨UInt64.le_refl _, le_rfl⟩
  · obtain ⟨hv, -⟩ := recommendClientOnce_spec hs
    simp only [view_eq_view_iff] at hv
    rw [hv.2.2.1, hv.2.2.2.1]
    exact ⟨UInt64.le_refl _, le_rfl⟩
  · obtain ⟨hv, -⟩ := recommendClientOnce_spec hs
    simp only [view_eq_view_iff] at hv
    rw [← hv.2.2.1, ← hv.2.2.2.1]
    rcases attempt_cases opt dl i.reply i.expired s with ⟨r, hr⟩ | ⟨e, s', -, hok, hr | hr⟩ <;>
      rw [hr]
    · exact ⟨UInt64.le_refl _, le_rfl⟩
    all_goals exact applyStatus_mono hok

/-- The context an attempt hands to `op` carries the client's group id, epoch and timeout at
the start of the turn, and the attempt's reply is the world's. -/
theorem invokeTurn_attempted {n : Nat} {ctx : InvokeContext} {r : Except Error V}
    (h : (invokeTurn opt dl i c).1 = .attempted n ctx r) :
    ctx = ⟨c.groupId, c.epoch, c.timeout⟩ ∧ r = i.reply := by
  rcases invokeTurn_cases opt dl i c with ⟨p, -, h'⟩ | ⟨s, -, h'⟩ | ⟨_, s, -, h'⟩ | ⟨_, s, hs, h'⟩ <;>
    rw [h'] at h <;> cases h
  obtain ⟨hv, -⟩ := recommendClientOnce_spec hs
  simp only [view_eq_view_iff] at hv
  simp [hv]

/-- **Where the epoch moves.**  A turn that changes the epoch is an attempt answered by
`EpochNotMatch` with a newer descriptor, whose epoch the client adopts. -/
theorem invokeTurn_epoch_ne (h : (invokeTurn opt dl i c).2.client.epoch ≠ c.epoch) :
    ∃ n d, (invokeTurn opt dl i c).1 =
        .attempted n ⟨c.groupId, c.epoch, c.timeout⟩ (.error (.epochNotMatch d)) ∧
      c.epoch < d.epoch ∧ (invokeTurn opt dl i c).2.client.epoch = d.epoch := by
  rcases invokeTurn_cases opt dl i c with ⟨p, -, h'⟩ | ⟨s, hs, h'⟩ | ⟨n, s, hs, h'⟩ | ⟨n, s, hs, h'⟩ <;>
    rw [h'] at h ⊢ <;> simp only [Next.client] at h ⊢
  · exact absurd rfl h
  · exact absurd (congrArg epoch (recommendClientOnce_spec hs).2) h
  · obtain ⟨hv, -⟩ := recommendClientOnce_spec hs
    exact absurd (view_eq_view_iff.mp hv).2.2.1 h
  · obtain ⟨hv, -⟩ := recommendClientOnce_spec hs
    simp only [view_eq_view_iff] at hv
    rcases attempt_cases opt dl i.reply i.expired s with ⟨r, hr⟩ | ⟨e, s', he, hok, hr | hr⟩ <;>
      rw [hr] at h ⊢ <;> simp only [Next.client] at h ⊢
    · exact absurd hv.2.2.1 h
    all_goals
      rcases applyStatus_eq_ok hok with rfl | ⟨_, _, _, -, -, rfl⟩ | ⟨d, rfl, hd, rfl⟩
      · exact absurd hv.2.2.1 h
      · exact absurd hv.2.2.1 h
      · exact ⟨n, d, by simp [hv, he], hv.2.2.1 ▸ hd, rfl⟩

end Sekas
