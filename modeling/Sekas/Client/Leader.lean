import Sekas.Client.Turn

/-!
# Sekas.Client.Leader

Leader hints under the term rule.  `apply_not_leader_status` follows a `NotLeader` hint that
names a leader only when the hint's term is above the local leader's, so a run of hints ends
where the greatest term puts it, whatever their order and however often each one arrives.

* `notLeaderFold_of_rejected`: hints no newer than the local leader change neither the leader
  state nor the replicas;
* `notLeaderFold_of_max`, `notLeaderFold_end`: a run ends on its greatest hint, with that
  leader's node in front of the replicas, when the hint is newer than the start, and on the
  start's leader state otherwise;
* `notLeaderFold_converges`: two runs of the same hints agree.
-/

namespace Sekas

namespace GroupClient

/-- The hints `NotLeader { term, leader: Some(leader) }` applied in turn, as the retry loop
applies them when they arrive one after another. -/
def notLeaderFold (c : GroupClient) (hints : List (UInt64 × ReplicaDesc)) : GroupClient :=
  hints.foldl (fun c m => c.applyNotLeaderStatus m.1 (some m.2)) c

@[simp] theorem notLeaderFold_nil (c : GroupClient) : notLeaderFold c [] = c := rfl

@[simp] theorem notLeaderFold_cons (c : GroupClient) (m : UInt64 × ReplicaDesc) (hints) :
    notLeaderFold c (m :: hints) = notLeaderFold (c.applyNotLeaderStatus m.1 (some m.2)) hints :=
  rfl

/-- The local leader is older than a term exactly when its rank is below the term's. -/
theorem all_lt_iff_termRank_lt (s : Option (Nat × UInt64)) (term : UInt64) :
    s.all (fun p => p.2 < term) = true ↔ termRank s < term.toNat + 1 := by
  cases s <;> simp [termRank, uint64_lt_iff]

/-- **Stale hints.**  Hints whose terms are all within the local rank keep the leader state
and the replicas. -/
theorem notLeaderFold_of_rejected :
    ∀ (c : GroupClient) (hints : List (UInt64 × ReplicaDesc)),
      (∀ m ∈ hints, m.1.toNat + 1 ≤ termRank c.leaderState) →
      (notLeaderFold c hints).leaderState = c.leaderState ∧
        (notLeaderFold c hints).replicas = c.replicas
  | _, [], _ => ⟨rfl, rfl⟩
  | c, m :: hints, h => by
    have hm : c.applyNotLeaderStatus m.1 (some m.2) = { c with accessNodeId := none } := by
      rw [applyNotLeaderStatus_some, if_neg (Nat.not_lt.mpr (h m (List.mem_cons_self _ _)))]
    rw [notLeaderFold_cons, hm]
    exact notLeaderFold_of_rejected _ hints fun m' hm' => h m' (List.mem_cons_of_mem _ hm')

section Fold

variable {hints : List (UInt64 × ReplicaDesc)} {m : UInt64 × ReplicaDesc}

/-- **The greatest hint wins.**  When the greatest term among hints that agree on each term's
leader is above the start's rank, the fold ends on that hint's leader and term, with the
leader's node in front of the replicas. -/
theorem notLeaderFold_of_max (c : GroupClient)
    (hcons : ∀ m ∈ hints, ∀ m' ∈ hints, m.1 = m'.1 → m.2 = m'.2)
    (hm : m ∈ hints) (hmax : ∀ m' ∈ hints, m'.1 ≤ m.1)
    (hnew : termRank c.leaderState < m.1.toNat + 1) :
    (notLeaderFold c hints).leaderState = some (m.2.id, m.1) ∧
      (notLeaderFold c hints).replicas.head?.map (·.nodeId) = some m.2.nodeId := by
  induction hints generalizing c with
  | nil => cases hm
  | cons x xs ih =>
    have hx : x.1.toNat ≤ m.1.toNat := hmax x (List.mem_cons_self _ _)
    rw [notLeaderFold_cons]
    by_cases hxm : x.1 = m.1
    · -- `x` is the greatest hint: it is followed, and every later hint is stale
      obtain rfl : x = m := Prod.ext hxm (hcons x (List.mem_cons_self _ _) m hm hxm)
      rw [applyNotLeaderStatus_some, if_pos hnew]
      obtain ⟨hl, hr⟩ := notLeaderFold_of_rejected
        { c with accessNodeId := some x.2.nodeId, leaderState := some (x.2.id, x.1),
                 replicas := moveReplicaToFirstElement c.replicas x.2 } xs
        fun m' hm' => Nat.succ_le_succ (hmax m' (List.mem_cons_of_mem _ hm'))
      exact ⟨hl, hr ▸ head?_moveReplicaToFirstElement⟩
    · -- the greatest hint comes later, and `x` leaves the rank below it
      have hmxs : m ∈ xs := (List.mem_cons.mp hm).resolve_left fun h => hxm (h ▸ rfl)
      have hlt : x.1.toNat < m.1.toNat := Nat.lt_of_le_of_ne hx fun h => hxm (UInt64.toNat.inj h)
      refine ih _ (fun a ha b hb => hcons a (List.mem_cons_of_mem _ ha) b (List.mem_cons_of_mem _ hb))
        hmxs (fun m' hm' => hmax m' (List.mem_cons_of_mem _ hm')) ?_
      rw [applyNotLeaderStatus_some]
      split
      · simp only [termRank]; omega
      · exact hnew

/-- **Where a run of hints ends**, by its greatest hint: on that hint's leader when its term is
above the local leader's (or there is none), with the leader's node in front of the replicas,
and on the start's leader state otherwise. -/
theorem notLeaderFold_end (c : GroupClient)
    (hcons : ∀ m ∈ hints, ∀ m' ∈ hints, m.1 = m'.1 → m.2 = m'.2)
    (hm : m ∈ hints) (hmax : ∀ m' ∈ hints, m'.1 ≤ m.1) :
    (notLeaderFold c hints).leaderState =
        (if c.leaderState.all (fun s => s.2 < m.1) then some (m.2.id, m.1) else c.leaderState) ∧
      (c.leaderState.all (fun s => s.2 < m.1) = true →
        (notLeaderFold c hints).replicas.head?.map (·.nodeId) = some m.2.nodeId) := by
  by_cases hnew : c.leaderState.all (fun s => s.2 < m.1) = true
  · obtain ⟨h, h'⟩ := notLeaderFold_of_max c hcons hm hmax ((all_lt_iff_termRank_lt _ _).mp hnew)
    exact ⟨by rw [if_pos hnew, h], fun _ => h'⟩
  · rw [if_neg hnew]
    refine ⟨(notLeaderFold_of_rejected c hints fun m' hm' => ?_).1, fun h => absurd h hnew⟩
    have := uint64_le_iff.mp (hmax m' hm')
    rw [all_lt_iff_termRank_lt] at hnew
    omega

end Fold

/-- A non-empty run of hints has one of greatest term. -/
theorem exists_max_term :
    ∀ {hints : List (UInt64 × ReplicaDesc)}, hints ≠ [] → ∃ m ∈ hints, ∀ m' ∈ hints, m'.1 ≤ m.1
  | [x], _ => ⟨x, List.mem_singleton_self x, List.forall_mem_singleton.mpr (UInt64.le_refl _)⟩
  | x :: y :: ys, _ => by
    obtain ⟨m, hm, hmax⟩ := @exists_max_term (y :: ys) (List.cons_ne_nil _ _)
    rcases UInt64.le_total x.1 m.1 with h | h
    · exact ⟨m, List.mem_cons_of_mem _ hm, List.forall_mem_cons.mpr ⟨h, hmax⟩⟩
    · exact ⟨x, List.mem_cons_self _ _, List.forall_mem_cons.mpr
        ⟨UInt64.le_refl _, fun m' hm' => UInt64.le_trans (hmax m' hm') h⟩⟩

/-- **Hints converge.**  Two runs of `NotLeader` hints with the same elements, where equal
terms name the same leader, end on the same leader state: the greatest hint's leader and term
when that term is above the local leader's (or there is no local leader), the start's leader
state otherwise.  When the greatest hint is followed, both runs put its leader's node in front
of the replicas. -/
theorem notLeaderFold_converges (c : GroupClient) (l₁ l₂ : List (UInt64 × ReplicaDesc))
    (hset : ∀ m, m ∈ l₁ ↔ m ∈ l₂)
    (hcons : ∀ m ∈ l₁, ∀ m' ∈ l₁, m.1 = m'.1 → m.2 = m'.2) :
    (notLeaderFold c l₁).leaderState = (notLeaderFold c l₂).leaderState ∧
      ∀ m ∈ l₁, (∀ m' ∈ l₁, m'.1 ≤ m.1) →
        (notLeaderFold c l₁).leaderState =
            (if c.leaderState.all (fun s => s.2 < m.1) then some (m.2.id, m.1)
              else c.leaderState) ∧
          (c.leaderState.all (fun s => s.2 < m.1) = true →
            (notLeaderFold c l₁).replicas.head?.map (·.nodeId) = some m.2.nodeId ∧
              (notLeaderFold c l₂).replicas.head?.map (·.nodeId) = some m.2.nodeId) := by
  have hcons₂ : ∀ m ∈ l₂, ∀ m' ∈ l₂, m.1 = m'.1 → m.2 = m'.2 := fun m hm m' hm' =>
    hcons m ((hset m).mpr hm) m' ((hset m').mpr hm')
  -- the greatest hint of the one run is the greatest of the other
  have hmax₂ : ∀ m ∈ l₁, (∀ m' ∈ l₁, m'.1 ≤ m.1) → m ∈ l₂ ∧ ∀ m' ∈ l₂, m'.1 ≤ m.1 :=
    fun m hm hmax => ⟨(hset m).mp hm, fun m' hm' => hmax m' ((hset m').mpr hm')⟩
  refine ⟨?_, fun m hm hmax => ?_⟩
  · by_cases h₁ : l₁ = []
    · subst h₁
      rw [List.eq_nil_iff_forall_not_mem.mpr fun m hm => List.not_mem_nil m ((hset m).mpr hm)]
    · obtain ⟨m, hm, hmax⟩ := exists_max_term h₁
      obtain ⟨hm₂, hmax₂⟩ := hmax₂ m hm hmax
      rw [(notLeaderFold_end c hcons hm hmax).1, (notLeaderFold_end c hcons₂ hm₂ hmax₂).1]
  · obtain ⟨hm₂, hmax₂⟩ := hmax₂ m hm hmax
    obtain ⟨h₁, h₁'⟩ := notLeaderFold_end c hcons hm hmax
    exact ⟨h₁, fun hnew => ⟨h₁' hnew, (notLeaderFold_end c hcons₂ hm₂ hmax₂).2 hnew⟩⟩

/-- A client following replica 7 at term 3 on node 1. -/
def hintedClient : GroupClient := ⟨1, none, 1, some (7, 3), [⟨7, 1⟩, ⟨8, 2⟩], some 1, 0, [1, 2]⟩

/-- A newer hint for replica 9 on node 3, then a stale one for replica 8. -/
def hintsInOrder : List (UInt64 × ReplicaDesc) := [(5, ⟨9, 3⟩), (2, ⟨8, 2⟩)]

/-- The same hints with the stale one first and repeated. -/
def hintsReordered : List (UInt64 × ReplicaDesc) := [(2, ⟨8, 2⟩), (5, ⟨9, 3⟩), (2, ⟨8, 2⟩)]

/-- Both orders end on replica 9 at term 5, with node 3 in front. -/
theorem notLeaderFold_converges_hinted :
    (∀ m, m ∈ hintsInOrder ↔ m ∈ hintsReordered) ∧
      (∀ m ∈ hintsInOrder, ∀ m' ∈ hintsInOrder, m.1 = m'.1 → m.2 = m'.2) ∧
      ((notLeaderFold hintedClient hintsInOrder).leaderState =
          (notLeaderFold hintedClient hintsReordered).leaderState ∧
        ∀ m ∈ hintsInOrder, (∀ m' ∈ hintsInOrder, m'.1 ≤ m.1) →
          (notLeaderFold hintedClient hintsInOrder).leaderState =
              (if hintedClient.leaderState.all (fun s => s.2 < m.1) then some (m.2.id, m.1)
                else hintedClient.leaderState) ∧
            (hintedClient.leaderState.all (fun s => s.2 < m.1) = true →
              (notLeaderFold hintedClient hintsInOrder).replicas.head?.map (·.nodeId) =
                  some m.2.nodeId ∧
                (notLeaderFold hintedClient hintsReordered).replicas.head?.map (·.nodeId) =
                  some m.2.nodeId)) :=
  have hset : ∀ m, m ∈ hintsInOrder ↔ m ∈ hintsReordered := fun m => by
    simp only [hintsInOrder, hintsReordered, List.mem_cons, List.mem_singleton,
      List.not_mem_nil, or_false]
    tauto
  ⟨hset, by decide, notLeaderFold_converges hintedClient hintsInOrder hintsReordered hset
    (by decide)⟩

end GroupClient

end Sekas
