import Sekas.Api

/-!
# Sekas.Client.Replicas

The two helpers of `group_client.rs` that bring a replica to the front of the client's
replica list, the position the retry loop tries first and last.  Both are a `position`
search followed by `slice::swap(0, idx)`; `move_replica_to_first_element` pushes the replica
first when no replica is on its node.
-/

namespace Sekas

/-- `slice::swap`: exchange the elements at positions `i` and `j`.  Every use below swaps
positions that are in range. -/
def swap {α : Type} (l : List α) (i j : Nat) : List α :=
  match l[i]?, l[j]? with
  | some a, some b => (l.set i b).set j a
  | _, _ => l

/-- `move_node_to_first_element`: swap the first replica on the node to the front. -/
def moveNodeToFirstElement (replicas : List ReplicaDesc) (nodeId : Nat) : List ReplicaDesc :=
  match replicas.findIdx? fun replica => replica.nodeId = nodeId with
  | some idx => if idx ≠ 0 then swap replicas 0 idx else replicas
  | none => replicas

/-- `move_replica_to_first_element`: swap the first replica on the leader's node to the
front, pushing the leader's descriptor first when no replica is on that node. -/
def moveReplicaToFirstElement (replicas : List ReplicaDesc) (replica : ReplicaDesc) :
    List ReplicaDesc :=
  let (replicas, idx) :=
    match replicas.findIdx? fun r => r.nodeId = replica.nodeId with
    | some idx => (replicas, idx)
    | none =>
      let pushed := replicas ++ [replica]
      (pushed, pushed.length - 1)
  if idx ≠ 0 then swap replicas 0 idx else replicas

/-- Swapping keeps the length. -/
@[simp] theorem length_swap {α : Type} (l : List α) (i j : Nat) : (swap l i j).length = l.length := by
  unfold swap
  split <;> simp

/-- Bringing a node to the front keeps the length. -/
@[simp] theorem length_moveNodeToFirstElement (replicas : List ReplicaDesc) (nodeId : Nat) :
    (moveNodeToFirstElement replicas nodeId).length = replicas.length := by
  unfold moveNodeToFirstElement
  split <;> [split <;> simp; rfl]

/-- Swapping the front with an in-range position: the front takes that position's element,
that position takes the front's, and every other position keeps its own. -/
theorem getElem?_swap_zero {α : Type} {l : List α} {j : Nat} (hj : j < l.length) (p : Nat) :
    (swap l 0 j)[p]? = if p = j then l[0]? else if p = 0 then l[j]? else l[p]? := by
  have h0 : 0 < l.length := Nat.lt_of_le_of_lt (Nat.zero_le _) hj
  simp only [swap, List.getElem?_eq_getElem h0, List.getElem?_eq_getElem hj, List.getElem?_set,
    List.length_set]
  by_cases hpj : p = j
  · subst hpj
    simp [hj]
  · by_cases hp0 : p = 0
    · subst hp0
      simp [h0, hpj, Ne.symm hpj]
    · simp [Ne.symm hpj, Ne.symm hp0, hpj, hp0]

/-- Swapping the front with itself changes nothing. -/
@[simp] theorem swap_zero_zero {α : Type} : ∀ l : List α, swap l 0 0 = l
  | [] => rfl
  | _ :: _ => by simp [swap]

/-- The front after a swap is the swapped position's element. -/
theorem getElem?_zero_swap_zero {α : Type} {l : List α} {j : Nat} (hj : j < l.length) :
    (swap l 0 j)[0]? = l[j]? := by
  rw [getElem?_swap_zero hj]
  by_cases h : 0 = j
  · rw [if_pos h, h]
  · rw [if_neg h, if_pos rfl]

/-- Swapping the front with an in-range position permutes the list. -/
theorem perm_swap_zero {α : Type} [DecidableEq α] {l : List α} {j : Nat} (hj : j < l.length) :
    List.Perm (swap l 0 j) l := by
  have h0 : 0 < l.length := by omega
  rw [List.perm_iff_count]
  intro b
  simp only [swap, List.getElem?_eq_getElem h0, List.getElem?_eq_getElem hj]
  rw [List.count_set _ _ _ _ (by simpa using hj), List.count_set _ _ _ _ h0, List.getElem_set,
    ite_self]
  have := List.boole_getElem_le_countP (· == b) l 0 h0
  simp only [List.count_eq_countP] at *
  split_ifs at * <;> omega

/-- After the front is swapped, an element is the swapped position's, or sits in the original
list at a position no later than where it is now. -/
theorem getElem?_swap_zero_eq_some {α : Type} {l : List α} {j p : Nat} {r : α}
    (hj : j < l.length) (h : (swap l 0 j)[p]? = some r) :
    l[j]? = some r ∨ ∃ q ≤ p, l[q]? = some r := by
  rw [getElem?_swap_zero hj] at h
  split_ifs at h
  · exact .inr ⟨0, Nat.zero_le _, h⟩
  · exact .inl h
  · exact .inr ⟨p, le_rfl, h⟩

/-- An element of a list with one element appended is one of the list's, at the same
position, or the appended one. -/
theorem getElem?_append_singleton_eq_some {α : Type} {l : List α} {x r : α} {q : Nat}
    (h : (l ++ [x])[q]? = some r) : l[q]? = some r ∨ r = x := by
  rcases Nat.lt_or_ge q l.length with hq | hq
  · exact .inl (by rwa [List.getElem?_append_left hq] at h)
  · rw [List.getElem?_append_right hq] at h
    rcases hx : q - l.length with _ | k <;> rw [hx] at h
    · exact .inr (Option.some.inj h).symm
    · cases h

/-- The first element satisfying `p` is the one at the first index satisfying it. -/
theorem find?_eq_bind_findIdx? {α : Type} (p : α → Bool) : ∀ l : List α,
    l.find? p = (l.findIdx? p).bind (l[·]?)
  | [] => rfl
  | a :: l => by
    by_cases h : p a
    · simp [List.find?_cons, List.findIdx?_cons, h]
    · simp [List.find?_cons_of_neg _ h, List.findIdx?_cons, h, find?_eq_bind_findIdx? p l,
        Option.bind_map, Function.comp_def]

/-! ## The two helpers as swaps -/

section Helpers

variable {replicas : List ReplicaDesc} {replica : ReplicaDesc} {nodeId i : Nat}

/-- `move_replica_to_first_element` when a replica is on the leader's node: the first such
replica is swapped to the front. -/
theorem moveReplicaToFirstElement_of_findIdx?_eq_some
    (h : replicas.findIdx? (fun r => r.nodeId = replica.nodeId) = some i) :
    moveReplicaToFirstElement replicas replica = swap replicas 0 i := by
  unfold moveReplicaToFirstElement
  simp only [h]
  split_ifs with hi
  · rfl
  · rw [show i = 0 by simpa using hi, swap_zero_zero]

/-- `move_replica_to_first_element` when no replica is on the leader's node: the leader's
descriptor is pushed, then swapped to the front. -/
theorem moveReplicaToFirstElement_of_findIdx?_eq_none
    (h : replicas.findIdx? (fun r => r.nodeId = replica.nodeId) = none) :
    moveReplicaToFirstElement replicas replica = swap (replicas ++ [replica]) 0 replicas.length := by
  unfold moveReplicaToFirstElement
  simp only [h, List.length_append, List.length_singleton, Nat.add_sub_cancel]
  split_ifs with hi
  · rfl
  · rw [show replicas.length = 0 by simpa using hi, swap_zero_zero]

/-- `move_node_to_first_element` when a replica is on the node: the first such replica is
swapped to the front. -/
theorem moveNodeToFirstElement_of_findIdx?_eq_some
    (h : replicas.findIdx? (fun r => r.nodeId = nodeId) = some i) :
    moveNodeToFirstElement replicas nodeId = swap replicas 0 i := by
  unfold moveNodeToFirstElement
  simp only [h]
  split_ifs with hi
  · rfl
  · rw [show i = 0 by simpa using hi, swap_zero_zero]

/-- `move_node_to_first_element` when no replica is on the node changes nothing. -/
theorem moveNodeToFirstElement_of_findIdx?_eq_none
    (h : replicas.findIdx? (fun r => r.nodeId = nodeId) = none) :
    moveNodeToFirstElement replicas nodeId = replicas := by
  unfold moveNodeToFirstElement
  simp only [h]

/-- **The leader's node is in front** after `move_replica_to_first_element`. -/
theorem head?_moveReplicaToFirstElement :
    (moveReplicaToFirstElement replicas replica).head?.map (·.nodeId) = some replica.nodeId := by
  rw [List.head?_eq_getElem?]
  rcases hf : replicas.findIdx? (fun r => r.nodeId = replica.nodeId) with _ | j
  · rw [moveReplicaToFirstElement_of_findIdx?_eq_none hf, getElem?_zero_swap_zero (by simp)]
    simp
  · obtain ⟨hj, hjx, -⟩ := List.findIdx?_eq_some_iff_getElem.mp hf
    rw [moveReplicaToFirstElement_of_findIdx?_eq_some hf, getElem?_zero_swap_zero hj,
      List.getElem?_eq_getElem hj]
    simpa using hjx

/-- `move_replica_to_first_element` permutes the list with the leader's descriptor pushed
when no replica was on its node, and the list itself otherwise. -/
theorem perm_moveReplicaToFirstElement :
    List.Perm (moveReplicaToFirstElement replicas replica)
      (if ∃ x ∈ replicas, x.nodeId = replica.nodeId then replicas else replicas ++ [replica]) := by
  rcases hf : replicas.findIdx? (fun r => r.nodeId = replica.nodeId) with _ | j
  · have hno : ¬ ∃ x ∈ replicas, x.nodeId = replica.nodeId := by
      simpa using List.findIdx?_eq_none_iff.mp hf
    rw [if_neg hno, moveReplicaToFirstElement_of_findIdx?_eq_none hf]
    exact perm_swap_zero (by simp)
  · obtain ⟨hj, hjx, -⟩ := List.findIdx?_eq_some_iff_getElem.mp hf
    rw [if_pos ⟨_, List.getElem_mem hj, by simpa using hjx⟩,
      moveReplicaToFirstElement_of_findIdx?_eq_some hf]
    exact perm_swap_zero hj

/-- `move_node_to_first_element` permutes the list. -/
theorem perm_moveNodeToFirstElement : List.Perm (moveNodeToFirstElement replicas nodeId) replicas := by
  rcases hf : replicas.findIdx? (fun r => r.nodeId = nodeId) with _ | j
  · rw [moveNodeToFirstElement_of_findIdx?_eq_none hf]
  · rw [moveNodeToFirstElement_of_findIdx?_eq_some hf]
    exact perm_swap_zero (List.findIdx?_eq_some_iff_getElem.mp hf).1

/-- The front after `move_node_to_first_element` is the first replica on the node. -/
theorem head?_moveNodeToFirstElement {x : ReplicaDesc}
    (h : replicas.find? (fun r => r.nodeId = nodeId) = some x) :
    (moveNodeToFirstElement replicas nodeId).head? = some x := by
  rw [find?_eq_bind_findIdx?] at h
  rcases hf : replicas.findIdx? (fun r => r.nodeId = nodeId) with _ | j <;> rw [hf] at h
  · cases h
  · rw [List.head?_eq_getElem?, moveNodeToFirstElement_of_findIdx?_eq_some hf,
      getElem?_zero_swap_zero (List.findIdx?_eq_some_iff_getElem.mp hf).1]
    exact h

end Helpers

/-- **What `move_replica_to_first_element` moves.**  Every element of its result is on the
leader's node, or sat in the original list at a position no later than where it is now. -/
theorem getElem?_moveReplicaToFirstElement_eq_some {replicas : List ReplicaDesc}
    {replica r : ReplicaDesc} {p : Nat} (h : (moveReplicaToFirstElement replicas replica)[p]? = some r) :
    r.nodeId = replica.nodeId ∨ ∃ q ≤ p, replicas[q]? = some r := by
  unfold moveReplicaToFirstElement at h
  rcases hf : replicas.findIdx? (fun r => decide (r.nodeId = replica.nodeId)) with _ | j <;>
    simp only [hf] at h
  · have hpushed : ∀ q, (replicas ++ [replica])[q]? = some r → q ≤ p →
        r.nodeId = replica.nodeId ∨ ∃ q ≤ p, replicas[q]? = some r := fun q hq hqp =>
      (getElem?_append_singleton_eq_some hq).elim (fun h => .inr ⟨q, hqp, h⟩) fun h => .inl (h ▸ rfl)
    split_ifs at h
    · rcases getElem?_swap_zero_eq_some (by simp) h with h | ⟨q, hqp, h⟩
      · rcases getElem?_append_singleton_eq_some h with h | rfl
        · rw [List.getElem?_eq_none (by simp)] at h
          cases h
        · exact .inl rfl
      · exact hpushed q h hqp
    · exact hpushed p h le_rfl
  · obtain ⟨hjl, hjx, -⟩ := List.findIdx?_eq_some_iff_getElem.mp hf
    split_ifs at h
    · rcases getElem?_swap_zero_eq_some hjl h with h | h
      · rw [List.getElem?_eq_getElem hjl, Option.some.injEq] at h
        subst h
        exact .inl (by simpa using hjx)
      · exact .inr h
    · exact .inr ⟨p, le_rfl, h⟩

/-- **What `move_node_to_first_element` puts in front.**  When some replica is on the node,
the front replica is on it. -/
theorem getElem?_zero_moveNodeToFirstElement {replicas : List ReplicaDesc} {nodeId : Nat}
    {r : ReplicaDesc} (hn : ∃ r' ∈ replicas, r'.nodeId = nodeId)
    (h : (moveNodeToFirstElement replicas nodeId)[0]? = some r) : r.nodeId = nodeId := by
  unfold moveNodeToFirstElement at h
  split at h
  · rename_i j hj
    obtain ⟨hjl, hjx, -⟩ := List.findIdx?_eq_some_iff_getElem.mp hj
    split_ifs at h with hj0
    · rw [getElem?_swap_zero hjl, if_neg (Ne.symm hj0), if_pos rfl, List.getElem?_eq_getElem hjl,
        Option.some.injEq] at h
      subst h
      simpa using hjx
    · obtain rfl : j = 0 := by simpa using hj0
      rw [List.getElem?_eq_getElem hjl, Option.some.injEq] at h
      subst h
      simpa using hjx
  · rename_i hnone
    obtain ⟨r', hr', hr'n⟩ := hn
    simpa [hr'n] using List.findIdx?_eq_none_iff.mp hnone r' hr'

/-! ## Only the front and one position change -/

/-- **Both helpers swap one replica to the front.**  `move_replica_to_first_element` puts a
replica on the leader's node in front; it permutes the list when a replica was on that node, or
the list with the leader's descriptor pushed when none was; and it changes no position but the
front and the matched (or pushed) one.  `move_node_to_first_element` permutes the list, puts the
first replica on the node in front when there is one, and changes nothing when there is none. -/
theorem moveToFirstElement_swaps (rs : List ReplicaDesc) (r : ReplicaDesc) (n : Nat) :
    ((moveReplicaToFirstElement rs r).head?.map (·.nodeId) = some r.nodeId ∧
      ((∃ x ∈ rs, x.nodeId = r.nodeId) → List.Perm (moveReplicaToFirstElement rs r) rs) ∧
      ((¬ ∃ x ∈ rs, x.nodeId = r.nodeId) → List.Perm (moveReplicaToFirstElement rs r) (rs ++ [r])) ∧
      (∀ i, rs.findIdx? (fun x => x.nodeId = r.nodeId) = some i →
        ∀ p, p ≠ 0 → p ≠ i → (moveReplicaToFirstElement rs r)[p]? = rs[p]?) ∧
      (rs.findIdx? (fun x => x.nodeId = r.nodeId) = none →
        ∀ p, p ≠ 0 → p ≠ rs.length → (moveReplicaToFirstElement rs r)[p]? = (rs ++ [r])[p]?)) ∧
    (List.Perm (moveNodeToFirstElement rs n) rs ∧
      (∀ x, rs.find? (fun x => x.nodeId = n) = some x → (moveNodeToFirstElement rs n).head? = some x) ∧
      (rs.find? (fun x => x.nodeId = n) = none → moveNodeToFirstElement rs n = rs)) := by
  refine ⟨⟨head?_moveReplicaToFirstElement, fun h => ?_, fun h => ?_, fun i hi p hp0 hpi => ?_,
    fun hn p hp0 hpl => ?_⟩, perm_moveNodeToFirstElement, fun x => head?_moveNodeToFirstElement,
    fun hn => moveNodeToFirstElement_of_findIdx?_eq_none ?_⟩
  · simpa [if_pos h] using @perm_moveReplicaToFirstElement rs r
  · simpa [if_neg h] using @perm_moveReplicaToFirstElement rs r
  · rw [moveReplicaToFirstElement_of_findIdx?_eq_some hi,
      getElem?_swap_zero (List.findIdx?_eq_some_iff_getElem.mp hi).1, if_neg hpi, if_neg hp0]
  · rw [moveReplicaToFirstElement_of_findIdx?_eq_none hn, getElem?_swap_zero (by simp),
      if_neg hpl, if_neg hp0]
  · simpa using List.find?_eq_none.mp hn

end Sekas
