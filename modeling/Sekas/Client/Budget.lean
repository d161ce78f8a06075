import Sekas.Client.Classify

/-!
# Sekas.Client.Budget

How many attempts the retry loop makes, and why it stops.

A *progress event* is a turn that raises the epoch (an adopted `EpochNotMatch`) or the
leader's term rank (an accepted `NotLeader`).  Between two of them every turn spends one unit
of `budget`, the sticky access node plus the indices `next_access_node_id` can still hand
out, and an attempt needs a unit; no client has more than `replicas.len() + 2`.  So every
stretch of turns without a progress event makes at most that many attempts.

Progress events are bounded too: the epoch and the term are 64-bit and never go down
(`invokeTurn_mono`).  The loop therefore returns under every sequence of answers
(`invokeLoop_finishes`), by induction on the pair (events left, budget).
-/

namespace Sekas

open GroupClient

variable {V : Type} {opt : InvokeOpt} {dl : Option Nat} {i : Input V} {c c' : GroupClient}

/-- The client moved on: its epoch or its leader's term rank went up. -/
def Progressed (c c' : GroupClient) : Prop :=
  c.epoch < c'.epoch ∨ termRank c.leaderState < termRank c'.leaderState

/-- A progress event: the turn accepted a `NotLeader` or adopted an `EpochNotMatch`. -/
def Turn.Progress (t : Turn V) : Prop := Progressed t.before t.after

instance decidableProgressed (c c' : GroupClient) : Decidable (Progressed c c') :=
  inferInstanceAs (Decidable (_ ∨ _))

instance decidableTurnProgress (t : Turn V) : Decidable t.Progress :=
  decidableProgressed t.before t.after

/-- The event is an attempt of `op`. -/
def Event.isAttempt : Event V → Bool
  | .attempted .. => true
  | .aborted _ | .exhausted | .skipped _ => false

/-- The turn attempted `op` on a node. -/
def Turn.isAttempt (t : Turn V) : Bool := t.event.isAttempt

/-! ## One turn -/

/-- An attempt spends a unit of budget the turn had. -/
theorem invokeTurn_isAttempt_budget (h : (invokeTurn opt dl i c).1.isAttempt = true) :
    0 < c.budget := by
  rcases invokeTurn_cases opt dl i c with ⟨p, -, h'⟩ | ⟨s, -, h'⟩ | ⟨_, s, -, h'⟩ | ⟨m, s, hs, h'⟩
  any_goals rw [h'] at h; cases h
  obtain ⟨-, hacc, hb⟩ := recommendClientOnce_spec hs
  rw [← hb]
  simp only [budget, hacc, Option.isSome_some, ↓reduceIte]
  omega

/-- **A turn without progress** that lets the loop go on spends a unit of budget and keeps the
replicas. -/
theorem invokeTurn_again_budget (h : (invokeTurn opt dl i c).2 = .again c')
    (hp : ¬ Progressed c c') : c'.budget + 1 ≤ c.budget ∧ c'.replicas = c.replicas := by
  rcases invokeTurn_eq_again (Prod.ext rfl h) with ⟨n, hs, -⟩ | ⟨n, s, e, hs, -, hok⟩
  · obtain ⟨hv, -, hb⟩ := recommendClientOnce_spec hs
    exact ⟨hb.le, (view_eq_view_iff.mp hv).2.2.2.2⟩
  · obtain ⟨hv, hacc, hb⟩ := recommendClientOnce_spec hs
    simp only [view_eq_view_iff] at hv
    rcases applyStatus_eq_ok hok with rfl | ⟨_, _, _, -, hrank, rfl⟩ | ⟨_, -, he, rfl⟩
    · refine ⟨?_, hv.2.2.2.2⟩
      rw [← hb]
      simp only [budget, hacc, Option.isSome_some, Option.isSome_none, ↓reduceIte,
        Bool.false_eq_true]
      omega
    · exact absurd (.inr (by rw [← hv.2.2.2.1]; exact hrank)) hp
    · exact absurd (.inl (by rw [← hv.2.2.1]; exact he)) hp

/-- Progress events left before the 64-bit epoch and term run out. -/
def eventsLeft (c : GroupClient) : Nat :=
  (2 ^ 64 - c.epoch.toNat) + (2 ^ 64 + 1 - termRank c.leaderState)

/-- No term rank exceeds `2 ^ 64`. -/
theorem termRank_le (l : Option (Nat × UInt64)) : termRank l ≤ 2 ^ 64 := by
  rcases l with _ | ⟨_, t⟩
  · simp [termRank]
  · have := uint64_toNat_lt t
    simp only [termRank]
    omega

/-- A step that lowers neither epoch nor term rank spends a progress event exactly when it
progresses. -/
theorem eventsLeft_of_mono (he : c.epoch ≤ c'.epoch)
    (hr : termRank c.leaderState ≤ termRank c'.leaderState) :
    (Progressed c c' → eventsLeft c' < eventsLeft c) ∧
      (¬ Progressed c c' → eventsLeft c' = eventsLeft c) := by
  have h1 := uint64_toNat_lt c'.epoch
  have h2 := termRank_le c'.leaderState
  simp only [Progressed, eventsLeft, uint64_lt_iff, uint64_le_iff, not_or, not_lt] at he hr ⊢
  omega

/-! ## Runs of the loop -/

/-- The loop after a turn that goes on. -/
theorem invokeLoop_cons_again {is : List (Input V)} {ev : Event V}
    (h : invokeTurn opt dl i c = (ev, .again c')) :
    invokeLoop opt dl (i :: is) c =
      (⟨c, ev, c'⟩ :: (invokeLoop opt dl is c').1, (invokeLoop opt dl is c').2) := by
  simp [invokeLoop, h]

/-- The loop after a turn that returns. -/
theorem invokeLoop_cons_finish {is : List (Input V)} {ev : Event V} {r : Outcome V}
    (h : invokeTurn opt dl i c = (ev, .finish r c')) :
    invokeLoop opt dl (i :: is) c = ([⟨c, ev, c'⟩], .finish r c') := by
  simp [invokeLoop, h]

/-- The first turn of a run starts from the client the run starts from. -/
theorem invokeLoop_head_before {is : List (Input V)} {t : Turn V} {ts : List (Turn V)}
    (h : (invokeLoop opt dl is c).1 = t :: ts) : t.before = c := by
  cases is with
  | nil => cases h
  | cons i is =>
    rcases hturn : invokeTurn opt dl i c with ⟨ev, c' | ⟨r, c'⟩⟩
    · rw [invokeLoop_cons_again hturn] at h; cases h; rfl
    · rw [invokeLoop_cons_finish hturn] at h; cases h; rfl

/-- What follows some turns of a run is a run from the client they left. -/
theorem invokeLoop_suffix : ∀ (pre : List (Turn V)) (is : List (Input V)) (c : GroupClient)
    (rest : List (Turn V)), (invokeLoop opt dl is c).1 = pre ++ rest →
    ∃ is' c', (invokeLoop opt dl is' c').1 = rest
  | [], is, c, rest, h => ⟨is, c, h⟩
  | t :: pre, [], c, rest, h => by cases h
  | t :: pre, i :: is, c, rest, h => by
    rcases hturn : invokeTurn opt dl i c with ⟨ev, c' | ⟨r, c'⟩⟩
    · rw [invokeLoop_cons_again hturn] at h
      exact invokeLoop_suffix pre is c' rest (List.cons.inj h).2
    · rw [invokeLoop_cons_finish hturn] at h
      obtain ⟨-, hp⟩ := List.cons.inj h
      cases pre <;> cases hp
      exact ⟨[], c', rfl⟩

/-- **A stretch from the start of a run.**  Turns before the first progress event (that event
included) make at most `budget` attempts, and all start from the run's replicas. -/
theorem invokeLoop_stretch : ∀ (is : List (Input V)) (c : GroupClient) (mid post : List (Turn V)),
    (invokeLoop opt dl is c).1 = mid ++ post → (∀ t ∈ mid.dropLast, ¬ t.Progress) →
    mid.countP Turn.isAttempt ≤ c.budget ∧ ∀ t ∈ mid, t.before.replicas = c.replicas
  | _, _, [], _, _, _ => ⟨by simp, by simp⟩
  | [], c, t :: mid, post, h, _ => by cases h
  | i :: is, c, t :: mid, post, h, hp => by
    rcases hturn : invokeTurn opt dl i c with ⟨ev, c' | ⟨r, c'⟩⟩
    all_goals
      have hb0 : ev.isAttempt = true → 0 < c.budget := fun ha =>
        invokeTurn_isAttempt_budget (by rw [hturn]; exact ha)
      have hone : [(⟨c, ev, c'⟩ : Turn V)].countP Turn.isAttempt ≤ c.budget := by
        cases ha : ev.isAttempt
        · simp [Turn.isAttempt, ha]
        · simpa [Turn.isAttempt, ha] using hb0 ha
    · rw [invokeLoop_cons_again hturn, List.cons_append] at h
      obtain ⟨rfl, hrest⟩ := List.cons.inj h
      rcases mid with _ | ⟨t', mid⟩
      · exact ⟨hone, by simp⟩
      · have hnp : ¬ Progressed c c' := hp ⟨c, ev, c'⟩ (by simp)
        obtain ⟨hb, hrep⟩ := invokeTurn_again_budget (by rw [hturn]) hnp
        obtain ⟨ih1, ih2⟩ := invokeLoop_stretch is c' (t' :: mid) post hrest
          (fun u hu => hp u (List.mem_cons_of_mem _ hu))
        refine ⟨?_, ?_⟩
        · rw [List.countP_cons]
          split <;> omega
        · intro u hu
          rcases List.mem_cons.mp hu with rfl | hu
          · rfl
          · rw [ih2 u hu, hrep]
    · rw [invokeLoop_cons_finish hturn, List.cons_append] at h
      obtain ⟨rfl, hrest⟩ := List.cons.inj h
      rcases mid with _ | ⟨t', mid⟩
      · exact ⟨hone, by simp⟩
      · cases hrest

/-- The first `n + 1` answers of a stream: the first, then the first `n` of the rest. -/
theorem map_range_succ (w : Nat → Input V) (n : Nat) :
    (List.range (n + 1)).map w = w 0 :: (List.range n).map fun j => w (j + 1) := by
  rw [List.range_succ_eq_map]
  simp [Function.comp_def]

/-- **The loop returns.**  Under every stream of answers it returns after finitely many turns:
each turn either spends a progress event, or spends budget and leaves the progress events. -/
theorem invokeLoop_finishes (opt : InvokeOpt) (dl : Option Nat) (w : Nat → Input V)
    (c : GroupClient) : ∃ n r c', (invokeLoop opt dl ((List.range n).map w) c).2 = .finish r c' := by
  suffices h : ∀ m k (w : Nat → Input V) (c : GroupClient), eventsLeft c = m → c.budget = k →
      ∃ n r c', (invokeLoop opt dl ((List.range n).map w) c).2 = .finish r c' from
    h _ _ w c rfl rfl
  intro m
  induction m using Nat.strong_induction_on with
  | _ m ihm =>
  intro k
  induction k using Nat.strong_induction_on with
  | _ k ihk =>
  intro w c hm hk
  rcases hturn : invokeTurn opt dl (w 0) c with ⟨ev, c' | ⟨r, c'⟩⟩
  · have hmono := invokeTurn_mono opt dl (w 0) c
    rw [hturn] at hmono
    simp only [Next.client] at hmono
    obtain ⟨hlt, heq⟩ := eventsLeft_of_mono hmono.1 hmono.2
    have hrest : ∀ n r c'', (invokeLoop opt dl ((List.range n).map fun j => w (j + 1)) c').2 =
        .finish r c'' → ∃ n r c', (invokeLoop opt dl ((List.range n).map w) c).2 = .finish r c' :=
      fun n r c'' h => ⟨n + 1, r, c'', by rw [map_range_succ, invokeLoop_cons_again hturn]; exact h⟩
    by_cases hp : Progressed c c'
    · obtain ⟨n, r, c'', h⟩ := ihm _ (hm ▸ hlt hp) c'.budget _ c' rfl rfl
      exact hrest n r c'' h
    · obtain ⟨hb, -⟩ := invokeTurn_again_budget (by rw [hturn]) hp
      obtain ⟨n, r, c'', h⟩ := ihk _ (by omega) _ c' (by rw [heq hp, hm]) rfl
      exact hrest n r c'' h
  · exact ⟨1, r, c', by rw [map_range_succ, invokeLoop_cons_finish hturn]⟩

/-! ## Calls -/

/-- **What a call does**, whatever the answers: fail in `initial_group_state`, or run the loop
from the router's snapshot when the epoch was `0`, or from the client itself. -/
theorem invokeWithOpt_shape (found : Option RouterGroupState) (opt : InvokeOpt) (c : GroupClient) :
    (c.epoch = 0 ∧ found = none ∧ ∀ is : List (Input V),
      invokeWithOpt found opt is c = ⟨true, false, [], .finish (.err (.groupNotAccessable c.groupId)) c⟩) ∨
    (c.epoch = 0 ∧ ∃ g, found = some g ∧ ∀ is : List (Input V),
      invokeWithOpt found opt is c =
        ⟨true, true, (invokeLoop opt (c.applyGroupState g).timeout is (c.applyGroupState g).callStart).1,
          (invokeLoop opt (c.applyGroupState g).timeout is (c.applyGroupState g).callStart).2⟩) ∨
    (c.epoch ≠ 0 ∧ ∀ is : List (Input V),
      invokeWithOpt found opt is c =
        ⟨false, false, (invokeLoop opt c.timeout is c.callStart).1,
          (invokeLoop opt c.timeout is c.callStart).2⟩) := by
  by_cases h0 : c.epoch = 0
  · cases found with
    | none => exact .inl ⟨h0, rfl, fun _ => by simp [invokeWithOpt, h0, initialGroupState]⟩
    | some g => exact .inr (.inl ⟨h0, g, rfl, fun _ => by simp [invokeWithOpt, h0, initialGroupState]⟩)
  · exact .inr (.inr ⟨h0, fun _ => by simp [invokeWithOpt, h0]⟩)

/-- **Attempts per stretch, and termination.**  In any call, a stretch of turns with no
progress event before its last turn makes at most `replicas.len() + 2` attempts and keeps the
replicas it started with; and under every stream of answers the call returns. -/
theorem invokeWithOpt_attempts_per_stretch (found : Option RouterGroupState) (opt : InvokeOpt)
    (is : List (Input V)) (c : GroupClient) {pre mid post : List (Turn V)} {t₀ : Turn V}
    (htr : (invokeWithOpt found opt is c).turns = pre ++ t₀ :: mid ++ post)
    (hnp : ∀ t ∈ (t₀ :: mid).dropLast, ¬ t.Progress) :
    ((t₀ :: mid).countP Turn.isAttempt ≤ t₀.before.replicas.length + 2 ∧
      ∀ t ∈ t₀ :: mid, t.before.replicas = t₀.before.replicas) ∧
    ∀ w : Nat → Input V, ∃ n r c',
      (invokeWithOpt found opt ((List.range n).map w) c).next = .finish r c' := by
  have hloop : ∀ (dl : Option Nat) (c' : GroupClient), (∀ is : List (Input V),
      (invokeWithOpt found opt is c).turns = (invokeLoop opt dl is c').1 ∧
        (invokeWithOpt found opt is c).next = (invokeLoop opt dl is c').2) →
      ((t₀ :: mid).countP Turn.isAttempt ≤ t₀.before.replicas.length + 2 ∧
        ∀ t ∈ t₀ :: mid, t.before.replicas = t₀.before.replicas) ∧
      ∀ w : Nat → Input V, ∃ n r c',
        (invokeWithOpt found opt ((List.range n).map w) c).next = .finish r c' := by
    intro dl c' hl
    refine ⟨?_, fun w => ?_⟩
    · rw [(hl is).1, List.append_assoc] at htr
      obtain ⟨is', c'', hsuf⟩ := invokeLoop_suffix pre is c' _ htr
      have hhead := invokeLoop_head_before hsuf
      obtain ⟨hcount, hrep⟩ := invokeLoop_stretch is' c'' (t₀ :: mid) post hsuf hnp
      subst hhead
      exact ⟨hcount.trans (budget_le _), hrep⟩
    · obtain ⟨n, r, c'', h⟩ := invokeLoop_finishes opt dl w c'
      exact ⟨n, r, c'', (hl _).2.trans h⟩
  rcases invokeWithOpt_shape (V := V) found opt c with ⟨-, -, he⟩ | ⟨-, g, -, he⟩ | ⟨-, he⟩
  · simp [he] at htr
  · exact hloop _ _ fun is => by rw [he]; exact ⟨rfl, rfl⟩
  · exact hloop _ _ fun is => by rw [he]; exact ⟨rfl, rfl⟩

/-- A three-replica group at epoch `5`, led by replica `1` on node `1` at term `6`, every node
connected. -/
def threeReplicas : GroupClient :=
  ⟨1, none, 5, some (1, 6), [⟨1, 1⟩, ⟨2, 2⟩, ⟨3, 3⟩], none, 0, [1, 2, 3]⟩

/-- A call on `threeReplicas` whose every attempt fails to connect. -/
def connectFailures : Call Unit :=
  invokeWithOpt none ⟨none, false, false⟩ (List.replicate 5 connectFailure) threeReplicas

/-- `invokeWithOpt_attempts_per_stretch` on five `Connect` failures: one stretch of five turns
without progress, of which four attempt (node `1`, the front replica, twice) and the last finds
no node left. -/
theorem invokeWithOpt_attempts_per_stretch_connect :
    connectFailures.turns.length = 5 ∧ connectFailures.turns.countP Turn.isAttempt = 4 ∧
      connectFailures.turns = [] ++ connectFailures.turns.get ⟨0, by decide⟩ ::
        connectFailures.turns.tail ++ [] ∧
      (∀ t ∈ (connectFailures.turns.get ⟨0, by decide⟩ :: connectFailures.turns.tail).dropLast,
        ¬ t.Progress) ∧
      ((connectFailures.turns.get ⟨0, by decide⟩ :: connectFailures.turns.tail).countP
          Turn.isAttempt ≤ (connectFailures.turns.get ⟨0, by decide⟩).before.replicas.length + 2 ∧
        ∀ t ∈ connectFailures.turns.get ⟨0, by decide⟩ :: connectFailures.turns.tail,
          t.before.replicas = (connectFailures.turns.get ⟨0, by decide⟩).before.replicas) ∧
      ∀ w : Nat → Input Unit, ∃ n r c',
        (invokeWithOpt none ⟨none, false, false⟩ ((List.range n).map w) threeReplicas).next =
          .finish r c' :=
  have htr : connectFailures.turns = [] ++ connectFailures.turns.get ⟨0, by decide⟩ ::
      connectFailures.turns.tail ++ [] := rfl
  have hnp : ∀ t ∈ (connectFailures.turns.get ⟨0, by decide⟩ :: connectFailures.turns.tail).dropLast,
      ¬ t.Progress := by decide
  ⟨rfl, rfl, htr, hnp, invokeWithOpt_attempts_per_stretch none ⟨none, false, false⟩
    (List.replicate 5 connectFailure) threeReplicas htr hnp⟩

end Sekas
