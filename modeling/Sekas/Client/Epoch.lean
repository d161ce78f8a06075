import Sekas.Client.Budget
import Mathlib.Data.List.Chain

/-!
# Sekas.Client.Epoch

The client's epoch over whole runs of calls.  It is written in three places: the lazy load
(`initial_group_state`, only while the epoch is `0`), `apply_group_state` under `new`, and the
adoption of an `EpochNotMatch` descriptor, which is newer by the panic guard.  So it never goes
down, every attempt sends the epoch the client has at that moment, and the epochs sent by
successive attempts never go down either.

The epoch `0` is also the client's "not loaded yet" mark.  It keeps that meaning only when the
router never hands out a snapshot at epoch `0`: a client that loads such a snapshot loads again
on its next call, over what it learnt from the servers, where `initial_group_state` asserts
(in debug builds only) that no replica is held yet.
-/

namespace Sekas

open GroupClient

/-- Epochs are ordered transitively, as the chain lemmas need. -/
instance isTrans_uint64_le : IsTrans UInt64 (· ≤ ·) := ⟨fun _ _ _ => UInt64.le_trans⟩

variable {V : Type} {opt : InvokeOpt} {dl : Option Nat} {c : GroupClient}

/-! ## Where the epoch is written -/

/-- `apply_group_state` takes the snapshot's epoch. -/
@[simp] theorem applyGroupState_epoch (c : GroupClient) (g : RouterGroupState) :
    (c.applyGroupState g).epoch = g.epoch := by
  simp only [applyGroupState]
  split <;> rfl

@[simp] theorem callStart_epoch (c : GroupClient) : c.callStart.epoch = c.epoch := rfl

@[simp] theorem setTimeout_epoch (c : GroupClient) (d : Nat) : (c.setTimeout d).epoch = c.epoch :=
  rfl

@[simp] theorem setTimeoutOpt_epoch (c : GroupClient) (d : Option Nat) :
    (c.setTimeoutOpt d).epoch = c.epoch := rfl

/-! ## Runs of the loop -/

/-- Every turn of a run is a turn `invokeTurn` takes from the client before it. -/
theorem mem_invokeLoop : ∀ {is : List (Input V)} {c : GroupClient} {t : Turn V},
    t ∈ (invokeLoop opt dl is c).1 → ∃ i, (invokeTurn opt dl i t.before).1 = t.event ∧
      (invokeTurn opt dl i t.before).2.client = t.after
  | [], _, _, h => by cases h
  | i :: is, c, t, h => by
    rcases hturn : invokeTurn opt dl i c with ⟨ev, c' | ⟨r, c'⟩⟩
    · rw [invokeLoop_cons_again hturn] at h
      rcases List.mem_cons.mp h with rfl | h
      · exact ⟨i, by rw [hturn], by rw [hturn]; rfl⟩
      · exact mem_invokeLoop h
    · rw [invokeLoop_cons_finish hturn] at h
      rcases List.mem_singleton.mp h with rfl
      exact ⟨i, by rw [hturn], by rw [hturn]; rfl⟩

/-- The epochs of a run of the loop: at the start of every turn, then at its end. -/
def loopEpochs (opt : InvokeOpt) (dl : Option Nat) (is : List (Input V)) (c : GroupClient) :
    List UInt64 :=
  (invokeLoop opt dl is c).1.map (·.before.epoch) ++ [(invokeLoop opt dl is c).2.client.epoch]

/-- The loop's epochs never go down, from the epoch it starts with. -/
theorem chain_loopEpochs : ∀ (is : List (Input V)) (c : GroupClient),
    List.Chain (· ≤ ·) c.epoch (loopEpochs opt dl is c) ∧
      (loopEpochs opt dl is c).head? = some c.epoch
  | [], c => by simp [loopEpochs, invokeLoop, Next.client]
  | i :: is, c => by
    have hmono := (invokeTurn_mono opt dl i c).1
    rcases hturn : invokeTurn opt dl i c with ⟨ev, c' | ⟨r, c'⟩⟩
    · rw [hturn] at hmono
      obtain ⟨ih, -⟩ := chain_loopEpochs is c'
      simp only [loopEpochs, invokeLoop_cons_again hturn, List.map_cons, List.cons_append,
        List.chain_cons, List.head?_cons]
      exact ⟨⟨UInt64.le_refl _, ih.imp' (fun _ _ h => h) fun _ h => UInt64.le_trans hmono h⟩, trivial⟩
    · rw [hturn] at hmono
      simp [loopEpochs, invokeLoop_cons_finish hturn, Next.client] at hmono ⊢
      exact hmono

/-- The loop ends at an epoch at least the one it starts with. -/
theorem invokeLoop_epoch_le : ∀ (is : List (Input V)) (c : GroupClient),
    c.epoch ≤ (invokeLoop opt dl is c).2.client.epoch
  | [], c => UInt64.le_refl _
  | i :: is, c => by
    have hmono := (invokeTurn_mono opt dl i c).1
    rcases hturn : invokeTurn opt dl i c with ⟨ev, c' | ⟨r, c'⟩⟩ <;> rw [hturn] at hmono
    · rw [invokeLoop_cons_again hturn]
      exact UInt64.le_trans hmono (invokeLoop_epoch_le is c')
    · rw [invokeLoop_cons_finish hturn]
      exact hmono

/-- The clients a run of the loop passes through: the one it starts from, then the one each
turn leaves. -/
theorem invokeLoop_clients : ∀ (is : List (Input V)) (c : GroupClient),
    (invokeLoop opt dl is c).1.map (·.before) ++ [(invokeLoop opt dl is c).2.client] =
      c :: (invokeLoop opt dl is c).1.map (·.after)
  | [], c => rfl
  | i :: is, c => by
    rcases hturn : invokeTurn opt dl i c with ⟨ev, c' | ⟨r, c'⟩⟩
    · simp only [invokeLoop_cons_again hturn, List.map_cons, List.cons_append,
        invokeLoop_clients is c']
    · simp [invokeLoop_cons_finish hturn, Next.client]

/-- After its first entry, the loop's epochs are those each turn leaves. -/
theorem loopEpochs_tail (is : List (Input V)) (c : GroupClient) :
    (loopEpochs opt dl is c).tail = (invokeLoop opt dl is c).1.map (·.after.epoch) := by
  have h := congrArg (List.map (·.epoch)) (@invokeLoop_clients V opt dl is c)
  simp only [List.map_append, List.map_map, List.map_cons, List.map_nil] at h
  simp only [loopEpochs, List.map_map]
  exact (congrArg List.tail h).trans rfl

/-! ## Calls -/

/-- The epochs of a call: at the start of every turn, then at its end. -/
def Call.epochs (k : Call V) : List UInt64 :=
  k.turns.map (·.before.epoch) ++ [k.next.client.epoch]

/-- A call's epochs never go down from the client's, and the first differs from the client's
only after a lazy load at epoch `0`. -/
theorem chain_call_epochs (found : Option RouterGroupState) (opt : InvokeOpt)
    (is : List (Input V)) (c : GroupClient) :
    List.Chain (· ≤ ·) c.epoch (invokeWithOpt found opt is c).epochs ∧
      ∀ e ∈ (invokeWithOpt found opt is c).epochs.head?, e ≠ c.epoch →
        c.epoch = 0 ∧ (invokeWithOpt found opt is c).loaded = true := by
  rcases invokeWithOpt_shape (V := V) found opt c with ⟨h0, -, he⟩ | ⟨h0, g, -, he⟩ | ⟨h0, he⟩ <;>
    rw [he]
  · simp [Call.epochs, Next.client]
  · obtain ⟨hc, -⟩ := @chain_loopEpochs V opt (c.applyGroupState g).timeout is
      (c.applyGroupState g).callStart
    exact ⟨hc.imp' (fun _ _ h => h) fun _ _ => h0 ▸ uint64_zero_le _, fun _ _ _ => ⟨h0, rfl⟩⟩
  · obtain ⟨hc, hh⟩ := @chain_loopEpochs V opt c.timeout is c.callStart
    refine ⟨hc, fun e he hne => ?_⟩
    simp only [Call.epochs, loopEpochs] at he hh
    rw [hh] at he
    exact absurd (Option.some.inj he).symm hne

/-- After its first entry, a call's epochs are those each turn leaves. -/
theorem call_epochs_tail (found : Option RouterGroupState) (opt : InvokeOpt) (is : List (Input V))
    (c : GroupClient) :
    (invokeWithOpt found opt is c).epochs.tail = (invokeWithOpt found opt is c).turns.map (·.after.epoch) := by
  rcases invokeWithOpt_shape (V := V) found opt c with ⟨-, -, he⟩ | ⟨-, g, -, he⟩ | ⟨-, he⟩ <;>
    rw [he]
  · rfl
  all_goals exact loopEpochs_tail _ _

/-- A call is `invokeTurn` at every turn. -/
theorem mem_call_turns {found : Option RouterGroupState} {is : List (Input V)} {t : Turn V}
    (h : t ∈ (invokeWithOpt found opt is c).turns) :
    ∃ dl i, (invokeTurn opt dl i t.before).1 = t.event ∧
      (invokeTurn opt dl i t.before).2.client = t.after := by
  rcases invokeWithOpt_shape (V := V) found opt c with ⟨-, -, he⟩ | ⟨-, g, -, he⟩ | ⟨-, he⟩ <;>
    rw [he] at h
  · cases h
  all_goals exact ⟨_, mem_invokeLoop h⟩

/-! ## Runs of calls -/

/-- The epochs of a run of calls, call after call. -/
def runEpochs (run : List (GroupClient × Call V)) : List UInt64 :=
  run.flatMap fun p => p.2.epochs

/-- The epoch each attempt of a turn sent, if the turn attempted. -/
def Turn.sentEpoch (t : Turn V) : Option UInt64 :=
  match t.event with
  | .attempted _ ctx _ => some ctx.epoch
  | .aborted _ | .exhausted | .skipped _ => none

/-- The epochs the attempts of a run of calls sent, in order. -/
def sentEpochs (run : List (GroupClient × Call V)) : List UInt64 :=
  run.flatMap fun p => p.2.turns.filterMap Turn.sentEpoch

/-- Every call of a run is `invoke_with_opt` from the client it started from. -/
theorem mem_session {p : GroupClient × Call V} (uses : List (Use V)) (c0 : GroupClient)
    (h : p ∈ (session uses c0).1) : ∃ found opt is, p.2 = invokeWithOpt found opt is p.1 := by
  induction uses generalizing c0 with
  | nil => cases h
  | cons u us ih =>
    cases u with
    | setTimeout d => exact ih _ h
    | setTimeoutOpt d => exact ih _ h
    | call opt found is =>
      simp only [session] at h
      split at h
      · rcases List.mem_singleton.mp h with rfl
        exact ⟨found, opt, is, rfl⟩
      · rcases List.mem_cons.mp h with rfl | h
        · exact ⟨found, opt, is, rfl⟩
        · exact ih _ h

/-- Along a run of calls the epoch never goes down. -/
theorem chain_session_epochs : ∀ (uses : List (Use V)) (c0 : GroupClient),
    List.Chain (· ≤ ·) c0.epoch (runEpochs (session uses c0).1 ++ [(session uses c0).2.epoch])
  | [], c0 => by simp [session, runEpochs]
  | .setTimeout d :: us, c0 => by simpa [session] using chain_session_epochs us (c0.setTimeout d)
  | .setTimeoutOpt d :: us, c0 => by
    simpa [session] using chain_session_epochs us (c0.setTimeoutOpt d)
  | .call opt found is :: us, c0 => by
    have hk := (chain_call_epochs found opt is c0).1
    simp only [session]
    split
    · rename_i c' hn
      simp only [Call.epochs, hn, Next.client, runEpochs, List.flatMap_cons, List.flatMap_nil,
        List.append_nil, List.append_assoc, List.singleton_append] at hk ⊢
      exact List.chain_split.mpr ⟨hk, List.Chain.cons (UInt64.le_refl _) .nil⟩
    · rename_i r c' hn
      have ih := chain_session_epochs us c'
      simp only [Call.epochs, hn, Next.client, runEpochs, List.flatMap_cons, List.append_assoc,
        List.singleton_append] at hk ih ⊢
      exact List.chain_split.mpr ⟨hk, ih⟩

/-- A turn's sent epoch is the one its attempt's context carries. -/
theorem sentEpoch_eq_some {t : Turn V} {e : UInt64} (h : t.sentEpoch = some e) :
    ∃ n ctx r, t.event = .attempted n ctx r ∧ ctx.epoch = e := by
  unfold Turn.sentEpoch at h
  split at h
  · exact ⟨_, _, _, ‹_›, Option.some.inj h⟩
  all_goals cases h

/-- Dropping the turns that sent nothing leaves a sublist of the turns' own epochs. -/
theorem filterMap_sentEpoch_sublist : ∀ ts : List (Turn V),
    (∀ t ∈ ts, ∀ e, t.sentEpoch = some e → e = t.before.epoch) →
      List.Sublist (ts.filterMap Turn.sentEpoch) (ts.map (·.before.epoch))
  | [], _ => .slnil
  | t :: ts, h => by
    have ih := filterMap_sentEpoch_sublist ts fun t ht => h t (.tail _ ht)
    rcases hs : t.sentEpoch with _ | e
    · simpa [hs] using ih.cons _
    · simpa [hs, h t (.head _) e hs] using ih.cons₂ t.before.epoch

/-- In every turn of a run, the context an attempt sends carries the epoch the client has
when the turn starts. -/
theorem session_sent_epoch {uses : List (Use V)} {c0 : GroupClient} {p : GroupClient × Call V}
    (hp : p ∈ (session uses c0).1) {t : Turn V} (ht : t ∈ p.2.turns) {n : Nat}
    {ctx : InvokeContext} {r : Except Error V} (h : t.event = .attempted n ctx r) :
    ctx.epoch = t.before.epoch := by
  obtain ⟨found, opt, is, hk⟩ := mem_session uses c0 hp
  rw [hk] at ht
  obtain ⟨dl, i, hev, -⟩ := mem_call_turns ht
  rw [(invokeTurn_attempted (hev.trans h)).1]

/-- The epochs a run's attempts sent are a sublist of the run's epochs. -/
theorem sentEpochs_sublist {uses : List (Use V)} {c0 : GroupClient} :
    ∀ run : List (GroupClient × Call V), (∀ p ∈ run, p ∈ (session uses c0).1) →
      List.Sublist (sentEpochs run) (runEpochs run)
  | [], _ => .slnil
  | p :: run, h => by
    have hp : List.Sublist (p.2.turns.filterMap Turn.sentEpoch) p.2.epochs :=
      (filterMap_sentEpoch_sublist _ fun t ht e he => by
        obtain ⟨n, ctx, r, hev, rfl⟩ := sentEpoch_eq_some he
        exact session_sent_epoch (h p (.head _)) ht hev).trans (List.sublist_append_left _ _)
    simpa [sentEpochs, runEpochs] using
      hp.append (sentEpochs_sublist run fun q hq => h q (.tail _ hq))

/-- **The epoch never goes down.**  Along any run of calls from any client: the epochs the
client passes through never go down; a call's first epoch differs from the client's only
after a lazy load at epoch `0`; each later one is the epoch a turn leaves, and a turn changes
the epoch only by adopting the newer epoch of an `EpochNotMatch` descriptor; every attempt
sends the epoch the client has at that moment; so the epochs sent never go down. -/
theorem session_epoch_monotone (uses : List (Use V)) (c0 : GroupClient) :
    List.Chain (· ≤ ·) c0.epoch (runEpochs (session uses c0).1 ++ [(session uses c0).2.epoch]) ∧
    (∀ p ∈ (session uses c0).1, ∀ e ∈ p.2.epochs.head?, e ≠ p.1.epoch →
      p.1.epoch = 0 ∧ p.2.loaded = true) ∧
    (∀ p ∈ (session uses c0).1, p.2.epochs.tail = p.2.turns.map (·.after.epoch)) ∧
    (∀ p ∈ (session uses c0).1, ∀ t ∈ p.2.turns, t.after.epoch ≠ t.before.epoch →
      ∃ n d, t.event = .attempted n ⟨t.before.groupId, t.before.epoch, t.before.timeout⟩
          (.error (.epochNotMatch d)) ∧ t.before.epoch < d.epoch ∧ t.after.epoch = d.epoch) ∧
    (∀ p ∈ (session uses c0).1, ∀ t ∈ p.2.turns, ∀ n ctx r,
      t.event = .attempted n ctx r → ctx.epoch = t.before.epoch) ∧
    (sentEpochs (session uses c0).1).Chain' (· ≤ ·) := by
  have hchain := chain_session_epochs uses c0
  refine ⟨hchain, fun p hp => ?_, fun p hp => ?_, fun p hp t ht hne => ?_,
    fun p hp t ht n ctx r h => session_sent_epoch hp ht h, ?_⟩
  · obtain ⟨found, opt, is, hk⟩ := mem_session uses c0 hp
    rw [hk]
    exact (chain_call_epochs found opt is p.1).2
  · obtain ⟨found, opt, is, hk⟩ := mem_session uses c0 hp
    rw [hk]
    exact call_epochs_tail found opt is p.1
  · obtain ⟨found, opt, is, hk⟩ := mem_session uses c0 hp
    rw [hk] at ht
    obtain ⟨dl, i, hev, haft⟩ := mem_call_turns ht
    rw [← hev, ← haft]
    exact invokeTurn_epoch_ne (haft ▸ hne)
  · have hsub := ((@sentEpochs_sublist V uses c0 _ fun _ h => h).trans
      (List.sublist_append_left _ [(session uses c0).2.epoch])).cons c0.epoch
    exact (show List.Chain' _ (c0.epoch :: _) from hchain).sublist hsub

/-! ## Epoch `0` as the "not loaded" mark -/

/-- `invoke_with_opt` runs `initial_group_state` exactly when the client's epoch is `0`. -/
theorem invokeWithOpt_initialized (found : Option RouterGroupState) (opt : InvokeOpt)
    (is : List (Input V)) (c : GroupClient) :
    (invokeWithOpt found opt is c).initialized = decide (c.epoch = 0) := by
  unfold invokeWithOpt
  split <;> rfl

/-- The router's snapshot a use may load is not at epoch `0`. -/
def Use.NonzeroSnapshot : Use V → Prop
  | .call _ (some g) _ => g.epoch ≠ 0
  | _ => True

/-- One call keeps "epoch `0` iff nothing loaded yet" when the router's snapshot is not at
epoch `0`. -/
theorem invokeWithOpt_epoch_eq_zero_iff {found : Option RouterGroupState} {is : List (Input V)}
    {loaded : Bool} (hinv : c.epoch = 0 ↔ loaded = false) (hf : ∀ g, found = some g → g.epoch ≠ 0) :
    (invokeWithOpt found opt is c).next.client.epoch = 0 ↔
      (loaded || (invokeWithOpt found opt is c).loaded) = false := by
  rcases invokeWithOpt_shape (V := V) found opt c with ⟨h0, -, he⟩ | ⟨h0, g, rfl, he⟩ | ⟨h0, he⟩ <;>
    rw [he]
  · simpa [Next.client] using hinv
  · have hne := uint64_ne_zero_of_le
      (@invokeLoop_epoch_le V opt (c.applyGroupState g).timeout is _)
      (by simpa using hf g rfl : (c.applyGroupState g).callStart.epoch ≠ 0)
    simpa using hne
  · have hne := uint64_ne_zero_of_le
      (@invokeLoop_epoch_le V opt c.timeout is c.callStart) h0
    simpa [hne] using hinv.not.mp h0

/-- Along a run of calls, each call starts at epoch `0`, and the run ends there, exactly while
nothing has been loaded: neither before the run (`loaded`) nor by an earlier call. -/
theorem session_epoch_eq_zero_iff (uses : List (Use V)) (c0 : GroupClient) (loaded : Bool)
    (hinv : c0.epoch = 0 ↔ loaded = false) (hf : ∀ u ∈ uses, u.NonzeroSnapshot) :
    (∀ pre p post, (session uses c0).1 = pre ++ p :: post →
      (p.1.epoch = 0 ↔ (loaded || pre.any (·.2.loaded)) = false)) ∧
    ((session uses c0).2.epoch = 0 ↔ (loaded || (session uses c0).1.any (·.2.loaded)) = false) := by
  induction uses generalizing c0 loaded with
  | nil => exact ⟨fun pre p post h => (by cases pre <;> cases h), by simpa [session] using hinv⟩
  | cons u us ih =>
    have hus : ∀ u ∈ us, u.NonzeroSnapshot := fun u hu => hf u (.tail _ hu)
    cases u with
    | setTimeout d => exact ih _ loaded (by simpa using hinv) hus
    | setTimeoutOpt d => exact ih _ loaded (by simpa using hinv) hus
    | call opt found is =>
      have hcall := @invokeWithOpt_epoch_eq_zero_iff V opt c0 found is loaded hinv
        (fun g hg => by have h := hf _ (.head _); subst hg; exact h)
      simp only [session]
      split
      · rename_i c' hn
        refine ⟨fun pre p post h => ?_, by simpa [hn, Next.client] using hcall⟩
        rcases pre with _ | ⟨q, pre⟩
        · cases (List.cons.inj h).1
          simpa using hinv
        · cases pre <;> cases (List.cons.inj h).2
      · rename_i r c' hn
        have hc' : c'.epoch = 0 ↔ (loaded || (invokeWithOpt found opt is c0).loaded) = false := by
          simpa [hn, Next.client] using hcall
        obtain ⟨ihp, ihe⟩ := ih c' _ hc' hus
        refine ⟨fun pre p post h => ?_, by simpa [Bool.or_assoc] using ihe⟩
        rcases pre with _ | ⟨q, pre⟩
        · cases (List.cons.inj h).1
          simpa using hinv
        · obtain ⟨rfl, hrest⟩ := List.cons.inj h
          simpa [Bool.or_assoc] using ihp pre p post hrest

/-- A router snapshot at epoch `0`: replica `1` on node `1`, no leader. -/
def epochZeroSnapshot : RouterGroupState := ⟨1, 0, none, [(1, ⟨1, 1⟩)], by decide⟩

/-- Two calls of a lazy client while the router holds `epochZeroSnapshot`.  The first is
redirected by a `NotLeader` naming replica `2` on node `2` at term `3`, then succeeds there;
the second succeeds at once. -/
def reloadingUses : List (Use Unit) :=
  [.call ⟨none, false, false⟩ (some epochZeroSnapshot)
      [⟨true, .error (.notLeader 1 3 (some ⟨2, 2⟩)), false⟩, ⟨true, .ok (), false⟩],
    .call ⟨none, false, false⟩ (some epochZeroSnapshot) [⟨true, .ok (), false⟩]]

/-- **A loaded client reloads after a snapshot at epoch `0`.**  The first call loads
`epochZeroSnapshot`, which leaves the epoch at `0`, and learns from the server that replica `2`
on node `2` leads at term `3`.  The second call then runs `initial_group_state` again on a client
that holds two replicas, so its `debug_assert!(self.replicas.is_empty())` fails (a debug build
panics there); a release build overwrites the leader learnt from the server with the router's
none, and the replicas with the snapshot's one. -/
theorem reload_after_epoch_zero_snapshot :
    ((session reloadingUses (GroupClient.lazy 1)).1.map fun p =>
        (p.1.epoch, p.1.replicas.length, p.1.leaderState, p.2.initialized)) =
      [(0, 0, none, true), (0, 2, some (2, 3), true)] ∧
      (session reloadingUses (GroupClient.lazy 1)).2.leaderState = none ∧
      (session reloadingUses (GroupClient.lazy 1)).2.replicas.length = 1 := by
  decide

/-- **Loaded once, never reloaded.**  Take a client made by `lazy`, or by `new` from a snapshot
not at epoch `0`, and a run of calls in which the router never hands out a snapshot at epoch
`0`.  Then a call runs `initial_group_state` exactly when no group state has been loaded yet,
by `new` or by an earlier call, and the epoch is `0` exactly then, at every call's start and at
the end of the run. -/
theorem initialGroupState_until_loaded (uses : List (Use V)) (c0 : GroupClient) (fromNew : Bool)
    (hc0 : (∃ groupId, c0 = GroupClient.lazy groupId ∧ fromNew = false) ∨
      (∃ g : RouterGroupState, g.epoch ≠ 0 ∧ c0 = GroupClient.new g ∧ fromNew = true))
    (hf : ∀ u ∈ uses, u.NonzeroSnapshot) {pre post : List (GroupClient × Call V)}
    {p : GroupClient × Call V} (hrun : (session uses c0).1 = pre ++ p :: post) :
    (p.2.initialized = true ↔ (fromNew || pre.any (·.2.loaded)) = false) ∧
    (p.1.epoch = 0 ↔ (fromNew || pre.any (·.2.loaded)) = false) ∧
    ((session uses c0).2.epoch = 0 ↔ (fromNew || (session uses c0).1.any (·.2.loaded)) = false) := by
  have hinv : c0.epoch = 0 ↔ fromNew = false := by
    rcases hc0 with ⟨groupId, rfl, rfl⟩ | ⟨g, hg, rfl, rfl⟩
    · exact iff_of_true rfl rfl
    · simpa [GroupClient.new] using hg
  obtain ⟨hcalls, hend⟩ := session_epoch_eq_zero_iff uses c0 fromNew hinv hf
  have hp := hcalls pre p post hrun
  obtain ⟨found, opt, is, hk⟩ := mem_session uses c0 (hrun ▸ List.mem_append_right _ (.head _))
  refine ⟨?_, hp, hend⟩
  rw [hk, invokeWithOpt_initialized, decide_eq_true_iff]
  exact hp

/-- A router snapshot at epoch `1`: replica `1` on node `1`, no leader. -/
def loadOnceSnapshot : RouterGroupState := ⟨1, 1, none, [(1, ⟨1, 1⟩)], by decide⟩

/-- A call answered at once while the router holds `loadOnceSnapshot`. -/
def quickUse : Use Unit := .call ⟨none, false, false⟩ (some loadOnceSnapshot) [⟨true, .ok (), false⟩]

/-- The first of two quick calls of a lazy client: it loads `loadOnceSnapshot`. -/
def firstQuickCall : GroupClient × Call Unit :=
  (GroupClient.lazy 1,
    invokeWithOpt (some loadOnceSnapshot) ⟨none, false, false⟩ [⟨true, .ok (), false⟩] (GroupClient.lazy 1))

/-- The second of two quick calls of a lazy client, from where the first left it. -/
def secondQuickCall : GroupClient × Call Unit :=
  (firstQuickCall.2.next.client,
    invokeWithOpt (some loadOnceSnapshot) ⟨none, false, false⟩ [⟨true, .ok (), false⟩]
      firstQuickCall.2.next.client)

/-- `initialGroupState_until_loaded` at the second of two quick calls of a lazy client. -/
theorem initialGroupState_until_loaded_second_call :
    ((∃ groupId, GroupClient.lazy 1 = GroupClient.lazy groupId ∧ false = false) ∨
      (∃ g : RouterGroupState, g.epoch ≠ 0 ∧ GroupClient.lazy 1 = GroupClient.new g ∧ false = true)) ∧
    (∀ u ∈ [quickUse, quickUse], u.NonzeroSnapshot) ∧
    (session [quickUse, quickUse] (GroupClient.lazy 1)).1 = [firstQuickCall] ++ secondQuickCall :: [] ∧
    ((secondQuickCall.2.initialized = true ↔ (false || [firstQuickCall].any (·.2.loaded)) = false) ∧
      (secondQuickCall.1.epoch = 0 ↔ (false || [firstQuickCall].any (·.2.loaded)) = false) ∧
      ((session [quickUse, quickUse] (GroupClient.lazy 1)).2.epoch = 0 ↔
        (false || (session [quickUse, quickUse] (GroupClient.lazy 1)).1.any (·.2.loaded)) = false)) :=
  have hf : ∀ u ∈ [quickUse, quickUse], u.NonzeroSnapshot := by
    simp [quickUse, Use.NonzeroSnapshot, loadOnceSnapshot]
  ⟨.inl ⟨1, rfl, rfl⟩, hf, rfl,
    initialGroupState_until_loaded [quickUse, quickUse] (GroupClient.lazy 1) false (.inl ⟨1, rfl, rfl⟩)
      hf rfl⟩

end Sekas
