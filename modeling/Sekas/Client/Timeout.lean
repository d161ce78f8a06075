import Sekas.Client.Epoch

/-!
# Sekas.Client.Timeout

Where a `set_timeout` goes.  `invoke_with_opt` moves the client's timeout into the call's
deadline (`self.timeout.take()`) before its loop starts, so the loop runs with no timeout:
every `InvokeContext` it builds carries `None`, and the deadline bounds the call only through
the check after each recovered failure.  Only the early return of `initial_group_state` comes
before the `take()`, and it leaves the timeout armed for the next call.

* `applyStatus_timeout`, `invokeTurn_timeout`: no turn touches the timeout;
* `invokeLoop_timeout`: so every turn of a run starts from the timeout the run started with;
* `setTimeout_call_timeout`: what a call does with an armed timeout.
-/

namespace Sekas

open GroupClient

variable {V : Type} {opt : InvokeOpt} {dl : Option Nat}

/-- `apply_status` never touches the timeout. -/
theorem applyStatus_timeout (c : GroupClient) (e : Error) (opt : InvokeOpt) :
    (c.applyStatus e opt).2.timeout = c.timeout := by
  rcases h : c.applyStatus e opt with ⟨r, c'⟩
  by_cases hr : r = .ok ()
  · subst hr
    rcases applyStatus_eq_ok h with rfl | ⟨_, _, _, -, -, rfl⟩ | ⟨_, -, -, rfl⟩ <;> rfl
  · have hsnd := applyStatus_snd_of_ne_ok (show (c.applyStatus e opt).1 ≠ .ok () by rw [h]; exact hr)
    rw [h] at hsnd
    exact congrArg GroupClient.timeout hsnd

/-- **A turn keeps the timeout**, whatever `recommend_client`'s pass found and whatever the
attempt answered. -/
theorem invokeTurn_timeout (opt : InvokeOpt) (dl : Option Nat) (i : Input V) (c : GroupClient) :
    (invokeTurn opt dl i c).2.client.timeout = c.timeout := by
  rcases invokeTurn_cases opt dl i c with ⟨p, -, h⟩ | ⟨s, hs, h⟩ | ⟨n, s, hs, h⟩ | ⟨n, s, hs, h⟩ <;>
    rw [h] <;> simp only [Next.client]
  · rw [(recommendClientOnce_spec hs).2]
  · exact (view_eq_view_iff.mp (recommendClientOnce_spec hs).1).2.1
  · have hv := (view_eq_view_iff.mp (recommendClientOnce_spec hs).1).2.1
    rcases attempt_cases opt dl i.reply i.expired s with ⟨r, hr⟩ | ⟨e, s', -, hok, hr | hr⟩ <;>
      rw [hr] <;> simp only [Next.client]
    · exact hv
    all_goals rw [← hv, ← applyStatus_timeout s e opt, hok]

/-- **A run of the loop keeps the timeout**: every turn starts from the timeout the run
started with, and the run ends with it. -/
theorem invokeLoop_timeout : ∀ (is : List (Input V)) (c : GroupClient),
    (∀ t ∈ (invokeLoop opt dl is c).1, t.before.timeout = c.timeout) ∧
      (invokeLoop opt dl is c).2.client.timeout = c.timeout
  | [], _ => ⟨fun _ h => (by cases h), rfl⟩
  | i :: is, c => by
    have hk := invokeTurn_timeout opt dl i c
    rcases ht : invokeTurn opt dl i c with ⟨ev, c' | ⟨r, c'⟩⟩ <;> rw [ht] at hk <;>
      simp only [Next.client] at hk
    · rw [invokeLoop_cons_again ht]
      obtain ⟨hb, he⟩ := invokeLoop_timeout is c'
      refine ⟨fun t ht' => ?_, he.trans hk⟩
      rcases List.mem_cons.mp ht' with rfl | ht'
      · rfl
      · exact (hb t ht').trans hk
    · rw [invokeLoop_cons_finish ht]
      exact ⟨fun t ht' => by rw [List.mem_singleton.mp ht'], hk⟩

/-- A loop started from `callStart` sends no timeout and ends with none. -/
theorem invokeLoop_callStart_timeout (is : List (Input V)) (c : GroupClient) :
    (∀ t ∈ (invokeLoop opt dl is c.callStart).1, ∀ n ctx reply,
        t.event = .attempted n ctx reply → ctx.timeout = none) ∧
      (invokeLoop opt dl is c.callStart).2.client.timeout = none := by
  obtain ⟨hb, he⟩ := @invokeLoop_timeout V opt dl is c.callStart
  refine ⟨fun t ht n ctx reply hev => ?_, he⟩
  obtain ⟨i, hi, -⟩ := mem_invokeLoop ht
  rw [(invokeTurn_attempted (hi.trans hev)).1]
  exact hb t ht

/-- **An armed timeout is spent by the next call, and never sent.**  After `set_timeout(d)`,
no `InvokeContext` of the call carries a timeout, and the call leaves the timeout unset,
except when `initial_group_state` returns early (epoch `0`, the router has no state for the
group), which leaves `Some(d)` armed for the next call. -/
theorem setTimeout_call_timeout (c : GroupClient) (d : Nat) (opt : InvokeOpt)
    (found : Option RouterGroupState) (is : List (Input V)) :
    (∀ t ∈ (invokeWithOpt found opt is (c.setTimeout d)).turns, ∀ n ctx reply,
        t.event = .attempted n ctx reply → ctx.timeout = none) ∧
      (invokeWithOpt found opt is (c.setTimeout d)).next.client.timeout =
        if c.epoch = 0 ∧ found.isNone then some d else none := by
  rcases invokeWithOpt_shape (V := V) found opt (c.setTimeout d) with
    ⟨h0, hf, he⟩ | ⟨h0, g, hf, he⟩ | ⟨h0, he⟩ <;> rw [he]
  · rw [if_pos ⟨h0, by rw [hf]; rfl⟩]
    exact ⟨fun t ht => (by cases ht), rfl⟩
  · rw [if_neg fun h => by simp [hf] at h]
    exact invokeLoop_callStart_timeout is _
  · rw [if_neg fun h => h0 h.1]
    exact invokeLoop_callStart_timeout is _

/-- After `set_timeout(5)`: a `Get` of `"m"` on shard `10` of `threeReplicas`, answered at once,
hands `op` a context without a timeout, so no grpc-timeout is sent; the same request of a lazy
client the router knows nothing of returns `GroupNotAccessable` with the timeout still armed. -/
theorem timeout_unsent_and_kept_on_early_return :
    (((threeReplicas.setTimeout 5).request (.get 10 [109]) none
        [⟨true, .ok (), false⟩]).turns.map (·.event) =
      [.attempted 1 ⟨1, 5, none⟩ (.ok ())]) ∧
    (((GroupClient.lazy 1).setTimeout 5).request (.get 10 [109]) none
        ([] : List (Input Unit))).next =
      .finish (.err (.groupNotAccessable 1)) ((GroupClient.lazy 1).setTimeout 5) ∧
    ((GroupClient.lazy 1).setTimeout 5).timeout = some 5 :=
  ⟨rfl, rfl, rfl⟩

end Sekas
