import Sekas.Client.Turn

/-!
# Sekas.Client.Classify

The retry decision of `invoke_with_opt`: after a failed attempt the loop goes on only when
`apply_status` recovers, and it recovers on exactly these statuses: `GroupNotFound`,
`NotLeader` and `Connect` always; `Transport` when the call ignores transport errors or is a
read (`Get` or `Scan`); `EpochNotMatch` of a newer descriptor under which the request is
executable, outside an accurate-epoch call.  Every other status ends the call with that status and the client as the attempt left
it, except one: an `EpochNotMatch` whose descriptor is not newer than the local epoch, outside
an accurate-epoch call, is the fatal assertion of `apply_epoch_not_match_status`, a panic.
-/

namespace Sekas

open GroupClient

/-- The statuses after which the loop may retry. -/
def Recoverable (opt : InvokeOpt) (epoch : UInt64) : Error → Prop
  | .groupNotFound _ | .notLeader .. | .connect _ => True
  | .transport _ =>
    opt.ignoreTransportError = true ∨ (∃ shardId key, opt.request = some (.get shardId key)) ∨
      opt.request = some .scan
  | .epochNotMatch d =>
    opt.accurateEpoch = false ∧ epoch < d.epoch ∧
      ∀ r, opt.request = some r → isExecutable d r = true
  | _ => False

/-- An `EpochNotMatch` not newer than the local epoch, outside an accurate-epoch call. -/
def StaleEpochNotMatch (opt : InvokeOpt) (epoch : UInt64) : Error → Prop
  | .epochNotMatch d => opt.accurateEpoch = false ∧ d.epoch ≤ epoch
  | _ => False

/-- The read-only test of `apply_status` is the table's `Get`/`Scan`. -/
theorem getD_map_isReadOnlyRequest (o : Option Request) :
    (o.map isReadOnlyRequest).getD false = true ↔
      (∃ shardId key, o = some (.get shardId key)) ∨ o = some .scan := by
  rcases o with _ | ⟨_ | _ | _ | _ | _ | _ | _⟩ <;> simp [isReadOnlyRequest]

/-- The executability test of `apply_epoch_not_match_status` passes a missing request. -/
theorem getD_map_not_isExecutable (d : GroupDesc) (o : Option Request) :
    (o.map fun r => !isExecutable d r).getD false = false ↔
      ∀ r, o = some r → isExecutable d r = true := by
  cases o <;> simp

variable {c : GroupClient} {e : Error} {opt : InvokeOpt}

/-- `apply_status` recovers exactly on the recoverable statuses. -/
theorem applyStatus_fst_eq_ok_iff :
    (c.applyStatus e opt).1 = .ok () ↔ Recoverable opt c.epoch e := by
  cases e with
  | transport s =>
    simp only [applyStatus, Recoverable, ← getD_map_isReadOnlyRequest]
    split_ifs with h <;> simp_all
  | epochNotMatch d =>
    simp only [applyStatus, applyEpochNotMatchStatus, Recoverable,
      ← getD_map_not_isExecutable]
    split_ifs <;> simp_all
  | _ => simp [applyStatus, Recoverable]

/-- Off the recoverable and the stale statuses, `apply_status` returns the status itself and
leaves the client as it was. -/
theorem applyStatus_of_not_recoverable (h : ¬ Recoverable opt c.epoch e)
    (hs : ¬ StaleEpochNotMatch opt c.epoch e) : c.applyStatus e opt = (.err e, c) := by
  cases e with
  | transport s =>
    simp only [applyStatus, Recoverable, ← getD_map_isReadOnlyRequest] at h ⊢
    simp_all
  | epochNotMatch d =>
    simp only [applyStatus, applyEpochNotMatchStatus, Recoverable, StaleEpochNotMatch,
      ← getD_map_not_isExecutable] at h hs ⊢
    split_ifs <;> simp_all
  | _ => simp_all [applyStatus, Recoverable]

/-- On a stale `EpochNotMatch` `apply_status` panics. -/
theorem applyStatus_of_stale (h : StaleEpochNotMatch opt c.epoch e) :
    c.applyStatus e opt = (.panic .epochNotAdvanced, c) := by
  cases e with
  | epochNotMatch d =>
    simp only [StaleEpochNotMatch] at h
    simp [applyStatus, applyEpochNotMatchStatus, h]
  | _ => exact h.elim

variable {V : Type} {dl : Option Nat} {i : Input V} {s : GroupClient} {n : Nat}

/-- A turn whose pass found node `n` attempts on it with the client the pass left. -/
theorem invokeTurn_of_found (hpick : c.recommendClientOnce i.reachable = .ok (.found n, s)) :
    invokeTurn opt dl i c =
      (.attempted n ⟨s.groupId, s.epoch, s.timeout⟩ i.reply, attempt opt dl i.reply i.expired s) := by
  simp [invokeTurn, hpick]

/-- **The retry decision.**  Take a turn that attempted node `n` with the client `s` and got
the status `e`.  `apply_status` recovers exactly on the recoverable statuses; the loop goes
on only after such a status; on any other status the call returns that status and leaves the
client as the attempt left it, except a stale `EpochNotMatch`, on which it panics. -/
theorem invokeTurn_after_failure (hpick : c.recommendClientOnce i.reachable = .ok (.found n, s))
    (hreply : i.reply = .error e) :
    ((s.applyStatus e opt).1 = .ok () ↔ Recoverable opt s.epoch e) ∧
    ((∃ s', (invokeTurn opt dl i c).2 = .again s') → Recoverable opt s.epoch e) ∧
    (¬ Recoverable opt s.epoch e → ¬ StaleEpochNotMatch opt s.epoch e →
      (invokeTurn opt dl i c).2 = .finish (.err e) s) ∧
    (StaleEpochNotMatch opt s.epoch e →
      (invokeTurn opt dl i c).2 = .finish (.panic .epochNotAdvanced) s) := by
  rw [invokeTurn_of_found hpick, hreply]
  refine ⟨applyStatus_fst_eq_ok_iff, ?_, fun h hs => ?_, fun hs => ?_⟩
  · rintro ⟨s', hs'⟩
    rcases attempt_cases opt dl (.error e) i.expired s with ⟨r, hr⟩ | ⟨e', s'', he, hok, -⟩
    · rw [hr] at hs'; cases hs'
    · cases he
      exact applyStatus_fst_eq_ok_iff.mp (by rw [hok])
  · simp [attempt, applyStatus_of_not_recoverable h hs]
  · simp [attempt, applyStatus_of_stale hs]

/-- A client at epoch `5` whose sticky access node `1` is connected. -/
def stickyClient : GroupClient := ⟨1, none, 5, none, [⟨1, 1⟩], some 1, 0, [1]⟩

/-- The world's answer of a turn that gets a `Connect` failure. -/
def connectFailure : Input Unit := ⟨true, .error (.connect "connection reset"), false⟩

/-- `invokeTurn_after_failure` at a `Connect` failure of the sticky node. -/
theorem invokeTurn_after_failure_connect :
    stickyClient.recommendClientOnce connectFailure.reachable = .ok (.found 1, stickyClient) ∧
      connectFailure.reply = .error (.connect "connection reset") ∧
      (((stickyClient.applyStatus (.connect "connection reset") ⟨none, false, false⟩).1 = .ok () ↔
          Recoverable ⟨none, false, false⟩ stickyClient.epoch (.connect "connection reset")) ∧
        ((∃ s', (invokeTurn ⟨none, false, false⟩ none connectFailure stickyClient).2 = .again s') →
          Recoverable ⟨none, false, false⟩ stickyClient.epoch (.connect "connection reset")) ∧
        (¬ Recoverable ⟨none, false, false⟩ stickyClient.epoch (.connect "connection reset") →
          ¬ StaleEpochNotMatch ⟨none, false, false⟩ stickyClient.epoch (.connect "connection reset") →
          (invokeTurn ⟨none, false, false⟩ none connectFailure stickyClient).2 =
            .finish (.err (.connect "connection reset")) stickyClient) ∧
        (StaleEpochNotMatch ⟨none, false, false⟩ stickyClient.epoch (.connect "connection reset") →
          (invokeTurn ⟨none, false, false⟩ none connectFailure stickyClient).2 =
            .finish (.panic .epochNotAdvanced) stickyClient)) :=
  ⟨rfl, rfl, invokeTurn_after_failure rfl rfl⟩

/-- A non-recoverable status that the call does not return: a stale `EpochNotMatch` is not
recoverable, yet the turn panics instead of returning it. -/
theorem stale_epochNotMatch_panics :
    ¬ Recoverable ⟨none, false, false⟩ 5 (.epochNotMatch ⟨1, 5, [], []⟩) ∧
      (invokeTurn ⟨none, false, false⟩ none
          (⟨true, .error (.epochNotMatch ⟨1, 5, [], []⟩), false⟩ : Input Unit) stickyClient).2 =
        .finish (.panic .epochNotAdvanced) stickyClient :=
  ⟨by simp [Recoverable], rfl⟩

end Sekas
