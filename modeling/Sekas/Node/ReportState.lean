import Mathlib.Data.List.Basic
import Mathlib.Algebra.Group.Nat.Basic

/-!
# Sekas.Node.ReportState

The report pipeline of a node, `node/job/report_state.rs`.  Replicas hand their state changes
to the `StateChannel` (`broadcast_replica_state`, `broadcast_group_descriptor`,
`broadcast_schedule_state`), which pushes them on an unbounded channel; one worker task takes
them off in batches (`wait_state_updates`) and reports each batch to the root, retrying with a
growing sleep until the root accepts it (`report_state_updates`).

The worker is modelled one channel operation at a time: the first `receiver.next()`, each
`try_next()` of the `while size < 32 * 1024` loop, and each `root_client.report`.  A run is any
list of such steps interleaved with broadcasts, and the root's answer to each report is part of
the run.  The worker reads an update only through its `encoded_len`, so the update type is a
parameter.

* `run_conserves`: every broadcast update is reported once, in broadcast order, or is still
  held by the worker or queued;
* `run_batched`: every request the root accepts is a batch `wait_state_updates` can build, and
  every interval is `min(2^k, 120)` ms;
* `run_retries`: a failed request is retried unchanged, and after `k` refusals the interval, the
  sleep that follows a further refusal, is `min(2^k, 120)` ms (the sleep after the `k`-th refusal
  was `min(2^(k-1), 120)`), whatever the replicas broadcast meanwhile.
-/

namespace Sekas

variable {U : Type}

/-- Where `report_state_worker` stands: waiting in `receiver.next()`, in the
`while size < 32 * 1024` loop of `wait_state_updates` with the updates taken so far and their
encoded size, or in `report_state_updates` with its request and its next sleep interval. -/
inductive ReportWorker (U : Type) where
  | waiting
  | collecting (updates : List U) (size : Nat)
  | reporting (updates : List U) (interval : Nat)
  deriving DecidableEq, Repr

/-- A node's report pipeline: the updates queued in the `StateChannel`, the worker, and the
requests the root has accepted, in order. -/
structure ReportPipeline (U : Type) where
  queue : List U
  worker : ReportWorker U
  reported : List (List U)
  deriving DecidableEq, Repr

/-- One step of a run: a `broadcast_*` of the `StateChannel` (all three push their update with
`start_send`), one channel operation of the worker, or one `root_client.report` of the worker's
request with the root's answer. -/
inductive ReportAction (U : Type) where
  | broadcast (update : U)
  | poll
  | report (accepted : Bool)
  deriving DecidableEq, Repr

/-- The next sleep of `report_state_updates`: `std::cmp::min(interval * 2, 120)`. -/
def nextInterval (interval : Nat) : Nat := min (interval * 2) 120

namespace ReportWorker

/-- The updates the worker has taken off the channel and the root has not yet accepted. -/
def held : ReportWorker U → List U
  | waiting => []
  | collecting updates _ => updates
  | reporting updates _ => updates

variable (encodedLen : U → Nat)

/-- One channel operation of the worker on the queue.  Waiting, `receiver.next()` takes the
first update, or keeps waiting on an empty channel.  In the loop, while `size < 32 * 1024`,
`try_next()` takes one more update; on an empty channel it breaks, and so does a full batch:
the worker then builds the `ReportRequest` and starts `report_state_updates` with
`interval = 1`.  A reporting worker does not read the channel. -/
def poll : ReportWorker U → List U → ReportWorker U × List U
  | waiting, [] => (waiting, [])
  | waiting, u :: q => (collecting [u] (encodedLen u), q)
  | collecting updates size, queue =>
    if size < 32 * 1024 then
      match queue with
      | [] => (reporting updates 1, [])
      | u :: q => (collecting (updates ++ [u]) (size + encodedLen u), q)
    else (reporting updates 1, queue)
  | reporting updates interval, queue => (reporting updates interval, queue)

/-- One `root_client.report(&request)` of a reporting worker: accepted, the worker goes back to
`wait_state_updates`; refused, it sleeps and doubles its interval up to `120`. -/
def report (accepted : Bool) : ReportWorker U → ReportWorker U
  | reporting updates interval =>
    if accepted then waiting else reporting updates (nextInterval interval)
  | w => w

end ReportWorker

namespace ReportPipeline

variable (encodedLen : U → Nat)

/-- The pipeline of a freshly `setup` node: nothing queued, the worker waiting. -/
def init : ReportPipeline U := ⟨[], .waiting, []⟩

/-- One step of the pipeline. -/
def step (s : ReportPipeline U) : ReportAction U → ReportPipeline U
  | .broadcast u => { s with queue := s.queue ++ [u] }
  | .poll =>
    let r := s.worker.poll encodedLen s.queue
    { s with worker := r.1, queue := r.2 }
  | .report accepted =>
    { s with
      worker := s.worker.report accepted
      reported := match s.worker, accepted with
        | .reporting updates _, true => s.reported ++ [updates]
        | _, _ => s.reported }

/-- A run of the pipeline. -/
def run (s : ReportPipeline U) (as : List (ReportAction U)) : ReportPipeline U :=
  as.foldl (step encodedLen) s

end ReportPipeline

/-- The updates a run broadcasts, in order. -/
def broadcasts : List (ReportAction U) → List U
  | [] => []
  | .broadcast u :: as => u :: broadcasts as
  | _ :: as => broadcasts as

/-- The reports of a run the root refuses. -/
def failures : List (ReportAction U) → Nat
  | [] => 0
  | .report false :: as => failures as + 1
  | _ :: as => failures as

@[simp] theorem ReportPipeline.run_nil (encodedLen : U → Nat) (s : ReportPipeline U) :
    ReportPipeline.run encodedLen s [] = s := rfl

@[simp] theorem ReportPipeline.run_cons (encodedLen : U → Nat) (s : ReportPipeline U)
    (a : ReportAction U) (as : List (ReportAction U)) :
    ReportPipeline.run encodedLen s (a :: as) =
      ReportPipeline.run encodedLen (ReportPipeline.step encodedLen s a) as := rfl

/-! ## The sleep schedule -/

/-- The sleeps of `report_state_updates`: `1, 2, 4, …, 64`, then `120` for good. -/
def IsBackoff (interval : Nat) : Prop := ∃ k, interval = min (2 ^ k) 120

theorem nextInterval_min_pow (k : Nat) : nextInterval (min (2 ^ k) 120) = min (2 ^ (k + 1)) 120 := by
  have h : 2 ^ (k + 1) = 2 ^ k * 2 := pow_succ 2 k
  simp only [nextInterval]
  omega

theorem IsBackoff.next {i : Nat} (h : IsBackoff i) : IsBackoff (nextInterval i) := by
  obtain ⟨k, rfl⟩ := h
  exact ⟨k + 1, nextInterval_min_pow k⟩

/-- `k` refusals after the first report: the interval is `min(2^k, 120)`. -/
theorem iterate_nextInterval_one (k : Nat) : nextInterval^[k] 1 = min (2 ^ k) 120 := by
  induction k with
  | zero => rfl
  | succ k ih => rw [Function.iterate_succ_apply', ih, nextInterval_min_pow]

/-! ## The invariant -/

variable (encodedLen : U → Nat)

/-- The encoded size of some updates, as `wait_state_updates` adds it up. -/
def encodedSize : List U → Nat
  | [] => 0
  | u :: us => encodedLen u + encodedSize us

@[simp] theorem encodedSize_append (us vs : List U) :
    encodedSize encodedLen (us ++ vs) = encodedSize encodedLen us + encodedSize encodedLen vs := by
  induction us with
  | nil => simp [encodedSize]
  | cons u us ih => simp [encodedSize, ih, Nat.add_assoc]

/-- A request `wait_state_updates` can build: at least one update, and under `32 * 1024`
encoded bytes before its last one (the loop stops as soon as the size reaches the bound). -/
def Batched (updates : List U) : Prop :=
  updates ≠ [] ∧ encodedSize encodedLen updates.dropLast < 32 * 1024

/-- What the worker's own state guarantees: a collecting worker counts the size of what it has
taken, and a reporting one holds a batch and a sleep of the schedule. -/
def ReportWorker.Wf : ReportWorker U → Prop
  | .waiting => True
  | .collecting updates size =>
    Batched encodedLen updates ∧ size = encodedSize encodedLen updates
  | .reporting updates interval => Batched encodedLen updates ∧ IsBackoff interval

/-- The invariant of the pipeline, given the updates broadcast so far: those reported, those
the worker holds and those queued are exactly the broadcast ones, in order; and every accepted
request is a batch. -/
structure ReportPipeline.Inv (sent : List U) (s : ReportPipeline U) : Prop where
  conserved : s.reported.flatten ++ s.worker.held ++ s.queue = sent
  batched : ∀ b ∈ s.reported, Batched encodedLen b
  wf : s.worker.Wf encodedLen

namespace ReportWorker

variable {encodedLen}

theorem batched_append_of_lt {updates : List U} (u : U)
    (hlt : encodedSize encodedLen updates < 32 * 1024) :
    Batched encodedLen (updates ++ [u]) :=
  ⟨by simp, by rwa [List.dropLast_concat]⟩

/-- A channel operation moves the first queued update, if any, to the worker. -/
theorem poll_held (w : ReportWorker U) (queue : List U) :
    (w.poll encodedLen queue).1.held ++ (w.poll encodedLen queue).2 = w.held ++ queue := by
  match w, queue with
  | waiting, [] => rfl
  | waiting, u :: q => rfl
  | collecting updates size, queue =>
    simp only [poll]
    split
    · split <;> simp [held]
    · rfl
  | reporting _ _, _ => rfl

theorem poll_wf {w : ReportWorker U} (queue : List U) (h : w.Wf encodedLen) :
    (w.poll encodedLen queue).1.Wf encodedLen := by
  match w, queue, h with
  | waiting, [], _ => trivial
  | waiting, u :: q, _ => exact ⟨⟨by simp, by simp [encodedSize]⟩, by simp [encodedSize]⟩
  | collecting updates size, queue, ⟨hb, hsize⟩ =>
    simp only [poll]
    split
    · split
      · exact ⟨hb, 0, rfl⟩
      · exact ⟨batched_append_of_lt _ (hsize ▸ ‹_›), by simp [hsize, encodedSize]⟩
    · exact ⟨hb, 0, rfl⟩
  | reporting _ _, _, h => exact h

end ReportWorker

namespace ReportPipeline

variable {encodedLen}

/-- **Step lemma.**  Every step keeps the invariant, counting what it broadcasts. -/
theorem step_inv {sent : List U} {s : ReportPipeline U} (h : s.Inv encodedLen sent)
    (a : ReportAction U) : (s.step encodedLen a).Inv encodedLen (sent ++ broadcasts [a]) := by
  obtain ⟨hc, hb, hw⟩ := h
  cases a with
  | broadcast u => exact ⟨by simp [step, broadcasts, ← hc], hb, hw⟩
  | poll =>
    refine ⟨?_, hb, ReportWorker.poll_wf _ hw⟩
    simp only [step, broadcasts, List.append_nil, List.append_assoc, ReportWorker.poll_held, ← hc]
  | report accepted =>
    obtain ⟨queue, w, reported⟩ := s
    cases w with
    | reporting updates interval =>
      obtain ⟨hu, hi⟩ := hw
      cases accepted with
      | true =>
        exact ⟨by simpa [step, ReportWorker.report, ReportWorker.held, broadcasts] using hc,
          fun b hb' => (List.mem_append.mp hb').elim (hb b) fun h => by
            rw [List.mem_singleton.mp h]; exact hu, trivial⟩
      | false =>
        exact ⟨by simpa [step, ReportWorker.report, ReportWorker.held, broadcasts] using hc, hb,
          hu, hi.next⟩
    | waiting | collecting _ _ =>
      cases accepted <;> exact ⟨by simpa [step, ReportWorker.report, broadcasts] using hc, hb, hw⟩

theorem broadcasts_cons (a : ReportAction U) (as : List (ReportAction U)) :
    broadcasts (a :: as) = broadcasts [a] ++ broadcasts as := by
  cases a <;> rfl

/-- **Run lemma.**  A run keeps the invariant, counting what it broadcasts. -/
theorem run_inv {sent : List U} {s : ReportPipeline U} (h : s.Inv encodedLen sent) :
    ∀ as, (s.run encodedLen as).Inv encodedLen (sent ++ broadcasts as)
  | [] => by simpa [broadcasts] using h
  | a :: as => by
    rw [run_cons, broadcasts_cons, ← List.append_assoc]
    exact run_inv (step_inv h a) as

theorem init_inv : (init : ReportPipeline U).Inv encodedLen [] :=
  ⟨rfl, fun _ h => (by cases h), trivial⟩

variable (encodedLen)

/-- **No update is lost, duplicated or reordered.**  Whatever the interleaving of broadcasts,
channel operations of the worker and answers of the root, the requests the root has accepted,
then the updates the worker holds, then the queued ones, are the broadcast updates in the order
they were broadcast. -/
theorem run_conserves (as : List (ReportAction U)) :
    (init.run encodedLen as).reported.flatten ++ (init.run encodedLen as).worker.held ++
      (init.run encodedLen as).queue = broadcasts as :=
  (run_inv init_inv as).conserved

/-- **Requests and sleeps stay in bounds.**  In every run, each request the root accepted holds
at least one update and less than `32 * 1024` encoded bytes before its last update, and a
retrying worker's sleep is `min(2^k, 120)` ms for some `k`. -/
theorem run_batched (as : List (ReportAction U)) :
    (∀ b ∈ (init.run encodedLen as).reported, Batched encodedLen b) ∧
      ∀ updates interval, (init.run encodedLen as).worker = .reporting updates interval →
        Batched encodedLen updates ∧ IsBackoff interval := by
  obtain ⟨-, hb, hw⟩ : (init.run encodedLen as).Inv encodedLen ([] ++ broadcasts as) :=
    run_inv init_inv as
  exact ⟨hb, fun _ _ h => by rw [h] at hw; exact hw⟩

variable {encodedLen}

/-- While the worker retries a request and the root refuses it, the request stays as it is,
each refusal advances the sleep, and every broadcast waits in the queue. -/
theorem run_reporting {s : ReportPipeline U} {updates : List U} {interval : Nat}
    (hs : s.worker = .reporting updates interval) :
    ∀ as, ReportAction.report true ∉ as →
      (s.run encodedLen as).worker = .reporting updates (nextInterval^[failures as] interval) ∧
        (s.run encodedLen as).reported = s.reported ∧
        (s.run encodedLen as).queue = s.queue ++ broadcasts as
  | [], _ => ⟨hs, rfl, by simp [broadcasts]⟩
  | a :: as, hacc => by
    have hacc' : ReportAction.report true ∉ as := fun h => hacc (List.mem_cons_of_mem a h)
    rw [run_cons]
    cases a with
    | broadcast u =>
      obtain ⟨h1, h2, h3⟩ := run_reporting (s := s.step encodedLen (.broadcast u)) hs as hacc'
      exact ⟨h1, h2, by rw [h3]; simp [step, broadcasts]⟩
    | poll =>
      have hp : (s.step encodedLen .poll) = s := by
        obtain ⟨queue, w, reported⟩ := s
        cases hs
        rfl
      rw [hp]
      exact run_reporting hs as hacc'
    | report accepted =>
      cases accepted with
      | true => exact absurd (List.mem_cons_self _ _) hacc
      | false =>
        have hs' : (s.step encodedLen (.report false)).worker =
            .reporting updates (nextInterval interval) := by
          simp [step, hs, ReportWorker.report]
        obtain ⟨h1, h2, h3⟩ := run_reporting hs' as hacc'
        refine ⟨by rw [h1, failures, Function.iterate_succ_apply], ?_, ?_⟩
        · rw [h2]; simp [step, hs]
        · rw [h3]; simp [step, broadcasts]

/-- **A refused request is retried unchanged.**  From the first report of a request, whatever
the replicas broadcast and however often the root refuses it, the worker keeps reporting the
same request, its interval after `k` refusals (the sleep that follows a further refusal) is
`min(2^k, 120)` ms, nothing more is accepted, and every broadcast update waits in the queue, in
order. -/
theorem run_retries (s : ReportPipeline U) (updates : List U) (as : List (ReportAction U))
    (hs : s.worker = .reporting updates 1) (hacc : ReportAction.report true ∉ as) :
    (s.run encodedLen as).worker = .reporting updates (min (2 ^ failures as) 120) ∧
      (s.run encodedLen as).reported = s.reported ∧
      (s.run encodedLen as).queue = s.queue ++ broadcasts as := by
  rw [← iterate_nextInterval_one]
  exact run_reporting hs as hacc

/-- Two refusals around a broadcast and a poll: the request `[5]` is retried after sleeps of `1`
and `2` ms, its interval is now `min(2^2, 120) = 4`, and the broadcast `7` waits in the queue. -/
theorem run_retries_twice :
    (⟨[], .reporting [5] 1, []⟩ : ReportPipeline Nat).worker = .reporting [5] 1 ∧
      ReportAction.report true ∉ [.report false, .broadcast 7, .poll, .report false] ∧
      ((⟨[], .reporting [5] 1, []⟩ : ReportPipeline Nat).run id
          [.report false, .broadcast 7, .poll, .report false]).worker =
        .reporting [5] (min (2 ^ failures
          ([.report false, .broadcast 7, .poll, .report false] : List (ReportAction Nat))) 120) ∧
      ((⟨[], .reporting [5] 1, []⟩ : ReportPipeline Nat).run id
          [.report false, .broadcast 7, .poll, .report false]).reported = [] ∧
      ((⟨[], .reporting [5] 1, []⟩ : ReportPipeline Nat).run id
          [.report false, .broadcast 7, .poll, .report false]).queue =
        [] ++ broadcasts [.report false, .broadcast 7, .poll, .report false] :=
  ⟨rfl, by decide, run_retries _ [5] _ rfl (by decide)⟩

end ReportPipeline

end Sekas
