import InspectionLine.WorkerPool

/-! # Finality of cancellations

A canceled scope stays installed, and a worker asks for it three times. What slips through
is a job that has passed the last of these checks and not yet called back. -/
namespace InspectionLine

open InputRuns

def PoolEvent.cancels : PoolEvent → InferenceJob → Bool
  | .scopeCanceled productId stationId _, job => job.inScope productId stationId
  | .productLocked productId _, job => job.inScope productId none
  | _, _ => false

/-- The job that has passed its last check for cancellation. -/
def WorkerPhase.pastLastCheck? : WorkerPhase → Option InferenceJob
  | .kept job => some job
  | _ => none

theorem past_last_check_eq_some {phase : WorkerPhase} {job : InferenceJob} :
    phase.pastLastCheck? = some job ↔ phase = .kept job := by
  cases phase <;> simp [WorkerPhase.pastLastCheck?]

/-- No job succeeds behind a cancel call that covers it. -/
def CancellationFinal (trace : List PoolEvent) : Prop :=
  trace.Pairwise fun earlier later => ∀ job, later = .success job → earlier.cancels job = false

namespace WorkerPool

variable {n m : ℕ}

/-- A cancel call comes when no job it covers is past its last check. -/
def CancelsInTime (s : WorkerPool n m) : PoolStep n m → Prop
  | .cancelScope productId stationId =>
    ∀ w, ∀ job ∈ (s.workers w).pastLastCheck?, job.inScope productId stationId = false
  | .lockProduct productId =>
    ∀ w, ∀ job ∈ (s.workers w).pastLastCheck?, job.inScope productId none = false
  | _ => True

instance (s : WorkerPool n m) (e : PoolStep n m) : Decidable (CancelsInTime s e) := by
  apply e.casesOn (motive := fun t => Decidable (CancelsInTime s t)) <;> intros <;>
    dsimp only [CancelsInTime] <;> infer_instance

abbrev TimelyRun : WorkerPool n m → WorkerPool n m → Prop :=
  Execution next fun s e => Admits s e ∧ CancelsInTime s e

structure Finality (s : WorkerPool n m) : Prop where
  installed : ∀ e ∈ s.trace, ∀ job, e.cancels job = true → s.queue.jobCanceled job = true
  kept : ∀ w job, s.workers w = .kept job → s.queue.jobCanceled job = false
  final : CancellationFinal s.trace

/-- Finality reads the cancellations, the workers and the trace only. -/
theorem finality_of_eq {s s' : WorkerPool n m} (h : Finality s)
    (hcanceled : s'.queue.canceled = s.queue.canceled) (hworkers : s'.workers = s.workers)
    (htrace : s'.trace = s.trace) : Finality s' where
  installed e he job hjob := by
    rw [htrace] at he
    simpa [InferenceQueue.jobCanceled, hcanceled] using h.installed e he job hjob
  kept w job hw := by
    rw [hworkers] at hw
    simpa [InferenceQueue.jobCanceled, hcanceled] using h.kept w job hw
  final := htrace ▸ h.final

theorem set_worker_finality {s : WorkerPool n m} (h : Finality s) (w : Fin n)
    {phase : WorkerPhase}
    (hphase : ∀ job, phase = .kept job → s.queue.jobCanceled job = false) :
    Finality (s.setWorker w phase) where
  installed := h.installed
  kept v job hv := by
    by_cases hw : v = w
    · subst hw
      simp only [setWorker, Function.update_self] at hv
      exact hphase job hv
    · simp only [setWorker, Function.update_of_ne hw] at hv
      exact h.kept v job hv
  final := h.final

/-- A callback: it cancels nothing, and a success is of a job that is not canceled. -/
theorem record_finality {s : WorkerPool n m} (h : Finality s) {e : PoolEvent}
    (hcancels : ∀ job, e.cancels job = false)
    (hsuccess : ∀ job, e = .success job → s.queue.jobCanceled job = false) :
    Finality (s.record e) where
  installed d hd job hjob := by
    rcases List.mem_append.mp hd with hd | hd
    · exact h.installed d hd job hjob
    · rw [List.mem_singleton.mp hd, hcancels] at hjob
      cases hjob
  kept := h.kept
  final := by
    refine List.pairwise_append.mpr ⟨h.final, List.pairwise_singleton .., ?_⟩
    intro earlier hearlier later hlater job hjob
    rw [List.mem_singleton.mp hlater] at hjob
    by_contra hcovers
    have hcanceled := h.installed earlier hearlier job (by simpa using hcovers)
    rw [hsuccess job hjob] at hcanceled
    cases hcanceled

/-- A cancel call: everything it covers is installed, and no worker is past its last check
with such a job. -/
theorem cancel_finality {s s' : WorkerPool n m} (h : Finality s) {e : PoolEvent}
    (hqueue : ∀ job, s'.queue.jobCanceled job = (s.queue.jobCanceled job || e.cancels job))
    (hworkers : s'.workers = s.workers) (htrace : s'.trace = s.trace ++ [e])
    (hsuccess : ∀ job, e ≠ .success job)
    (hkept : ∀ w job, s.workers w = .kept job → e.cancels job = false) : Finality s' where
  installed d hd job hjob := by
    rw [htrace] at hd
    rw [hqueue, Bool.or_eq_true]
    rcases List.mem_append.mp hd with hd | hd
    · exact .inl (h.installed d hd job hjob)
    · rw [List.mem_singleton.mp hd] at hjob
      exact .inr hjob
  kept w job hw := by
    rw [hworkers] at hw
    rw [hqueue, h.kept w job hw, hkept w job hw]
    rfl
  final := by
    rw [htrace]
    refine List.pairwise_append.mpr ⟨h.final, List.pairwise_singleton .., ?_⟩
    intro earlier _ later hlater job hjob
    rw [List.mem_singleton.mp hlater] at hjob
    exact absurd hjob (hsuccess job)

theorem finish_with_finality {s : WorkerPool n m} (h : Finality s) (w : Fin n) {e : PoolEvent}
    (hcancels : ∀ job, e.cancels job = false)
    (hsuccess : ∀ job, e = .success job → s.queue.jobCanceled job = false) :
    Finality (s.finishWith w e) :=
  set_worker_finality (record_finality h hcancels hsuccess) w (by simp)

theorem fail_finality {s : WorkerPool n m} (h : Finality s) (w : Fin n) (job : InferenceJob)
    (failure : InferenceFailure) : Finality (s.fail w job failure) := by
  refine set_worker_finality (record_finality h (fun _ => rfl) (by simp)) w ?_
  intro other hother
  split at hother <;> cases hother

theorem work_finality {s : WorkerPool n m} (h : Finality s) (w : Fin n) (job : InferenceJob)
    (nowNs : ℤ) (failure? : Option InferenceFailure) {phase : WorkerPhase}
    (hphase : ∀ job, phase ≠ .kept job) : Finality (s.work w job nowNs failure? phase) := by
  unfold work
  split
  · exact fail_finality h w job _
  · split
    · exact fail_finality h w job _
    · exact set_worker_finality h w fun other hother => absurd hother (hphase other)

/-- The check before a phase: only a job that is not canceled goes on to it. -/
theorem cancel_unless_finality {s : WorkerPool n m} (h : Finality s) (w : Fin n)
    (job : InferenceJob) (stage : String) {phase : WorkerPhase}
    (hphase : ∀ other, phase = .kept other → other = job) :
    Finality (s.cancelUnless w job stage phase) := by
  unfold cancelUnless
  split
  · exact finish_with_finality h w (fun _ => rfl) (by simp)
  · rename_i hfree
    refine set_worker_finality h w fun other hother => ?_
    rw [hphase other hother]
    simpa using hfree

theorem step_preserves_finality {s : WorkerPool n m} {e : PoolStep n m} (h : Finality s)
    (htime : CancelsInTime s e) : Finality (next s e) := by
  cases e with
  | enqueue job nowNs =>
    simp only [next, enqueue]
    split
    · exact h
    · rename_i accepted queue hqueue
      have hwaiting : Finality { s with queue } :=
        finality_of_eq h ((InferenceQueue.try_enqueue_frame hqueue).1) rfl rfl
      exact record_finality hwaiting (fun _ => rfl) (by simp)
  | cancelScope productId stationId =>
    exact cancel_finality (e := .scopeCanceled productId stationId _) h
      (fun job => covers_with_scope s.queue.canceled productId stationId job) rfl rfl (by simp)
      fun w job hw => htime w job (past_last_check_eq_some.mpr hw)
  | lockProduct productId =>
    exact cancel_finality (e := .productLocked productId _) h
      (fun job => covers_with_lock s.queue.canceled productId job) rfl rfl (by simp)
      fun w job hw => htime w job (past_last_check_eq_some.mpr hw)
  | get w =>
    simp only [next, get]
    split
    · rename_i job queue _ hget
      have hgot : Finality { s with queue } :=
        finality_of_eq h (InferenceQueue.get_frame hget).1 rfl rfl
      exact set_worker_finality hgot w (by simp)
    · exact set_worker_finality h w (by simp)
    · exact h
  | checkCanceled w =>
    simp only [next, checkCanceled]
    split
    · exact cancel_unless_finality h w _ _ (by simp)
    · exact cancel_unless_finality h w _ _ (by simp)
    · exact cancel_unless_finality h w _ _ fun _ hother => (WorkerPhase.kept.inj hother).symm
    · exact h
  | load w nowNs outcome =>
    simp only [next, load]
    split
    · exact work_finality h w _ nowNs _ (by simp)
    · exact h
  | infer w nowNs outcome =>
    simp only [next, infer]
    split
    · exact work_finality h w _ nowNs _ (by simp)
    · exact h
  | finish w nowNs =>
    simp only [next, finish]
    split
    · rename_i job hkept
      split
      · exact fail_finality h w job _
      · refine finish_with_finality h w (fun _ => rfl) fun other hother => ?_
        rw [← PoolEvent.success.inj hother]
        exact h.kept w job hkept
    · exact h
  | oomCancel w =>
    simp only [next, oomCancel]
    split
    · have hemptied : Finality { s with queue := s.queue.cancelAllWaiting.2 } :=
        finality_of_eq h rfl rfl rfl
      exact set_worker_finality hemptied w (by simp)
    · exact h
  | oomClose w =>
    simp only [next, oomClose]
    split
    · have hclosed : Finality { s with queue := s.queue.close } := finality_of_eq h rfl rfl rfl
      exact set_worker_finality hclosed w (by simp)
    · exact h
  | sweepWait =>
    simp only [next, sweepWait]
    split <;> exact finality_of_eq h rfl rfl rfl
  | sweep nowNs =>
    simp only [next, sweep]
    split <;> exact finality_of_eq h rfl rfl rfl
  | sweepFail =>
    simp only [next, sweepFail]
    split
    · exact finality_of_eq h rfl rfl rfl
    · rename_i job rest _
      have hrest : Finality { s with sweeper := .failing rest } := finality_of_eq h rfl rfl rfl
      exact record_finality hrest (fun _ => rfl) (by simp)
    · exact h
  | stop k =>
    simp only [next, stop]
    split <;> exact finality_of_eq h rfl rfl rfl
  | stopCancel k =>
    simp only [next, stopCancel]
    split <;> exact finality_of_eq h rfl rfl rfl
  | stopCanceled k =>
    simp only [next, stopCanceled]
    split
    · exact finality_of_eq h rfl rfl rfl
    · rename_i job rest _
      have hcanceled : Finality (s.record (.canceled job "SHUTDOWN_QUEUE")) :=
        record_finality h (fun _ => rfl) (by simp)
      exact finality_of_eq hcanceled rfl rfl rfl
    · exact h
  | stopClose k =>
    simp only [next, stopClose]
    split <;> exact finality_of_eq h rfl rfl rfl
  | stopJoin k =>
    simp only [next, stopJoin]
    split <;> exact finality_of_eq h rfl rfl rfl

/-- When every cancel call comes before the last check of the jobs it covers, none of these
jobs succeeds behind it. -/
theorem timely_cancellation_is_final {capacity : ℕ} {hcapacity : 0 < capacity} {hworkers : 0 < n}
    {s : WorkerPool n m} (hrun : TimelyRun (start n m capacity hcapacity hworkers) s) :
    CancellationFinal s.trace := by
  have hinitial : Finality (start n m capacity hcapacity hworkers) :=
    ⟨by simp [start], by simp [start], .nil⟩
  exact (hrun.invariant (P := Finality) (fun _ _ h he => step_preserves_finality h he.2)
    hinitial).final

def inspectionJob : InferenceJob where
  inferenceJobId := "job-1"
  productId := "product-1"
  fifoSequence := 1
  stationId := 1

/-- A job on its way up to the end of its forward. -/
def upToForward : List (PoolStep 1 1) := [
  .enqueue inspectionJob 1, .get 0, .checkCanceled 0, .load 0 2 .loaded, .checkCanceled 0,
  .infer 0 3 .result]

def smallPool : WorkerPool 1 1 := start 1 1 4 (Nat.succ_pos _) Nat.one_pos

/-- The scope is canceled during the forward, in time for the last check. -/
theorem canceled_during_forward : CancellationFinal (runTrace next smallPool
    (upToForward ++ [.cancelScope "product-1" (some 1), .checkCanceled 0])).trace :=
  timely_cancellation_is_final (valid_trace_execution (by decide +kernel))

/-- The scope is canceled between the last check and the callback. -/
theorem canceled_before_callback : ¬ ∀ (n m capacity : ℕ) (hcapacity : 0 < capacity)
    (hworkers : 0 < n) (s : WorkerPool n m),
      Execution next Admits (start n m capacity hcapacity hworkers) s →
        CancellationFinal s.trace := by
  intro h
  have hfinal := h 1 1 4 (by omega) (by omega) (runTrace next smallPool (upToForward ++
    [.checkCanceled 0, .cancelScope "product-1" (some 1), .finish 0 4]))
    (valid_trace_execution (by decide +kernel))
  have htrace : (runTrace next smallPool (upToForward ++
      [.checkCanceled 0, .cancelScope "product-1" (some 1), .finish 0 4])).trace = [
        .accepted { inspectionJob with enqueuedMonotonicNs := 1 },
        .scopeCanceled "product-1" (some 1) [],
        .success { inspectionJob with enqueuedMonotonicNs := 1 }] := by decide +kernel
  rw [htrace, CancellationFinal, List.pairwise_cons, List.pairwise_cons] at hfinal
  exact absurd (hfinal.2.1 _ (List.mem_singleton_self _) _ rfl) (by decide)

end WorkerPool

end InspectionLine
