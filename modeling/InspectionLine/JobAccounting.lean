import InspectionLine.WorkerPool
import Mathlib.Algebra.BigOperators.Group.Finset.Piecewise
import Mathlib.Tactic.Abel

/-! # Accounting for accepted jobs

A job is in one place at a time: waiting, in the hands of a thread, or ended. What the steps
move is conserved, except that out-of-memory handling throws jobs away and a closed queue
keeps what it holds. -/
namespace InspectionLine

open InputRuns

def PoolEvent.acceptedJobs : PoolEvent → Multiset InferenceJob
  | .accepted job => {job}
  | _ => 0

def PoolEvent.endedJobs : PoolEvent → Multiset InferenceJob
  | .accepted _ => 0
  | .success job | .failure job _ | .canceled job _ => {job}
  | .scopeCanceled _ _ removed | .productLocked _ removed => removed

def WorkerPhase.held : WorkerPhase → Multiset InferenceJob
  | .dequeued job | .wanted job | .loaded job | .ready job | .forwarded job | .kept job => {job}
  | .idle | .oomCancel | .oomClose | .exited => 0

def SweepPhase.held : SweepPhase → Multiset InferenceJob
  | .failing jobs => jobs
  | .waiting | .sweeping | .exited => 0

def StopPhase.held : StopPhase → Multiset InferenceJob
  | .canceling jobs => jobs
  | .idle | .stopping | .closing | .joining | .returned => 0

theorem sum_update_add {ι α M : Type*} [Fintype ι] [DecidableEq ι] [AddCommMonoid M]
    (f : ι → α) (g : α → M) (i : ι) (a : α) :
    ∑ j, g (Function.update f i a j) + g (f i) = ∑ j, g (f j) + g a := by
  have hupdate : ∑ j, g (Function.update f i a j) = g a + ∑ j ∈ Finset.univ \ {i}, g (f j) := by
    rw [← Finset.sum_update_of_mem (Finset.mem_univ i) (fun j => g (f j)) (g a)]
    refine Finset.sum_congr rfl fun j _ => ?_
    by_cases hj : j = i
    · subst hj
      simp
    · simp [hj]
  have hsum : ∑ j, g (f j) = g (f i) + ∑ j ∈ Finset.univ \ {i}, g (f j) :=
    Finset.sum_eq_add_sum_sdiff_singleton_of_mem (Finset.mem_univ i) _
  rw [hupdate, hsum]
  abel

namespace WorkerPool

variable {n m : ℕ}

def acceptedJobs (s : WorkerPool n m) : Multiset InferenceJob :=
  (s.trace.map PoolEvent.acceptedJobs).sum

def endedJobs (s : WorkerPool n m) : Multiset InferenceJob :=
  (s.trace.map PoolEvent.endedJobs).sum

/-- The jobs in the hands of a thread, which will call back for them. -/
def inFlight (s : WorkerPool n m) : Multiset InferenceJob :=
  ∑ w, (s.workers w).held + s.sweeper.held + ∑ k, (s.stops k).held

/-- The jobs that wait for a worker. No worker takes a job from a closed queue. -/
def waiting (s : WorkerPool n m) : Multiset InferenceJob :=
  if s.queue.closed then 0 else s.queue.items

def located (s : WorkerPool n m) : Multiset InferenceJob :=
  s.queue.items + s.inFlight + s.endedJobs

/-- The steps of the threads that have started something: all but the calls from outside and
the periodic sweep. -/
def PoolStep.isThread : PoolStep n m → Bool
  | .enqueue .. | .cancelScope .. | .lockProduct _ | .stop _ | .sweepWait | .sweep _ => false
  | _ => true

abbrev ThreadTrace : WorkerPool n m → List (PoolStep n m) → Prop :=
  ValidTrace next fun s e => e.isThread = true ∧ Admits s e

def AtRest (s : WorkerPool n m) : Prop := ∀ e : PoolStep n m, e.isThread = true → ¬ Admits s e

/-- How far a thread can still go by itself. -/
def WorkerPhase.remaining : WorkerPhase → ℕ
  | .exited => 0
  | .idle => 1
  | .oomClose => 2
  | .oomCancel => 3
  | .kept _ => 4
  | .forwarded _ => 5
  | .ready _ => 6
  | .loaded _ => 7
  | .wanted _ => 8
  | .dequeued _ => 9

def SweepPhase.remaining : SweepPhase → ℕ
  | .failing jobs => jobs.length + 1
  | _ => 0

def StopPhase.remaining : StopPhase → ℕ
  | .stopping => 4
  | .canceling jobs => jobs.length + 3
  | .closing => 2
  | .joining => 1
  | .idle | .returned => 0

def remaining (s : WorkerPool n m) : ℕ :=
  10 * s.queue.items.length + ∑ w, WorkerPhase.remaining (s.workers w) +
    SweepPhase.remaining s.sweeper + ∑ k, StopPhase.remaining (s.stops k)

/-- No accepted job is lost: each has ended once or is on its way, the threads come to rest
by themselves, and at rest every job has ended. -/
structure NoJobLost (s : WorkerPool n m) : Prop where
  once : ∀ job ∈ s.acceptedJobs,
    s.endedJobs.count job + (s.waiting + s.inFlight).count job = 1
  rests : ∀ es, ThreadTrace s es → es.length ≤ s.remaining
  settled : s.AtRest → ∀ job ∈ s.acceptedJobs, s.endedJobs.count job = 1

/-- The node makes a new id for every job. -/
def FreshId (s : WorkerPool n m) : PoolStep n m → Prop
  | .enqueue job _ => job.inferenceJobId ∉ s.acceptedJobs.map (·.inferenceJobId)
  | _ => True

/-- No closing of the queue and no out-of-memory handling meets a waiting job. -/
def Careful (s : WorkerPool n m) : PoolStep n m → Prop
  | .oomCancel _ | .oomClose _ | .stopClose _ => s.queue.items = []
  | _ => True

structure Accounted (s : WorkerPool n m) : Prop where
  conserved : s.acceptedJobs = s.located
  unique : (s.acceptedJobs.map (·.inferenceJobId)).Nodup
  closed : s.queue.closed = true → s.queue.items = []
  exited : ∀ w, s.workers w = .exited → s.queue.closed = true

@[simp] theorem accepted_jobs_record (s : WorkerPool n m) (e : PoolEvent) :
    (s.record e).acceptedJobs = s.acceptedJobs + e.acceptedJobs := by
  simp [acceptedJobs, record]

@[simp] theorem ended_jobs_record (s : WorkerPool n m) (e : PoolEvent) :
    (s.record e).endedJobs = s.endedJobs + e.endedJobs := by
  simp [endedJobs, record]

theorem in_flight_set_worker (s : WorkerPool n m) (w : Fin n) (phase : WorkerPhase) :
    (s.setWorker w phase).inFlight + (s.workers w).held = s.inFlight + phase.held := by
  have hsum := sum_update_add s.workers WorkerPhase.held w phase
  simp only [inFlight, setWorker]
  calc _ = (∑ v, (Function.update s.workers w phase v).held + (s.workers w).held) +
        s.sweeper.held + ∑ k, (s.stops k).held := by abel
    _ = _ := by rw [hsum]; abel

theorem in_flight_set_stop (s : WorkerPool n m) (k : Fin m) (phase : StopPhase) :
    (s.setStop k phase).inFlight + (s.stops k).held = s.inFlight + phase.held := by
  have hsum := sum_update_add s.stops StopPhase.held k phase
  simp only [inFlight, setStop]
  calc _ = ∑ v, (s.workers v).held + s.sweeper.held +
        (∑ l, (Function.update s.stops k phase l).held + (s.stops k).held) := by abel
    _ = _ := by rw [hsum]; abel

/-- A worker that takes jobs from the queue, or changes its phase. -/
theorem located_worker {s : WorkerPool n m} {q : InferenceQueue} {w : Fin n}
    {phase : WorkerPhase} (h : (q.items : Multiset InferenceJob) + phase.held =
      s.queue.items + (s.workers w).held) :
    ({ s with queue := q }.setWorker w phase).located = s.located := by
  have hflight := in_flight_set_worker { s with queue := q } w phase
  ext job
  have hcount := congrArg (Multiset.count job) hflight
  have hmoved := congrArg (Multiset.count job) h
  have hsame : { s with queue := q }.inFlight = s.inFlight := rfl
  have hended : ({ s with queue := q }.setWorker w phase).endedJobs = s.endedJobs := rfl
  simp only [located, Multiset.count_add, hended, hsame] at hcount hmoved ⊢
  simp only [setWorker] at hcount ⊢
  omega

/-- A worker that calls back for the job it has. -/
theorem located_worker_ends {s : WorkerPool n m} {w : Fin n} {e : PoolEvent}
    {phase : WorkerPhase} (hheld : (s.workers w).held = e.endedJobs) (hphase : phase.held = 0) :
    ((s.record e).setWorker w phase).located = s.located := by
  have hflight := in_flight_set_worker (s.record e) w phase
  ext job
  have hcount := congrArg (Multiset.count job) hflight
  have hmoved := congrArg (Multiset.count job) hheld
  have hsame : (s.record e).inFlight = s.inFlight := rfl
  have hended : ((s.record e).setWorker w phase).endedJobs = s.endedJobs + e.endedJobs :=
    ended_jobs_record s e
  have hworkers : (s.record e).workers = s.workers := rfl
  have hitems : ((s.record e).setWorker w phase).queue = s.queue := rfl
  simp only [located, Multiset.count_add, hended, hsame, hphase, hworkers, hitems,
    Multiset.count_zero] at hcount ⊢
  omega

/-- A call of `stop` that takes jobs from the queue, or goes on. -/
theorem located_stop {s : WorkerPool n m} {q : InferenceQueue} {b : Bool} {k : Fin m}
    {phase : StopPhase} (h : (q.items : Multiset InferenceJob) + phase.held =
      s.queue.items + (s.stops k).held) :
    ({ s with queue := q, stopEvent := b }.setStop k phase).located = s.located := by
  have hflight := in_flight_set_stop { s with queue := q, stopEvent := b } k phase
  ext job
  have hcount := congrArg (Multiset.count job) hflight
  have hmoved := congrArg (Multiset.count job) h
  have hsame : { s with queue := q, stopEvent := b }.inFlight = s.inFlight := rfl
  have hended : ({ s with queue := q, stopEvent := b }.setStop k phase).endedJobs =
      s.endedJobs := rfl
  simp only [located, Multiset.count_add, hended, hsame] at hcount hmoved ⊢
  simp only [setStop] at hcount ⊢
  omega

theorem located_stop_ends {s : WorkerPool n m} {k : Fin m} {e : PoolEvent} {phase : StopPhase}
    (h : (s.stops k).held = e.endedJobs + phase.held) :
    ((s.record e).setStop k phase).located = s.located := by
  have hflight := in_flight_set_stop (s.record e) k phase
  ext job
  have hcount := congrArg (Multiset.count job) hflight
  have hmoved := congrArg (Multiset.count job) h
  have hsame : (s.record e).inFlight = s.inFlight := rfl
  have hended : ((s.record e).setStop k phase).endedJobs = s.endedJobs + e.endedJobs :=
    ended_jobs_record s e
  have hstops : (s.record e).stops = s.stops := rfl
  have hitems : ((s.record e).setStop k phase).queue = s.queue := rfl
  simp only [located, Multiset.count_add, hended, hsame, hstops, hitems] at hcount hmoved ⊢
  omega

/-- A cancel call that takes jobs out of the queue and hands them back. -/
theorem located_removed {s : WorkerPool n m} {queue : InferenceQueue} {e : PoolEvent}
    (h : (queue.items : Multiset InferenceJob) + e.endedJobs = s.queue.items) :
    ({ s with queue }.record e).located = s.located := by
  have hended : ({ s with queue }.record e).endedJobs = s.endedJobs + e.endedJobs :=
    ended_jobs_record { s with queue } e
  have hflight : ({ s with queue }.record e).inFlight = s.inFlight := rfl
  have hitems : ({ s with queue }.record e).queue = queue := rfl
  simp only [located, hended, hflight, hitems, ← h]
  abel

theorem located_sweeper {s : WorkerPool n m} {q : InferenceQueue} {sweeper : SweepPhase}
    (h : (q.items : Multiset InferenceJob) + sweeper.held =
      s.queue.items + s.sweeper.held) :
    { s with queue := q, sweeper }.located = s.located := by
  have hended : { s with queue := q, sweeper }.endedJobs = s.endedJobs := rfl
  simp only [located, inFlight, hended]
  calc _ = q.items + sweeper.held + ∑ w, (s.workers w).held + ∑ k, (s.stops k).held +
        s.endedJobs := by abel
    _ = _ := by rw [h]; abel

theorem without_filter {q : InferenceQueue} (h : (q.items.map (·.inferenceJobId)).Nodup)
    (p : InferenceJob → Bool) :
    (q.without (q.items.filter p)).items = q.items.filter fun job => !p job := by
  refine List.filter_congr fun job hjob => ?_
  have hmem : job.inferenceJobId ∈ (q.items.filter p).map (·.inferenceJobId) ↔ p job = true := by
    constructor
    · intro hid
      obtain ⟨other, hother, hsame⟩ := List.mem_map.mp hid
      obtain ⟨hitem, hp⟩ := List.mem_filter.mp hother
      rwa [← List.inj_on_of_nodup_map h hitem hjob hsame]
    · exact fun hp => List.mem_map_of_mem (List.mem_filter.mpr ⟨hjob, hp⟩)
  cases hp : p job <;> simp [hmem, hp]

theorem filter_split (items : List InferenceJob) (p : InferenceJob → Bool) :
    ((items.filter fun job => !p job : List InferenceJob) : Multiset InferenceJob) +
      (items.filter p : List InferenceJob) = items := by
  rw [add_comm]
  exact Multiset.coe_eq_coe.mpr (List.filter_append_perm p items)

theorem unique_items {s : WorkerPool n m} (h : Accounted s) :
    (s.queue.items.map (·.inferenceJobId)).Nodup := by
  have hle : (s.queue.items : Multiset InferenceJob) ≤ s.acceptedJobs := by
    rw [h.conserved, located, add_assoc]
    exact Multiset.le_add_right _ _
  exact Multiset.coe_nodup.mp (Multiset.nodup_of_le (Multiset.map_le_map hle) h.unique)

/-- A step that accepts no job and closes nothing. -/
theorem accounted_of {s s' : WorkerPool n m} (h : Accounted s)
    (haccepted : s'.acceptedJobs = s.acceptedJobs) (hlocated : s'.located = s.located)
    (hclosed : s'.queue.closed = s.queue.closed)
    (hitems : s.queue.items = [] → s'.queue.items = [])
    (hexited : ∀ w, s'.workers w = .exited → s.queue.closed = true) : Accounted s' where
  conserved := by rw [haccepted, hlocated, h.conserved]
  unique := haccepted ▸ h.unique
  closed hc := hitems (h.closed (hclosed ▸ hc))
  exited w hw := hclosed ▸ hexited w hw

/-- Closing a queue in which nothing waits. -/
theorem accounted_of_close {s s' : WorkerPool n m} (h : Accounted s)
    (haccepted : s'.acceptedJobs = s.acceptedJobs) (hlocated : s'.located = s.located)
    (hclosed : s'.queue = s.queue.close) (hempty : s.queue.items = []) : Accounted s' where
  conserved := by rw [haccepted, hlocated, h.conserved]
  unique := haccepted ▸ h.unique
  closed _ := by rw [hclosed]; exact hempty
  exited _ _ := by rw [hclosed]; rfl

theorem exited_set_worker {s : WorkerPool n m} (h : Accounted s) {w : Fin n}
    {phase : WorkerPhase} (hphase : phase ≠ .exited) {v : Fin n}
    (hv : (s.setWorker w phase).workers v = .exited) : s.queue.closed = true := by
  by_cases hw : v = w
  · subst hw
    simp only [setWorker, Function.update_self] at hv
    exact absurd hv hphase
  · simp only [setWorker, Function.update_of_ne hw] at hv
    exact h.exited v hv

theorem accounted_finish_with {s : WorkerPool n m} (h : Accounted s) {w : Fin n} {e : PoolEvent}
    {phase : WorkerPhase} (haccepted : e.acceptedJobs = 0)
    (hheld : (s.workers w).held = e.endedJobs) (hphase : phase.held = 0)
    (hexited : phase ≠ .exited) : Accounted ((s.record e).setWorker w phase) := by
  refine accounted_of h ?_ (located_worker_ends hheld hphase) rfl id ?_
  · exact (accepted_jobs_record s e).trans (by rw [haccepted, add_zero])
  · exact fun v hv => exited_set_worker h hexited hv

theorem accounted_set_worker {s : WorkerPool n m} (h : Accounted s) {w : Fin n}
    {phase : WorkerPhase} (hheld : phase.held = (s.workers w).held) (hexited : phase ≠ .exited) :
    Accounted (s.setWorker w phase) := by
  refine accounted_of h rfl ?_ rfl id fun v hv => exited_set_worker h hexited hv
  exact located_worker (s := s) (q := s.queue) (by rw [hheld])

theorem accounted_fail {s : WorkerPool n m} (h : Accounted s) {w : Fin n} {job : InferenceJob}
    (hheld : (s.workers w).held = {job}) (failure : InferenceFailure) :
    Accounted (s.fail w job failure) := by
  refine accounted_finish_with h rfl hheld ?_ ?_ <;> split <;> simp [WorkerPhase.held]

theorem accounted_work {s : WorkerPool n m} (h : Accounted s) {w : Fin n} {job : InferenceJob}
    (hheld : (s.workers w).held = {job}) (nowNs : ℤ) (failure? : Option InferenceFailure)
    {phase : WorkerPhase} (hphase : phase.held = {job}) (hexited : phase ≠ .exited) :
    Accounted (s.work w job nowNs failure? phase) := by
  unfold work
  split
  · exact accounted_fail h hheld _
  · split
    · exact accounted_fail h hheld _
    · exact accounted_set_worker h (hphase.trans hheld.symm) hexited

theorem accounted_cancel_unless {s : WorkerPool n m} (h : Accounted s) {w : Fin n}
    {job : InferenceJob} (hheld : (s.workers w).held = {job}) (stage : String)
    {phase : WorkerPhase} (hphase : phase.held = {job}) (hexited : phase ≠ .exited) :
    Accounted (s.cancelUnless w job stage phase) := by
  unfold cancelUnless
  split
  · exact accounted_finish_with h rfl hheld rfl (by simp)
  · exact accounted_set_worker h (hphase.trans hheld.symm) hexited

theorem try_enqueue_spec {q q' : InferenceQueue} {job accepted : InferenceJob} {nowNs : ℤ}
    (h : q.tryEnqueue job nowNs = some (accepted, q')) :
    accepted = job.stamped nowNs ∧ q.closed = false ∧ q'.closed = false ∧
      (q'.items : Multiset InferenceJob) = {accepted} + q.items := by
  unfold InferenceQueue.tryEnqueue at h
  split at h
  · cases h
  · rename_i hrefused
    cases h
    have hopen : q.closed = false := by simpa using (not_or.mp hrefused).1
    exact ⟨rfl, hopen, hopen, Multiset.coe_eq_coe.mpr (InferenceJob.insert_by_order_perm ..)⟩

theorem get_spec {q q' : InferenceQueue} {got : InferenceQueue.Got} (h : q.get = some (got, q')) :
    match got with
    | .job job => q.closed = false ∧ q'.closed = false ∧ q.items = job :: q'.items
    | .nothing => q.closed = true := by
  unfold InferenceQueue.get at h
  split at h
  · rename_i hclosed
    cases h
    exact hclosed
  · rename_i hopen
    have hopen : q.closed = false := by simpa using hopen
    split at h
    · cases h
    · rename_i hitems
      cases h
      exact ⟨hopen, hopen, hitems⟩

theorem enqueue_preserves_accounted {s : WorkerPool n m} (h : Accounted s) {job : InferenceJob}
    (nowNs : ℤ) (hfresh : job.inferenceJobId ∉ s.acceptedJobs.map (·.inferenceJobId)) :
    Accounted (s.enqueue job nowNs) := by
  unfold enqueue
  split
  · exact h
  · rename_i accepted queue henqueue
    obtain ⟨hstamped, hwas, hopen, hitems⟩ := try_enqueue_spec henqueue
    have haccepted : ({ s with queue }.record (.accepted accepted)).acceptedJobs =
        s.acceptedJobs + {accepted} := accepted_jobs_record { s with queue } _
    have hended : ({ s with queue }.record (.accepted accepted)).endedJobs = s.endedJobs := by
      rw [ended_jobs_record]
      exact add_zero _
    have hflight : ({ s with queue }.record (.accepted accepted)).inFlight = s.inFlight := rfl
    have hqueue : ({ s with queue }.record (.accepted accepted)).queue = queue := rfl
    constructor
    case conserved =>
      simp only [haccepted, located, hended, hflight, hqueue, hitems, h.conserved]
      abel
    case unique =>
      rw [haccepted, Multiset.map_add, Multiset.map_singleton, add_comm, Multiset.singleton_add,
        Multiset.nodup_cons]
      refine ⟨?_, h.unique⟩
      rw [hstamped, InferenceJob.stamped_inference_job_id]
      exact hfresh
    case closed =>
      intro hclosed
      rw [hqueue, hopen] at hclosed
      cases hclosed
    case exited =>
      intro w hw
      rw [h.exited w hw] at hwas
      cases hwas

theorem cancel_preserves_accounted {s : WorkerPool n m} (h : Accounted s) {q : InferenceQueue}
    {e : PoolEvent} (haccepted : e.acceptedJobs = 0)
    (hitems : (q.items : Multiset InferenceJob) + e.endedJobs = s.queue.items)
    (hclosed : q.closed = s.queue.closed) : Accounted ({ s with queue := q }.record e) := by
  refine accounted_of h ?_ (located_removed hitems) hclosed ?_ h.exited
  · exact (accepted_jobs_record { s with queue := q } e).trans (by rw [haccepted]; exact add_zero _)
  · intro hempty
    rw [hempty, Multiset.coe_nil, add_eq_zero] at hitems
    exact Multiset.coe_eq_zero _ |>.mp hitems.1

theorem step_preserves_accounted {s : WorkerPool n m} {e : PoolStep n m} (h : Accounted s)
    (hfresh : FreshId s e) (hcareful : Careful s e) : Accounted (next s e) := by
  cases e with
  | enqueue job nowNs => exact enqueue_preserves_accounted h nowNs hfresh
  | cancelScope productId stationId =>
    have hkept : (s.queue.cancelScope productId stationId).2.items =
        s.queue.items.filter fun job => !job.inScope productId stationId :=
      without_filter (unique_items h) _
    refine cancel_preserves_accounted (q := (s.queue.cancelScope productId stationId).2)
      h rfl ?_ rfl
    rw [hkept]
    exact filter_split ..
  | lockProduct productId =>
    refine cancel_preserves_accounted h rfl ?_ rfl
    have hsplit := filter_split s.queue.items (·.productId = productId)
    simpa [InferenceQueue.lockProduct, InferenceQueue.retain, PoolEvent.endedJobs,
      InferenceQueue.lockedOut] using hsplit
  | get w =>
    simp only [next, get]
    split
    · rename_i job queue hidle hget
      obtain ⟨hopen, hopen', hitems⟩ := get_spec hget
      refine accounted_of h rfl (located_worker ?_) (hopen'.trans hopen.symm) ?_ ?_
      · rw [hidle, hitems, ← Multiset.cons_coe, ← Multiset.singleton_add, add_comm]
        exact (add_zero _).symm
      · intro hempty
        rw [hitems] at hempty
        cases hempty
      · intro v hv
        exact exited_set_worker (s := s) h (by simp) hv
    · rename_i queue hidle hget
      have hclosed : s.queue.closed = true := get_spec hget
      refine accounted_of h rfl ?_ rfl id fun _ _ => hclosed
      exact located_worker (s := s) (q := s.queue) (by rw [hidle]; rfl)
    · exact h
  | checkCanceled w =>
    simp only [next, checkCanceled]
    split
    · rename_i job hw
      exact accounted_cancel_unless h (by rw [hw]; rfl) _ rfl (by simp)
    · rename_i job hw
      exact accounted_cancel_unless h (by rw [hw]; rfl) _ rfl (by simp)
    · rename_i job hw
      exact accounted_cancel_unless h (by rw [hw]; rfl) _ rfl (by simp)
    · exact h
  | load w nowNs outcome =>
    simp only [next, load]
    split
    · rename_i job hw
      exact accounted_work h (by rw [hw]; rfl) nowNs _ rfl (by simp)
    · exact h
  | infer w nowNs outcome =>
    simp only [next, infer]
    split
    · rename_i job hw
      exact accounted_work h (by rw [hw]; rfl) nowNs _ rfl (by simp)
    · exact h
  | finish w nowNs =>
    simp only [next, finish]
    split
    · rename_i job hw
      split
      · exact accounted_fail h (by rw [hw]; rfl) _
      · exact accounted_finish_with h rfl (by rw [hw]; rfl) rfl (by simp)
    · exact h
  | oomCancel w =>
    have hempty : s.queue.items = [] := hcareful
    simp only [next, oomCancel]
    split
    · rename_i hw
      refine accounted_of h rfl (located_worker ?_) rfl ?_ ?_
      · rw [hw, hempty]
        simp [InferenceQueue.cancelAllWaiting, InferenceQueue.retain, hempty]
        rfl
      · exact fun _ => by simp [setWorker, InferenceQueue.cancelAllWaiting, InferenceQueue.retain]
      · exact fun v hv => exited_set_worker (s := s) h (by simp) hv
    · exact h
  | oomClose w =>
    simp only [next, oomClose]
    split
    · rename_i hw
      refine accounted_of_close h rfl (located_worker ?_) rfl hcareful
      rw [hw]
      rfl
    · exact h
  | sweepWait =>
    simp only [next, sweepWait]
    split
    · rename_i hw
      refine accounted_of h rfl ?_ rfl id h.exited
      refine located_sweeper (q := s.queue) ?_
      rw [hw]
      split <;> rfl
    · exact h
  | sweep nowNs =>
    simp only [next, sweep]
    split
    · rename_i hw
      have hkept : (s.queue.discardExpired nowNs).2.items =
          s.queue.items.filter fun job => !job.expired nowNs := without_filter (unique_items h) _
      refine accounted_of h rfl (located_sweeper ?_) rfl ?_ h.exited
      · rw [hw, hkept]
        exact (filter_split ..).trans (add_zero _).symm
      · intro hempty
        rw [hkept, hempty]
        rfl
    · exact h
  | sweepFail =>
    simp only [next, sweepFail]
    split
    · rename_i hw
      refine accounted_of h rfl ?_ rfl id h.exited
      refine located_sweeper (q := s.queue) ?_
      rw [hw]
      rfl
    · rename_i job rest hw
      refine accounted_of h ?_ ?_ rfl id h.exited
      · exact (accepted_jobs_record _ _).trans (add_zero _)
      · have hended : { s with sweeper := .failing rest }.endedJobs = s.endedJobs := rfl
        simp only [located, inFlight, ended_jobs_record, hended, hw, SweepPhase.held,
          PoolEvent.endedJobs, record_queue, record_workers, record_sweeper, record_stops,
          ← Multiset.cons_coe, ← Multiset.singleton_add]
        abel
    · exact h
  | stop k =>
    simp only [next, stop]
    split
    all_goals first
    | exact h
    | rename_i hw
      refine accounted_of h rfl ?_ rfl id h.exited
      exact located_stop (q := s.queue) (by rw [hw]; rfl)
  | stopCancel k =>
    simp only [next, stopCancel]
    split
    · rename_i hw
      refine accounted_of h rfl ?_ rfl ?_ h.exited
      · refine located_stop (b := s.stopEvent) ?_
        rw [hw]
        simp [InferenceQueue.cancelAllWaiting, InferenceQueue.retain, StopPhase.held]
      · exact fun _ => by simp [setStop, InferenceQueue.cancelAllWaiting, InferenceQueue.retain]
    · exact h
  | stopCanceled k =>
    simp only [next, stopCanceled]
    split
    · rename_i hw
      refine accounted_of h rfl ?_ rfl id h.exited
      exact located_stop (q := s.queue) (b := s.stopEvent) (by rw [hw]; rfl)
    · rename_i job rest hw
      refine accounted_of h ?_ (located_stop_ends ?_) rfl id h.exited
      · exact (accepted_jobs_record s _).trans (add_zero _)
      · rw [hw]
        rfl
    · exact h
  | stopClose k =>
    simp only [next, stopClose]
    split
    · rename_i hw
      refine accounted_of_close h rfl ?_ rfl hcareful
      refine located_stop (b := s.stopEvent) ?_
      rw [hw]
      rfl
    · exact h
  | stopJoin k =>
    simp only [next, stopJoin]
    split
    · rename_i hw
      refine accounted_of h rfl ?_ rfl id h.exited
      exact located_stop (q := s.queue) (b := s.stopEvent) (by rw [hw]; rfl)
    · exact h

theorem remaining_worker {s : WorkerPool n m} {q : InferenceQueue} {t : List PoolEvent}
    {w : Fin n} {phase : WorkerPhase}
    (h : 10 * q.items.length + WorkerPhase.remaining phase <
      10 * s.queue.items.length + WorkerPhase.remaining (s.workers w)) :
    ({ s with queue := q, trace := t }.setWorker w phase).remaining < s.remaining := by
  have hsum := sum_update_add s.workers WorkerPhase.remaining w phase
  simp only [remaining, setWorker]
  omega

theorem remaining_stop {s : WorkerPool n m} {q : InferenceQueue} {t : List PoolEvent}
    {k : Fin m} {phase : StopPhase}
    (h : 10 * q.items.length + StopPhase.remaining phase <
      10 * s.queue.items.length + StopPhase.remaining (s.stops k)) :
    ({ s with queue := q, trace := t }.setStop k phase).remaining < s.remaining := by
  have hsum := sum_update_add s.stops StopPhase.remaining k phase
  simp only [remaining, setStop]
  omega

theorem remaining_finish_with {s : WorkerPool n m} {w : Fin n} {e : PoolEvent}
    (h : 1 < WorkerPhase.remaining (s.workers w)) : (s.finishWith w e).remaining < s.remaining :=
  remaining_worker (q := s.queue) (Nat.add_lt_add_left h _)

theorem remaining_fail {s : WorkerPool n m} {w : Fin n} {job : InferenceJob}
    {failure : InferenceFailure} (h : 3 < WorkerPhase.remaining (s.workers w)) :
    (s.fail w job failure).remaining < s.remaining := by
  refine remaining_worker (q := s.queue) (Nat.add_lt_add_left ?_ _)
  split
  · exact h
  · exact Nat.lt_of_le_of_lt (by decide) h

theorem remaining_set_worker {s : WorkerPool n m} {w : Fin n} {phase : WorkerPhase}
    (h : WorkerPhase.remaining phase < WorkerPhase.remaining (s.workers w)) :
    (s.setWorker w phase).remaining < s.remaining :=
  remaining_worker (q := s.queue) (t := s.trace) (Nat.add_lt_add_left h _)

theorem remaining_work {s : WorkerPool n m} {w : Fin n} {job : InferenceJob} {nowNs : ℤ}
    {failure? : Option InferenceFailure} {phase : WorkerPhase}
    (hfail : 3 < WorkerPhase.remaining (s.workers w))
    (h : WorkerPhase.remaining phase < WorkerPhase.remaining (s.workers w)) :
    (s.work w job nowNs failure? phase).remaining < s.remaining := by
  unfold work
  split
  · exact remaining_fail hfail
  · split
    · exact remaining_fail hfail
    · exact remaining_set_worker h

theorem remaining_cancel_unless {s : WorkerPool n m} {w : Fin n} {job : InferenceJob}
    {stage : String} {phase : WorkerPhase} (hfail : 1 < WorkerPhase.remaining (s.workers w))
    (h : WorkerPhase.remaining phase < WorkerPhase.remaining (s.workers w)) :
    (s.cancelUnless w job stage phase).remaining < s.remaining := by
  unfold cancelUnless
  split
  · exact remaining_finish_with hfail
  · exact remaining_set_worker h

/-- Every step of a thread brings the pool nearer to rest. -/
theorem thread_step_decreases {s : WorkerPool n m} {e : PoolStep n m} (hthread : e.isThread = true)
    (h : Admits s e) : (next s e).remaining < s.remaining := by
  cases e with
  | enqueue | cancelScope | lockProduct | sweepWait | sweep | stop => cases hthread
  | get w =>
    obtain ⟨hidle, hsome⟩ := h
    obtain ⟨⟨got, queue⟩, hget⟩ := Option.isSome_iff_exists.mp hsome
    simp only [next, get, hidle, hget]
    cases got with
    | job job =>
      obtain ⟨-, -, hitems⟩ := get_spec hget
      refine remaining_worker (t := s.trace) ?_
      rw [hidle, hitems]
      simp only [WorkerPhase.remaining, List.length_cons]
      omega
    | nothing => exact remaining_set_worker (by rw [hidle]; decide)
  | checkCanceled w =>
    have hchecks : (s.workers w).checks = true := h
    simp only [next, checkCanceled]
    cases hw : s.workers w with
    | dequeued job | loaded job | forwarded job =>
      exact remaining_cancel_unless (by simp [hw, WorkerPhase.remaining])
        (by simp [hw, WorkerPhase.remaining])
    | _ => simp [hw, WorkerPhase.checks] at hchecks
  | load w nowNs outcome =>
    have hloads : (s.workers w).loads = true := h
    simp only [next, load]
    cases hw : s.workers w with
    | wanted job =>
      exact remaining_work (by simp [hw, WorkerPhase.remaining])
        (by simp [hw, WorkerPhase.remaining])
    | _ => simp [hw, WorkerPhase.loads] at hloads
  | infer w nowNs outcome =>
    have hinfers : (s.workers w).infers = true := h
    simp only [next, infer]
    cases hw : s.workers w with
    | ready job =>
      exact remaining_work (by simp [hw, WorkerPhase.remaining])
        (by simp [hw, WorkerPhase.remaining])
    | _ => simp [hw, WorkerPhase.infers] at hinfers
  | finish w nowNs =>
    have hfinishes : (s.workers w).finishes = true := h
    simp only [next, finish]
    cases hw : s.workers w with
    | kept job =>
      simp only
      split
      · exact remaining_fail (by simp [hw, WorkerPhase.remaining])
      · exact remaining_finish_with (by simp [hw, WorkerPhase.remaining])
    | _ => simp [hw, WorkerPhase.finishes] at hfinishes
  | oomCancel w =>
    have hw : s.workers w = .oomCancel := h
    simp only [next, oomCancel, hw]
    refine remaining_worker (t := s.trace) ?_
    simp only [hw, WorkerPhase.remaining, InferenceQueue.cancelAllWaiting, InferenceQueue.retain,
      List.filter_false, List.length_nil]
    omega
  | oomClose w =>
    have hw : s.workers w = .oomClose := h
    simp only [next, oomClose, hw]
    refine remaining_worker (t := s.trace) ?_
    simp [hw, WorkerPhase.remaining, InferenceQueue.close]
  | sweepFail =>
    have hfails : s.sweeper.fails = true := h
    simp only [next, sweepFail]
    cases hw : s.sweeper with
    | failing jobs =>
      cases jobs with
      | nil => simp [remaining, hw, SweepPhase.remaining]
      | cons job rest => simp [remaining, hw, SweepPhase.remaining]
    | _ => simp [hw, SweepPhase.fails] at hfails
  | stopCancel k =>
    have hw : s.stops k = .stopping := h
    simp only [next, stopCancel, hw]
    refine remaining_stop (t := s.trace) ?_
    simp only [hw, StopPhase.remaining, InferenceQueue.cancelAllWaiting, InferenceQueue.retain,
      List.filter_false, List.length_nil]
    omega
  | stopCanceled k =>
    have hcancels : (s.stops k).cancels = true := h
    simp only [next, stopCanceled]
    cases hw : s.stops k with
    | canceling jobs =>
      cases jobs with
      | nil =>
        refine remaining_stop (q := s.queue) (t := s.trace) (Nat.add_lt_add_left ?_ _)
        simp [hw, StopPhase.remaining]
      | cons job rest =>
        refine remaining_stop (q := s.queue) (Nat.add_lt_add_left ?_ _)
        simp [hw, StopPhase.remaining]
    | _ => simp [hw, StopPhase.cancels] at hcancels
  | stopClose k =>
    have hw : s.stops k = .closing := h
    simp only [next, stopClose, hw]
    refine remaining_stop (t := s.trace) ?_
    simp [hw, StopPhase.remaining, InferenceQueue.close]
  | stopJoin k =>
    have hw : s.stops k = .joining := h.1
    simp only [next, stopJoin, hw]
    refine remaining_stop (q := s.queue) (t := s.trace) (Nat.add_lt_add_left ?_ _)
    simp [hw, StopPhase.remaining]

theorem thread_trace_bounded {s : WorkerPool n m} {es : List (PoolStep n m)}
    (h : ThreadTrace s es) : es.length ≤ s.remaining := by
  induction es generalizing s with
  | nil => exact Nat.zero_le _
  | cons e es ih =>
    have hdecreases := thread_step_decreases h.1.1 h.1.2
    have hrest := ih h.2
    simp only [List.length_cons]
    omega

/-- A worker with something in its hands can go on. -/
theorem busy_worker_steps {s : WorkerPool n m} {w : Fin n} (hidle : s.workers w ≠ .idle)
    (hexited : s.workers w ≠ .exited) : ∃ e : PoolStep n m, e.isThread = true ∧ Admits s e := by
  cases hw : s.workers w with
  | idle => exact absurd hw hidle
  | exited => exact absurd hw hexited
  | dequeued job | loaded job | forwarded job =>
    exact ⟨.checkCanceled w, rfl, by simp [Admits, hw, WorkerPhase.checks]⟩
  | wanted job => exact ⟨.load w 0 .loaded, rfl, by simp [Admits, hw, WorkerPhase.loads]⟩
  | ready job => exact ⟨.infer w 0 .result, rfl, by simp [Admits, hw, WorkerPhase.infers]⟩
  | kept job => exact ⟨.finish w 0, rfl, by simp [Admits, hw, WorkerPhase.finishes]⟩
  | oomCancel => exact ⟨.oomCancel w, rfl, hw⟩
  | oomClose => exact ⟨.oomClose w, rfl, hw⟩

theorem get_of_waiting {q : InferenceQueue} (h : q.items ≠ []) : q.get.isSome = true := by
  unfold InferenceQueue.get
  split
  · rfl
  · split
    · rename_i hitems
      exact absurd hitems h
    · rfl

/-- While a job is waiting or in flight, some thread can go on. -/
theorem pending_job_steps {s : WorkerPool n m} (h : Accounted s) {job : InferenceJob}
    (hjob : job ∈ s.waiting + s.inFlight) : ∃ e : PoolStep n m, e.isThread = true ∧ Admits s e := by
  simp only [waiting, inFlight, Multiset.mem_add] at hjob
  rcases hjob with hwaiting | (hworker | hsweeper) | hstop
  · split at hwaiting
    · exact absurd hwaiting (Multiset.notMem_zero job)
    · rename_i hopen
      have hitems : s.queue.items ≠ [] := List.ne_nil_of_mem (Multiset.mem_coe.mp hwaiting)
      by_cases hidle : s.workers ⟨0, s.worker_count_pos⟩ = .idle
      · exact ⟨.get _, rfl, hidle, get_of_waiting hitems⟩
      · exact busy_worker_steps hidle fun hexited => hopen (h.exited _ hexited)
  · obtain ⟨w, -, hw⟩ := Multiset.mem_sum.mp hworker
    refine busy_worker_steps (w := w) ?_ ?_ <;>
    · intro hphase
      rw [hphase] at hw
      exact absurd hw (Multiset.notMem_zero job)
  · cases hs : s.sweeper with
    | failing jobs => exact ⟨.sweepFail, rfl, by simp [Admits, hs, SweepPhase.fails]⟩
    | _ => simp [hs, SweepPhase.held] at hsweeper
  · obtain ⟨k, -, hk⟩ := Multiset.mem_sum.mp hstop
    cases hs : s.stops k with
    | canceling jobs => exact ⟨.stopCanceled k, rfl, by simp [Admits, hs, StopPhase.cancels]⟩
    | _ => simp [hs, StopPhase.held] at hk

theorem accounted_no_job_lost {s : WorkerPool n m} (h : Accounted s) : NoJobLost s := by
  have hwaiting : s.waiting = s.queue.items := by
    unfold waiting
    split
    · rename_i hclosed
      rw [h.closed hclosed]
      rfl
    · rfl
  have honce : ∀ job ∈ s.acceptedJobs,
      s.endedJobs.count job + (s.waiting + s.inFlight).count job = 1 := by
    intro job hjob
    have hnodup : s.acceptedJobs.Nodup := h.unique.of_map _
    have hcount := Multiset.count_eq_one_of_mem hnodup hjob
    rw [h.conserved, located, Multiset.count_add] at hcount
    rw [hwaiting]
    omega
  refine ⟨honce, fun es hes => thread_trace_bounded hes, ?_⟩
  intro hrest job hjob
  have hpending : (s.waiting + s.inFlight).count job = 0 := by
    refine Multiset.count_eq_zero.mpr fun hmem => ?_
    obtain ⟨e, hthread, hadmits⟩ := pending_job_steps h hmem
    exact hrest e hthread hadmits
  have := honce job hjob
  omega

abbrev CarefulRun : WorkerPool n m → WorkerPool n m → Prop :=
  Execution next fun s e => Admits s e ∧ FreshId s e ∧ Careful s e

theorem start_accounted {capacity : ℕ} (hcapacity : 0 < capacity) (hworkers : 0 < n) :
    Accounted (start n m capacity hcapacity hworkers) := by
  refine ⟨?_, by simp [start, acceptedJobs], by simp [start, InferenceQueue.new],
    by simp [start]⟩
  simp [start, acceptedJobs, located, endedJobs, inFlight, InferenceQueue.new, WorkerPhase.held,
    SweepPhase.held, StopPhase.held]

/-- When no closing of the queue and no out-of-memory handling meets a waiting job, every
accepted job ends exactly once. -/
theorem careful_pool_loses_no_job {capacity : ℕ} {hcapacity : 0 < capacity} {hworkers : 0 < n}
    {s : WorkerPool n m} (hrun : CarefulRun (start n m capacity hcapacity hworkers) s) :
    NoJobLost s :=
  accounted_no_job_lost (hrun.invariant (P := Accounted)
    (fun _ _ h he => step_preserves_accounted h he.2.1 he.2.2) (start_accounted hcapacity hworkers))

instance (s : WorkerPool n m) (e : PoolStep n m) : Decidable (FreshId s e) := by
  apply e.casesOn (motive := fun t => Decidable (FreshId s t)) <;> intros <;>
    dsimp only [FreshId] <;> infer_instance

instance (s : WorkerPool n m) (e : PoolStep n m) : Decidable (Careful s e) := by
  apply e.casesOn (motive := fun t => Decidable (Careful s t)) <;> intros <;>
    dsimp only [Careful] <;> infer_instance

def queuedJob : InferenceJob where
  inferenceJobId := "job-1"
  productId := "product-1"
  fifoSequence := 1
  stationId := 1

def sole : Fin 1 := ⟨0, Nat.one_pos⟩

/-- One job comes through, one is canceled while it waits, and then the pool is stopped. -/
def orderlyShutdown : List (PoolStep 1 1) := [
  .enqueue queuedJob 1, .get sole, .checkCanceled sole, .load sole 2 .loaded,
  .checkCanceled sole, .infer sole 3 .result,
  .enqueue { queuedJob with inferenceJobId := "job-2" } 3, .checkCanceled sole, .finish sole 4,
  .stop sole, .stopCancel sole, .stopCanceled sole, .stopCanceled sole, .stopClose sole,
  .get sole, .stopJoin sole]

theorem orderly_shutdown_loses_no_job : NoJobLost
    (runTrace next (start 1 1 4 (Nat.succ_pos _) Nat.one_pos) orderlyShutdown : WorkerPool 1 1) :=
  careful_pool_loses_no_job (valid_trace_execution (by decide +kernel))

/-- A job is accepted between the two critical sections of `stop`: the workers leave, and it
stays in the closed queue. -/
theorem job_between_cancel_and_close_is_lost : ¬ ∀ (n m capacity : ℕ)
    (hcapacity : 0 < capacity) (hworkers : 0 < n) (s : WorkerPool n m),
      Execution next (fun s e => Admits s e ∧ FreshId s e)
        (start n m capacity hcapacity hworkers) s → NoJobLost s := by
  intro h
  have honce := (h 1 1 4 (by omega) (by omega)
    (runTrace next (start 1 1 4 (Nat.succ_pos _) Nat.one_pos) [.stop 0, .stopCancel 0,
      .stopCanceled 0, .enqueue queuedJob 1, .stopClose 0, .get 0, .stopJoin 0])
    (valid_trace_execution (by decide +kernel))).once
  exact absurd (honce { queuedJob with enqueuedMonotonicNs := 1 } (by decide +kernel))
    (by decide +kernel)

end WorkerPool

end InspectionLine
