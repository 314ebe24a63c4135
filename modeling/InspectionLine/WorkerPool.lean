import InspectionLine.InferenceQueue
import InspectionLine.InputRuns
import Mathlib.Algebra.BigOperators.Group.Finset.Basic
import Mathlib.Algebra.Order.BigOperators.Group.Finset
import Mathlib.Algebra.Order.Group.Multiset

/-! # Workers, sweeper and shutdown around the inference queue

Every thread stands in a phase, and every critical section of the queue and every callback
is a step of its own. The trace keeps the callbacks and the calls in their order. -/
namespace InspectionLine

inductive InferenceFailureKind where
  | timeout
  | fileRead
  | preprocessing
  | model
  | cudaOom
  deriving DecidableEq, Repr

structure InferenceFailure where
  kind : InferenceFailureKind
  reason : String
  deriving DecidableEq, Repr

inductive LoadOutcome where
  | loaded
  | deadlineExceeded
  | raised (typeName : String) (isPreprocessingFailure : Bool)
  deriving DecidableEq, Repr

inductive InferOutcome where
  | result
  | deadlineExceeded
  | raised (typeName message : String)
  deriving DecidableEq, Repr

def queueTimeout : InferenceFailure := ⟨.timeout, "queue total inference timeout"⟩

def LoadOutcome.failure? : LoadOutcome → Option InferenceFailure
  | .loaded => none
  | .deadlineExceeded => some queueTimeout
  | .raised typeName true => some ⟨.preprocessing, "preprocessing failed: " ++ typeName⟩
  | .raised typeName false => some ⟨.fileRead, "image read failed after retry: " ++ typeName⟩

def isOutOfMemory (typeName message : String) : Bool :=
  decide ("outofmemory".toList <:+: typeName.toLower.toList) ||
    decide ("cuda out of memory".toList <:+: message.toLower.toList)

def InferOutcome.failure? : InferOutcome → Option InferenceFailure
  | .result => none
  | .deadlineExceeded => some queueTimeout
  | .raised typeName message =>
    some ⟨if isOutOfMemory typeName message then .cudaOom else .model,
      "inference failed: " ++ typeName⟩

/-- Where a worker is in its loop: before `get`, between two checks of its job, or in the
handling of an out-of-memory failure. -/
inductive WorkerPhase where
  | idle
  | dequeued (job : InferenceJob)
  | wanted (job : InferenceJob)
  | loaded (job : InferenceJob)
  | ready (job : InferenceJob)
  | forwarded (job : InferenceJob)
  | kept (job : InferenceJob)
  | oomCancel
  | oomClose
  | exited
  deriving DecidableEq, Repr

def WorkerPhase.checks : WorkerPhase → Bool
  | .dequeued _ | .loaded _ | .forwarded _ => true
  | _ => false

def WorkerPhase.loads : WorkerPhase → Bool
  | .wanted _ => true
  | _ => false

def WorkerPhase.infers : WorkerPhase → Bool
  | .ready _ => true
  | _ => false

def WorkerPhase.finishes : WorkerPhase → Bool
  | .kept _ => true
  | _ => false

inductive SweepPhase where
  | waiting
  | sweeping
  | failing (jobs : List InferenceJob)
  | exited
  deriving DecidableEq, Repr

def SweepPhase.fails : SweepPhase → Bool
  | .failing _ => true
  | _ => false

inductive StopPhase where
  | idle
  | stopping
  | canceling (jobs : List InferenceJob)
  | closing
  | joining
  | returned
  deriving DecidableEq, Repr

def StopPhase.cancels : StopPhase → Bool
  | .canceling _ => true
  | _ => false

inductive PoolEvent where
  | accepted (job : InferenceJob)
  | success (job : InferenceJob)
  | failure (job : InferenceJob) (failure : InferenceFailure)
  | canceled (job : InferenceJob) (stage : String)
  | scopeCanceled (productId : String) (stationId : Option ℕ) (removed : List InferenceJob)
  | productLocked (productId : String) (removed : List InferenceJob)
  deriving DecidableEq, Repr

/-- A pool of `n` workers, which up to `m` calls of `stop` can meet. -/
structure WorkerPool (n m : ℕ) where
  queue : InferenceQueue
  workers : Fin n → WorkerPhase := fun _ => .idle
  sweeper : SweepPhase := .waiting
  stops : Fin m → StopPhase := fun _ => .idle
  stopEvent : Bool := false
  trace : List PoolEvent := []
  worker_count_pos : 0 < n

namespace WorkerPool

variable {n m : ℕ}

def setWorker (s : WorkerPool n m) (w : Fin n) (phase : WorkerPhase) : WorkerPool n m :=
  { s with workers := Function.update s.workers w phase }

def setStop (s : WorkerPool n m) (k : Fin m) (phase : StopPhase) : WorkerPool n m :=
  { s with stops := Function.update s.stops k phase }

def record (s : WorkerPool n m) (e : PoolEvent) : WorkerPool n m :=
  { s with trace := s.trace ++ [e] }

@[simp] theorem record_queue (s : WorkerPool n m) (e : PoolEvent) :
    (s.record e).queue = s.queue := rfl

@[simp] theorem record_workers (s : WorkerPool n m) (e : PoolEvent) :
    (s.record e).workers = s.workers := rfl

@[simp] theorem record_sweeper (s : WorkerPool n m) (e : PoolEvent) :
    (s.record e).sweeper = s.sweeper := rfl

@[simp] theorem record_stops (s : WorkerPool n m) (e : PoolEvent) :
    (s.record e).stops = s.stops := rfl

/-! ### The queue's callers -/

def enqueue (s : WorkerPool n m) (job : InferenceJob) (nowNs : ℤ) : WorkerPool n m :=
  match s.queue.tryEnqueue job nowNs with
  | none => s
  | some (accepted, queue) => { s with queue }.record (.accepted accepted)

def cancelScope (s : WorkerPool n m) (productId : String) (stationId : Option ℕ) :
    WorkerPool n m :=
  let (removed, queue) := s.queue.cancelScope productId stationId
  { s with queue }.record (.scopeCanceled productId stationId removed)

def lockProduct (s : WorkerPool n m) (productId : String) : WorkerPool n m :=
  { s with queue := (s.queue.lockProduct productId).2 }.record
    (.productLocked productId (s.queue.lockedOut productId))

/-! ### Workers -/

def get (s : WorkerPool n m) (w : Fin n) : WorkerPool n m :=
  match s.workers w, s.queue.get with
  | .idle, some (.job job, queue) => { s with queue }.setWorker w (.dequeued job)
  | .idle, some (.nothing, _) => s.setWorker w .exited
  | _, _ => s

/-- The job is done: its callback is called and the worker goes back to `get`. -/
def finishWith (s : WorkerPool n m) (w : Fin n) (e : PoolEvent) : WorkerPool n m :=
  (s.record e).setWorker w .idle

def fail (s : WorkerPool n m) (w : Fin n) (job : InferenceJob) (failure : InferenceFailure) :
    WorkerPool n m :=
  -- the failure callback of the node goes on with the out-of-memory handling
  (s.record (.failure job failure)).setWorker w
    (if failure.kind = .cudaOom then .oomCancel else .idle)

def cancelUnless (s : WorkerPool n m) (w : Fin n) (job : InferenceJob) (stage : String)
    (phase : WorkerPhase) : WorkerPool n m :=
  if s.queue.jobCanceled job then s.finishWith w (.canceled job stage) else s.setWorker w phase

def checkCanceled (s : WorkerPool n m) (w : Fin n) : WorkerPool n m :=
  match s.workers w with
  | .dequeued job => s.cancelUnless w job "DEQUEUED_BEFORE_LOAD" (.wanted job)
  | .loaded job => s.cancelUnless w job "LOADED_BEFORE_FORWARD" (.ready job)
  | .forwarded job => s.cancelUnless w job "DISCARDED_AFTER_FORWARD" (.kept job)
  | _ => s

/-- The phases that work on a job: loading, the forward, and calling back. -/
def work (s : WorkerPool n m) (w : Fin n) (job : InferenceJob) (nowNs : ℤ)
    (failure? : Option InferenceFailure) (phase : WorkerPhase) : WorkerPool n m :=
  if job.expired nowNs then s.fail w job queueTimeout
  else
    match failure? with
    | some failure => s.fail w job failure
    | none => s.setWorker w phase

def load (s : WorkerPool n m) (w : Fin n) (nowNs : ℤ) (outcome : LoadOutcome) : WorkerPool n m :=
  match s.workers w with
  | .wanted job => s.work w job nowNs outcome.failure? (.loaded job)
  | _ => s

def infer (s : WorkerPool n m) (w : Fin n) (nowNs : ℤ) (outcome : InferOutcome) :
    WorkerPool n m :=
  match s.workers w with
  | .ready job => s.work w job nowNs outcome.failure? (.forwarded job)
  | _ => s

def finish (s : WorkerPool n m) (w : Fin n) (nowNs : ℤ) : WorkerPool n m :=
  match s.workers w with
  | .kept job =>
    if job.expired nowNs then s.fail w job queueTimeout else s.finishWith w (.success job)
  | _ => s

/-- The waiting jobs are taken out and forgotten. -/
def oomCancel (s : WorkerPool n m) (w : Fin n) : WorkerPool n m :=
  match s.workers w with
  | .oomCancel => { s with queue := s.queue.cancelAllWaiting.2 }.setWorker w .oomClose
  | _ => s

def oomClose (s : WorkerPool n m) (w : Fin n) : WorkerPool n m :=
  match s.workers w with
  | .oomClose => { s with queue := s.queue.close }.setWorker w .idle
  | _ => s

/-! ### Sweeper -/

def sweepWait (s : WorkerPool n m) : WorkerPool n m :=
  match s.sweeper with
  | .waiting => { s with sweeper := if s.stopEvent then .exited else .sweeping }
  | _ => s

def sweep (s : WorkerPool n m) (nowNs : ℤ) : WorkerPool n m :=
  match s.sweeper with
  | .sweeping =>
    let (expired, queue) := s.queue.discardExpired nowNs
    { s with queue, sweeper := .failing expired }
  | _ => s

def sweepFail (s : WorkerPool n m) : WorkerPool n m :=
  match s.sweeper with
  | .failing [] => { s with sweeper := .waiting }
  | .failing (job :: rest) =>
    { s with sweeper := .failing rest }.record (.failure job queueTimeout)
  | _ => s

/-! ### Shutdown -/

def stop (s : WorkerPool n m) (k : Fin m) : WorkerPool n m :=
  match s.stops k with
  | .idle | .returned => { s with stopEvent := true }.setStop k .stopping
  | _ => s

def stopCancel (s : WorkerPool n m) (k : Fin m) : WorkerPool n m :=
  match s.stops k with
  | .stopping =>
    let (removed, queue) := s.queue.cancelAllWaiting
    { s with queue }.setStop k (.canceling removed)
  | _ => s

def stopCanceled (s : WorkerPool n m) (k : Fin m) : WorkerPool n m :=
  match s.stops k with
  | .canceling [] => s.setStop k .closing
  | .canceling (job :: rest) =>
    (s.record (.canceled job "SHUTDOWN_QUEUE")).setStop k (.canceling rest)
  | _ => s

def stopClose (s : WorkerPool n m) (k : Fin m) : WorkerPool n m :=
  match s.stops k with
  | .closing => { s with queue := s.queue.close }.setStop k .joining
  | _ => s

def stopJoin (s : WorkerPool n m) (k : Fin m) : WorkerPool n m :=
  match s.stops k with
  | .joining => s.setStop k .returned
  | _ => s

inductive PoolStep (n m : ℕ) where
  | enqueue (job : InferenceJob) (nowNs : ℤ)
  | cancelScope (productId : String) (stationId : Option ℕ)
  | lockProduct (productId : String)
  | get (w : Fin n)
  | checkCanceled (w : Fin n)
  | load (w : Fin n) (nowNs : ℤ) (outcome : LoadOutcome)
  | infer (w : Fin n) (nowNs : ℤ) (outcome : InferOutcome)
  | finish (w : Fin n) (nowNs : ℤ)
  | oomCancel (w : Fin n)
  | oomClose (w : Fin n)
  | sweepWait
  | sweep (nowNs : ℤ)
  | sweepFail
  | stop (k : Fin m)
  | stopCancel (k : Fin m)
  | stopCanceled (k : Fin m)
  | stopClose (k : Fin m)
  | stopJoin (k : Fin m)
  deriving DecidableEq, Repr

def next (s : WorkerPool n m) : PoolStep n m → WorkerPool n m
  | .enqueue job nowNs => s.enqueue job nowNs
  | .cancelScope productId stationId => s.cancelScope productId stationId
  | .lockProduct productId => s.lockProduct productId
  | .get w => s.get w
  | .checkCanceled w => s.checkCanceled w
  | .load w nowNs outcome => s.load w nowNs outcome
  | .infer w nowNs outcome => s.infer w nowNs outcome
  | .finish w nowNs => s.finish w nowNs
  | .oomCancel w => s.oomCancel w
  | .oomClose w => s.oomClose w
  | .sweepWait => s.sweepWait
  | .sweep nowNs => s.sweep nowNs
  | .sweepFail => s.sweepFail
  | .stop k => s.stop k
  | .stopCancel k => s.stopCancel k
  | .stopCanceled k => s.stopCanceled k
  | .stopClose k => s.stopClose k
  | .stopJoin k => s.stopJoin k

/-- A step is possible when its thread stands at it, and is not blocked. -/
def Admits (s : WorkerPool n m) : PoolStep n m → Prop
  | .enqueue .. | .cancelScope .. | .lockProduct .. => True
  | .get w => s.workers w = .idle ∧ s.queue.get.isSome
  | .checkCanceled w => (s.workers w).checks = true
  | .load w .. => (s.workers w).loads = true
  | .infer w .. => (s.workers w).infers = true
  | .finish w _ => (s.workers w).finishes = true
  | .oomCancel w => s.workers w = .oomCancel
  | .oomClose w => s.workers w = .oomClose
  | .sweepWait => s.sweeper = .waiting
  | .sweep _ => s.sweeper = .sweeping
  | .sweepFail => s.sweeper.fails = true
  | .stop k => s.stops k = .idle ∨ s.stops k = .returned
  | .stopCancel k => s.stops k = .stopping
  | .stopCanceled k => (s.stops k).cancels = true
  | .stopClose k => s.stops k = .closing
  | .stopJoin k => s.stops k = .joining ∧ ∀ w, s.workers w = .exited

instance (s : WorkerPool n m) (e : PoolStep n m) : Decidable (Admits s e) := by
  cases e <;> dsimp only [Admits] <;> infer_instance

def start (n m capacity : ℕ) (hcapacity : 0 < capacity) (hworkers : 0 < n) : WorkerPool n m where
  queue := .new capacity hcapacity
  worker_count_pos := hworkers

end WorkerPool

end InspectionLine
