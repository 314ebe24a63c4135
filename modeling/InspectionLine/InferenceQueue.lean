import Mathlib.Data.Finset.Insert
import Mathlib.Data.List.Nodup
import Mathlib.Data.Prod.Lex

/-! # The bounded inference queue of the Vision node

A queue carries what its critical sections keep: the capacity, the order of the waiting
jobs, and that none of them is canceled. -/
namespace InspectionLine

structure InferenceJob where
  inferenceJobId : String
  productId : String
  fifoSequence : ℕ
  stationId : ℕ
  captureId : String := ""
  frameBatchId : String := ""
  imagePaths : List String := []
  enqueuedMonotonicNs : ℤ := 0
  queueTotalTimeoutMs : Option ℤ := none
  cameraIds : List String := []
  captureCompletedMonotonicNs : ℤ := 0
  deriving DecidableEq, Repr

namespace InferenceJob

def expired (job : InferenceJob) (nowNs : ℤ) : Bool :=
  match job.queueTotalTimeoutMs with
  | none => false
  | some timeoutMs => timeoutMs * 1000000 < nowNs - job.enqueuedMonotonicNs

/-- The official key first, then the moment of the enqueue, then the station. -/
def order (job : InferenceJob) : ℕ ×ₗ ℤ ×ₗ ℕ :=
  toLex (job.fifoSequence, toLex (job.enqueuedMonotonicNs, job.stationId))

def inScope (job : InferenceJob) (productId : String) (stationId : Option ℕ) : Bool :=
  job.productId = productId && (stationId = none || stationId = some job.stationId)

/-- The job as the queue keeps it, with the moment of the enqueue filled in. -/
def stamped (job : InferenceJob) (nowNs : ℤ) : InferenceJob :=
  if job.enqueuedMonotonicNs ≤ 0 then { job with enqueuedMonotonicNs := nowNs } else job

@[simp] theorem stamped_product_id (job : InferenceJob) (nowNs : ℤ) :
    (job.stamped nowNs).productId = job.productId := by
  unfold stamped
  split <;> rfl

@[simp] theorem stamped_station_id (job : InferenceJob) (nowNs : ℤ) :
    (job.stamped nowNs).stationId = job.stationId := by
  unfold stamped
  split <;> rfl

@[simp] theorem stamped_inference_job_id (job : InferenceJob) (nowNs : ℤ) :
    (job.stamped nowNs).inferenceJobId = job.inferenceJobId := by
  unfold stamped
  split <;> rfl

@[simp] theorem stamped_capture_id (job : InferenceJob) (nowNs : ℤ) :
    (job.stamped nowNs).captureId = job.captureId := by
  unfold stamped
  split <;> rfl

@[simp] theorem stamped_frame_batch_id (job : InferenceJob) (nowNs : ℤ) :
    (job.stamped nowNs).frameBatchId = job.frameBatchId := by
  unfold stamped
  split <;> rfl

/-- In front of the first waiting job with a greater order. -/
def insertByOrder (job : InferenceJob) : List InferenceJob → List InferenceJob
  | [] => [job]
  | queued :: rest =>
    if job.order < queued.order then job :: queued :: rest
    else queued :: insertByOrder job rest

theorem insert_by_order_perm (job : InferenceJob) (items : List InferenceJob) :
    (insertByOrder job items).Perm (job :: items) := by
  induction items with
  | nil => exact .refl _
  | cons queued rest ih =>
    unfold insertByOrder
    split
    · exact .refl _
    · exact (ih.cons queued).trans (.swap job queued rest)

theorem insert_by_order_sorted (job : InferenceJob) {items : List InferenceJob}
    (h : items.Pairwise fun a b => a.order ≤ b.order) :
    (insertByOrder job items).Pairwise fun a b => a.order ≤ b.order := by
  induction items with
  | nil => exact List.pairwise_singleton _ _
  | cons queued rest ih =>
    obtain ⟨hfirst, hrest⟩ := List.pairwise_cons.mp h
    unfold insertByOrder
    split
    · rename_i hlt
      refine List.pairwise_cons.mpr ⟨?_, h⟩
      intro other hother
      rcases List.mem_cons.mp hother with rfl | hother
      · exact hlt.le
      · exact hlt.le.trans (hfirst other hother)
    · rename_i hle
      refine List.pairwise_cons.mpr ⟨?_, ih hrest⟩
      intro other hother
      rcases List.mem_cons.mp ((insert_by_order_perm job rest).mem_iff.mp hother) with rfl | hother
      · exact not_lt.mp hle
      · exact hfirst other hother

end InferenceJob

structure Cancellations where
  lockedProducts : Finset String := ∅
  canceledScopes : Finset (String × Option ℕ) := ∅

def Cancellations.covers (c : Cancellations) (job : InferenceJob) : Bool :=
  job.productId ∈ c.lockedProducts || (job.productId, none) ∈ c.canceledScopes ||
    (job.productId, some job.stationId) ∈ c.canceledScopes

def Cancellations.withScope (c : Cancellations) (productId : String) (stationId : Option ℕ) :
    Cancellations :=
  { c with canceledScopes := insert (productId, stationId) c.canceledScopes }

def Cancellations.withLock (c : Cancellations) (productId : String) : Cancellations where
  lockedProducts := insert productId c.lockedProducts
  canceledScopes := insert (productId, none) c.canceledScopes

theorem covers_with_scope (c : Cancellations) (productId : String) (stationId : Option ℕ)
    (job : InferenceJob) :
    (c.withScope productId stationId).covers job =
      (c.covers job || job.inScope productId stationId) := by
  cases stationId <;>
    grind [Cancellations.covers, Cancellations.withScope, InferenceJob.inScope]

theorem covers_with_lock (c : Cancellations) (productId : String) (job : InferenceJob) :
    (c.withLock productId).covers job = (c.covers job || job.inScope productId none) := by
  grind [Cancellations.covers, Cancellations.withLock, InferenceJob.inScope]

structure InferenceQueue where
  capacity : ℕ
  items : List InferenceJob := []
  canceled : Cancellations := {}
  closed : Bool := false
  capacity_pos : 0 < capacity
  bounded : items.length ≤ capacity
  sorted : items.Pairwise fun a b => a.order ≤ b.order
  wanted : ∀ job ∈ items, canceled.covers job = false

namespace InferenceQueue

def new (capacity : ℕ) (h : 0 < capacity) : InferenceQueue where
  capacity := capacity
  capacity_pos := h
  bounded := Nat.zero_le _
  sorted := .nil
  wanted := by simp

def jobCanceled (q : InferenceQueue) (job : InferenceJob) : Bool := q.canceled.covers job

def retain (q : InferenceQueue) (keep : InferenceJob → Bool) : InferenceQueue :=
  { q with
    items := q.items.filter keep
    bounded := (List.length_filter_le ..).trans q.bounded
    sorted := q.sorted.filter keep
    wanted := fun job hjob => q.wanted job (List.mem_of_mem_filter hjob) }

def without (q : InferenceQueue) (jobs : List InferenceJob) : InferenceQueue :=
  q.retain fun job => job.inferenceJobId ∉ jobs.map (·.inferenceJobId)

/-- The accepted job as it waits, and the queue with it. -/
def tryEnqueue (q : InferenceQueue) (job : InferenceJob) (nowNs : ℤ) :
    Option (InferenceJob × InferenceQueue) :=
  if hrefused : q.closed = true ∨ q.jobCanceled job = true ∨ q.capacity ≤ q.items.length then none
  else some (job.stamped nowNs, { q with
    items := (job.stamped nowNs).insertByOrder q.items
    bounded := by
      rw [(InferenceJob.insert_by_order_perm ..).length_eq]
      have hroom := (not_or.mp (not_or.mp hrefused).2).2
      simp only [List.length_cons]
      omega
    sorted := InferenceJob.insert_by_order_sorted _ q.sorted
    wanted := by
      intro other hother
      have hfree := (not_or.mp (not_or.mp hrefused).2).1
      rcases List.mem_cons.mp ((InferenceJob.insert_by_order_perm ..).mem_iff.mp hother) with
        rfl | hother
      · simpa [jobCanceled, Cancellations.covers] using hfree
      · exact q.wanted other hother })

theorem accepted_eq_stamped {q queue : InferenceQueue} {job accepted : InferenceJob} {nowNs : ℤ}
    (h : q.tryEnqueue job nowNs = some (accepted, queue)) : accepted = job.stamped nowNs := by
  unfold tryEnqueue at h
  split at h
  · cases h
  · cases h
    rfl

def discardExpired (q : InferenceQueue) (nowNs : ℤ) : List InferenceJob × InferenceQueue :=
  let expired := q.items.filter (·.expired nowNs)
  (expired, q.without expired)

inductive Got where
  | job (job : InferenceJob)
  | nothing
  deriving DecidableEq, Repr

/-- Waits (`none`) while the queue is open and empty; a closed queue gives nothing, whatever
it still holds. -/
def get (q : InferenceQueue) : Option (Got × InferenceQueue) :=
  if q.closed then some (.nothing, q)
  else
    match h : q.items with
    | [] => none
    | job :: rest => some (.job job, { q with
        items := rest
        bounded := by
          have hbounded := q.bounded
          rw [h] at hbounded
          exact (Nat.le_succ _).trans hbounded
        sorted := by
          have hsorted := q.sorted
          rw [h] at hsorted
          exact hsorted.of_cons
        wanted := fun other hother => q.wanted other (h ▸ List.mem_cons_of_mem job hother) })

/-- Cancels a scope for good: the waiting jobs in it are taken out and handed back. -/
def cancelScope (q : InferenceQueue) (productId : String) (stationId : Option ℕ) :
    List InferenceJob × InferenceQueue :=
  let removed := q.items.filter (·.inScope productId stationId)
  (removed, { q.without removed with
    canceled := q.canceled.withScope productId stationId
    wanted := by
      intro job hjob
      obtain ⟨hmem, hkeep⟩ := List.mem_filter.mp hjob
      rw [covers_with_scope, q.wanted job hmem, Bool.false_or]
      by_contra hscope
      have hremoved : job ∈ removed := List.mem_filter.mpr ⟨hmem, by simpa using hscope⟩
      simp only [decide_not, Bool.not_eq_eq_eq_not, Bool.not_true, decide_eq_false_iff_not] at hkeep
      exact hkeep (List.mem_map_of_mem hremoved) })

def cancelAllWaiting (q : InferenceQueue) : List InferenceJob × InferenceQueue :=
  (q.items, q.retain fun _ => false)

/-- The waiting jobs that locking a product drops; the caller only learns how many. -/
def lockedOut (q : InferenceQueue) (productId : String) : List InferenceJob :=
  q.items.filter (·.productId = productId)

def lockProduct (q : InferenceQueue) (productId : String) : ℕ × InferenceQueue :=
  let kept := q.retain (·.productId ≠ productId)
  (q.items.length - kept.items.length, { kept with
    canceled := q.canceled.withLock productId
    wanted := by
      intro job hjob
      obtain ⟨hmem, hkeep⟩ := List.mem_filter.mp hjob
      rw [covers_with_lock, q.wanted job hmem, Bool.false_or]
      simpa [InferenceJob.inScope] using hkeep })

def close (q : InferenceQueue) : InferenceQueue := { q with closed := true }

theorem lock_product_count (q : InferenceQueue) (productId : String) :
    (q.lockProduct productId).1 = (q.lockedOut productId).length := by
  have hsplit := List.length_eq_length_filter_add (l := q.items) (·.productId = productId)
  simp only [lockProduct, retain, lockedOut, ne_eq, decide_not]
  omega

/-- To accept a job and to hand one out change neither the cancellations nor the capacity. -/
theorem try_enqueue_frame {q queue : InferenceQueue} {job accepted : InferenceJob} {nowNs : ℤ}
    (h : q.tryEnqueue job nowNs = some (accepted, queue)) :
    queue.canceled = q.canceled ∧ queue.capacity = q.capacity := by
  unfold tryEnqueue at h
  split at h
  · cases h
  · cases h
    exact ⟨rfl, rfl⟩

theorem get_frame {q queue : InferenceQueue} {got : Got} (h : q.get = some (got, queue)) :
    queue.canceled = q.canceled ∧ queue.capacity = q.capacity := by
  unfold get at h
  split at h
  · cases h
    exact ⟨rfl, rfl⟩
  · split at h
    · cases h
    · cases h
      exact ⟨rfl, rfl⟩

end InferenceQueue

end InspectionLine
