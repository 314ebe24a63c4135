import InspectionLine.JobAccounting

/-! # The inference queue over whole runs

The queue is followed next to the jobs it has accepted, handed out, reported as removed and
dropped, and next to the scopes that were canceled. -/
namespace InspectionLine

open InputRuns
open WorkerPool (without_filter try_enqueue_spec get_spec queuedJob)

inductive QueueCall where
  | tryEnqueue (job : InferenceJob) (nowNs : ℤ)
  | get
  | discardExpired (nowNs : ℤ)
  | cancelScope (productId : String) (stationId : Option ℕ)
  | cancelAllWaiting
  | lockProduct (productId : String)
  | close

structure QueueHistory where
  queue : InferenceQueue
  accepted : List InferenceJob := []
  handedOut : List InferenceJob := []
  removed : List InferenceJob := []
  dropped : List InferenceJob := []
  scopes : List (String × Option ℕ) := []

namespace QueueHistory

/-- A call of `get` that would wait changes nothing. -/
def next (h : QueueHistory) : QueueCall → QueueHistory
  | .tryEnqueue job nowNs =>
    match h.queue.tryEnqueue job nowNs with
    | none => h
    | some (accepted, queue) => { h with queue, accepted := h.accepted ++ [accepted] }
  | .get =>
    match h.queue.get with
    | some (.job job, queue) => { h with queue, handedOut := h.handedOut ++ [job] }
    | some (.nothing, _) | none => h
  | .discardExpired nowNs =>
    let (expired, queue) := h.queue.discardExpired nowNs
    { h with queue, removed := h.removed ++ expired }
  | .cancelScope productId stationId =>
    let (canceled, queue) := h.queue.cancelScope productId stationId
    { h with
      queue
      removed := h.removed ++ canceled
      scopes := (productId, stationId) :: h.scopes }
  | .cancelAllWaiting =>
    let (canceled, queue) := h.queue.cancelAllWaiting
    { h with queue, removed := h.removed ++ canceled }
  | .lockProduct productId => { h with
      queue := (h.queue.lockProduct productId).2
      dropped := h.dropped ++ h.queue.lockedOut productId
      scopes := (productId, none) :: h.scopes }
  | .close => { h with queue := h.queue.close }

/-- No accepted job has the id of the one that is enqueued. -/
def Admits (h : QueueHistory) : QueueCall → Prop
  | .tryEnqueue job _ => job.inferenceJobId ∉ h.accepted.map (·.inferenceJobId)
  | _ => True

instance (h : QueueHistory) (call : QueueCall) : Decidable (Admits h call) := by
  cases call <;> dsimp only [Admits] <;> infer_instance

def located (h : QueueHistory) : List InferenceJob :=
  h.handedOut ++ h.removed ++ h.dropped ++ h.queue.items

/-- Nothing is lost or doubled, and what was canceled stays canceled. -/
structure Balanced (h : QueueHistory) : Prop where
  located : h.located.Perm h.accepted
  unique : (h.accepted.map (·.inferenceJobId)).Nodup
  canceled : ∀ scope ∈ h.scopes, ∀ job : InferenceJob,
    job.inScope scope.1 scope.2 = true → h.queue.jobCanceled job = true

variable {h : QueueHistory}

theorem unique_waiting (hb : Balanced h) : (h.queue.items.map (·.inferenceJobId)).Nodup := by
  have hall : (h.located.map (·.inferenceJobId)).Nodup :=
    (hb.located.map _).nodup_iff.mpr hb.unique
  rw [QueueHistory.located, List.map_append] at hall
  exact hall.of_append_right

theorem moved_perm {items kept : List InferenceJob} (p : InferenceJob → Bool)
    (hkept : kept = items.filter fun job => !p job) :
    (items.filter p ++ kept).Perm items := by
  rw [hkept]
  exact List.filter_append_perm p items

theorem located_removed {queue : InferenceQueue} {removed : List InferenceJob}
    {scopes : List (String × Option ℕ)} (hmoved : (removed ++ queue.items).Perm h.queue.items) :
    ({ h with queue, removed := h.removed ++ removed, scopes } : QueueHistory).located.Perm
      h.located := by
  refine Multiset.coe_eq_coe.mp ?_
  have hitems := Multiset.coe_eq_coe.mpr hmoved
  simp only [located, ← Multiset.coe_add] at hitems ⊢
  rw [← hitems]
  abel

theorem located_dropped {queue : InferenceQueue} {dropped : List InferenceJob}
    {scopes : List (String × Option ℕ)} (hmoved : (dropped ++ queue.items).Perm h.queue.items) :
    ({ h with queue, dropped := h.dropped ++ dropped, scopes } : QueueHistory).located.Perm
      h.located := by
  refine Multiset.coe_eq_coe.mp ?_
  have hitems := Multiset.coe_eq_coe.mpr hmoved
  simp only [located, ← Multiset.coe_add] at hitems ⊢
  rw [← hitems]
  abel

theorem canceled_items (hb : Balanced h) (p : String) (s : Option ℕ) :
    (h.queue.cancelScope p s).2.items = h.queue.items.filter fun job => !job.inScope p s :=
  without_filter (unique_waiting hb) _

theorem unexpired_items (hb : Balanced h) (nowNs : ℤ) :
    (h.queue.discardExpired nowNs).2.items = h.queue.items.filter fun job => !job.expired nowNs :=
  without_filter (unique_waiting hb) _

theorem unlocked_items (q : InferenceQueue) (p : String) :
    (q.lockProduct p).2.items = q.items.filter fun job => !(decide (job.productId = p)) := by
  refine List.filter_congr fun job _ => ?_
  simp

theorem balanced_try_enqueue (hb : Balanced h) {job : InferenceJob} {nowNs : ℤ}
    (hfresh : job.inferenceJobId ∉ h.accepted.map (·.inferenceJobId)) :
    Balanced (h.next (.tryEnqueue job nowNs)) := by
  simp only [next]
  split
  · exact hb
  · rename_i accepted queue heq
    obtain ⟨hstamped, _, _, hitems⟩ := try_enqueue_spec heq
    constructor
    case located =>
      have hlocated := Multiset.coe_eq_coe.mpr hb.located
      refine Multiset.coe_eq_coe.mp ?_
      simp only [located, ← Multiset.coe_add, hitems] at hlocated ⊢
      rw [← hlocated, Multiset.coe_singleton]
      abel
    case unique =>
      rw [List.map_append, List.nodup_append]
      refine ⟨hb.unique, List.nodup_singleton _, ?_⟩
      intro a ha b hnew
      rw [List.map_singleton, List.mem_singleton] at hnew
      rw [hnew, hstamped, InferenceJob.stamped_inference_job_id]
      rintro rfl
      exact hfresh ha
    case canceled =>
      intro scope hscope other hin
      have hold := hb.canceled scope hscope other hin
      rwa [InferenceQueue.jobCanceled, ← (InferenceQueue.try_enqueue_frame heq).1] at hold

theorem balanced_get (hb : Balanced h) : Balanced (h.next .get) := by
  simp only [next]
  split
  · rename_i job queue heq
    obtain ⟨_, _, hitems⟩ := get_spec heq
    constructor
    case located =>
      refine List.Perm.trans (Multiset.coe_eq_coe.mp ?_) hb.located
      simp only [located, hitems, ← Multiset.coe_add, ← Multiset.cons_coe,
        ← Multiset.singleton_add, Multiset.coe_nil, add_zero]
      abel
    case unique => exact hb.unique
    case canceled =>
      intro scope hscope other hin
      have hold := hb.canceled scope hscope other hin
      rwa [InferenceQueue.jobCanceled, ← (InferenceQueue.get_frame heq).1] at hold
  · exact hb
  · exact hb

theorem balanced_next {call : QueueCall} (hb : Balanced h) (hadmits : Admits h call) :
    Balanced (h.next call) := by
  cases call with
  | tryEnqueue job nowNs => exact balanced_try_enqueue hb hadmits
  | get => exact balanced_get hb
  | discardExpired nowNs =>
    refine ⟨?_, hb.unique, hb.canceled⟩
    exact (located_removed (moved_perm _ (unexpired_items hb nowNs))).trans hb.located
  | cancelScope p s =>
    refine ⟨?_, hb.unique, ?_⟩
    · exact (located_removed (moved_perm _ (canceled_items hb p s))).trans hb.located
    · intro scope hscope job hin
      change (h.queue.canceled.withScope p s).covers job = true
      rw [covers_with_scope, Bool.or_eq_true]
      rcases List.mem_cons.mp hscope with rfl | hold
      · exact .inr hin
      · exact .inl (hb.canceled scope hold job hin)
  | cancelAllWaiting =>
    refine ⟨?_, hb.unique, hb.canceled⟩
    have hmoved : (h.queue.items ++ h.queue.cancelAllWaiting.2.items).Perm h.queue.items := by
      simp [InferenceQueue.cancelAllWaiting, InferenceQueue.retain]
    exact (located_removed hmoved).trans hb.located
  | lockProduct p =>
    refine ⟨?_, hb.unique, ?_⟩
    · exact (located_dropped (moved_perm _ (unlocked_items h.queue p))).trans hb.located
    · intro scope hscope job hin
      change (h.queue.canceled.withLock p).covers job = true
      rw [covers_with_lock, Bool.or_eq_true]
      rcases List.mem_cons.mp hscope with rfl | hold
      · exact .inr hin
      · exact .inl (hb.canceled scope hold job hin)
  | close => exact ⟨hb.located, hb.unique, hb.canceled⟩

/-- What a user of the queue relies on: the order and the bound, that nothing canceled waits,
what each removal takes and leaves, and that every accepted job is in one place. -/
structure WellKept (h : QueueHistory) : Prop where
  sorted : h.queue.items.Pairwise fun a b => a.order ≤ b.order
  bounded : h.queue.items.length ≤ h.queue.capacity
  wanted : ∀ job ∈ h.queue.items, ∀ scope ∈ h.scopes, job.inScope scope.1 scope.2 = false
  first : ∀ job queue, h.queue.get = some (.job job, queue) →
    h.queue.items = job :: queue.items ∧ ∀ other ∈ h.queue.items, job.order ≤ other.order
  canceled : ∀ p s, (h.queue.cancelScope p s).1 = h.queue.items.filter (·.inScope p s) ∧
    (h.queue.cancelScope p s).2.items = h.queue.items.filter fun job => !job.inScope p s
  expired : ∀ nowNs,
    (h.queue.discardExpired nowNs).1 = h.queue.items.filter (·.expired nowNs) ∧
    (h.queue.discardExpired nowNs).2.items = h.queue.items.filter fun job => !job.expired nowNs
  locked : ∀ p,
    (h.queue.lockProduct p).1 = (h.queue.items.filter fun job => job.productId = p).length ∧
    (h.queue.lockProduct p).2.items = h.queue.items.filter fun job => job.productId ≠ p
  located : h.located.Perm h.accepted
  unique : (h.located.map (·.inferenceJobId)).Nodup

theorem get_first {q queue : InferenceQueue} {job : InferenceJob}
    (hget : q.get = some (.job job, queue)) :
    q.items = job :: queue.items ∧ ∀ other ∈ q.items, job.order ≤ other.order := by
  obtain ⟨_, _, hitems⟩ := get_spec hget
  refine ⟨hitems, fun other hother => ?_⟩
  have hsorted := q.sorted
  rw [hitems] at hsorted hother
  rcases List.mem_cons.mp hother with rfl | hrest
  · exact le_refl _
  · exact (List.pairwise_cons.mp hsorted).1 other hrest

theorem Balanced.well_kept (hb : Balanced h) : WellKept h where
  sorted := h.queue.sorted
  bounded := h.queue.bounded
  wanted job hjob scope hscope := by
    by_contra hin
    have hcovered := hb.canceled scope hscope job (by simpa using hin)
    rw [InferenceQueue.jobCanceled, h.queue.wanted job hjob] at hcovered
    cases hcovered
  first _ _ hget := get_first hget
  canceled p s := ⟨rfl, canceled_items hb p s⟩
  expired nowNs := ⟨rfl, unexpired_items hb nowNs⟩
  locked p := ⟨h.queue.lock_product_count p, rfl⟩
  located := hb.located
  unique := (hb.located.map _).nodup_iff.mpr hb.unique

theorem capacity_next (call : QueueCall) : (h.next call).queue.capacity = h.queue.capacity := by
  cases call with
  | tryEnqueue job nowNs =>
    simp only [next]
    split
    · rfl
    · rename_i heq
      exact (InferenceQueue.try_enqueue_frame heq).2
  | get =>
    simp only [next]
    split
    · rename_i heq
      exact (InferenceQueue.get_frame heq).2
    · rfl
    · rfl
  | _ => rfl

/-- Insertions into the middle, the four removals and both kinds of cancellation together
leave a queue well kept, whatever their order. -/
theorem queue_well_kept {capacity : ℕ} {hcapacity : 0 < capacity} {h : QueueHistory}
    (hrun : Execution next Admits ⟨InferenceQueue.new capacity hcapacity, [], [], [], [], []⟩ h) :
    h.queue.capacity = capacity ∧ WellKept h := by
  have hcap : h.queue.capacity = capacity :=
    hrun.invariant (P := fun h => h.queue.capacity = capacity)
      (fun _ e hold _ => (capacity_next e).trans hold) rfl
  have hstart : Balanced ⟨InferenceQueue.new capacity hcapacity, [], [], [], [], []⟩ := by
    refine ⟨?_, List.nodup_nil, ?_⟩
    · simp [located, InferenceQueue.new]
    · intro scope hscope
      cases hscope
  exact ⟨hcap,
    (hrun.invariant (P := Balanced) (fun _ _ hb he => balanced_next hb he) hstart).well_kept⟩

/-- A job that comes late but belongs in front, one that expires, one whose scope is canceled
and one of a locked product. -/
def mixedCalls : List QueueCall := [
  .tryEnqueue { queuedJob with fifoSequence := 2 } 1,
  .tryEnqueue { queuedJob with inferenceJobId := "job-2" } 2,
  .get,
  .tryEnqueue
    { queuedJob with inferenceJobId := "job-3", stationId := 2, queueTotalTimeoutMs := some 1 } 3,
  .discardExpired 2000000,
  .cancelScope "product-1" (some 1),
  .tryEnqueue
    { queuedJob with inferenceJobId := "job-4", productId := "product-2", fifoSequence := 2 } 4,
  .lockProduct "product-2",
  .close]

theorem mixed_calls_well_kept :
    let h := runTrace next ⟨InferenceQueue.new 4 (Nat.succ_pos _), [], [], [], [], []⟩ mixedCalls
    h.queue.capacity = 4 ∧ WellKept h :=
  queue_well_kept (valid_trace_execution (by decide +kernel))

end QueueHistory

end InspectionLine
