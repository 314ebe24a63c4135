import InspectionLine.BlockedCaptures
import InspectionLine.ImageArtifacts
import InspectionLine.WholeRuntime
import InspectionLine.JobAccounting

/-! # Saved images are registered for deletion

The goals, the workers and the cancellations of one session, with the durable events that they
emit. Only Log deletes the files of a batch, and it knows of those that an event has registered. -/
namespace InspectionLine

open InputRuns CaptureServer

structure ImageWorld (n m : ℕ) where
  server : CaptureServer
  pools : ℕ → WorkerPool n m
  current : ℕ := 0
  producer : LogProducer
  published : List LogEventMessage := []

/-- The threads of an earlier pool go on. A cancellation reaches the scopes of the node in a
`capture` step, and the queue after it. -/
inductive ImageStep (F : Type) (n m : ℕ) where
  | capture (e : CaptureStep) (context : CallbackContext F)
  | cancelInference (message : InferenceCancellationMessage) (active : Bool)
      (context : CallbackContext F)
  | lockProduct (productId : String) (fifoSequence : ℕ) (active : Bool)
      (context : CallbackContext F)
  | work (i : ℕ) (e : WorkerPool.PoolStep n m) (result : StationInferenceResult F)
      (context : CallbackContext F)
  | acknowledge (ack : LogPersistedAck)
  | initializeNodeResources (capacity : ℕ)

section
variable {F : Type} [Runtime F]

/-- What a callback of the pool emits; the cancel calls of the queue have no callback. -/
def PoolEvent.emission (result : StationInferenceResult F) (context : CallbackContext F) :
    PoolEvent → Option (LogEmission F)
  | .success job =>
    if result.meets job then some (job.resultEmission result context)
    else some (job.failureEmission invalidOutput context)
  | .failure job cause => some (job.failureEmission cause context)
  | .canceled job stage => some (job.canceledEmission stage context)
  | .accepted _ | .scopeCanceled .. | .productLocked .. => none

theorem success_emits (p : LogProducer) (job : InferenceJob) (result : StationInferenceResult F)
    (context : CallbackContext F) : ∃ e,
      PoolEvent.emission result context (.success job) = some e ∧
        (p.onInferenceSuccess job result context).2 = p.emitDurableEvent e := by
  by_cases hmeets : result.meets job = true
  · refine ⟨job.resultEmission result context, if_pos hmeets, ?_⟩
    rw [LogProducer.onInferenceSuccess, if_pos hmeets]
    rfl
  · refine ⟨job.failureEmission invalidOutput context, if_neg hmeets, ?_⟩
    rw [LogProducer.onInferenceSuccess, if_neg hmeets]
    rfl

theorem failure_emits (p : LogProducer) (job : InferenceJob) (failure : InferenceFailure)
    (result : StationInferenceResult F) (context : CallbackContext F) : ∃ e,
      PoolEvent.emission result context (.failure job failure) = some e ∧
        (p.onInferenceFailure job failure context).2 = p.emitDurableEvent e :=
  ⟨_, rfl, rfl⟩

end

namespace LogProducer

variable {F : Type} [Runtime F]

def Stores (p : LogProducer) (e : LogEmission F) : Prop :=
  p.sessionId ≠ "" ∧ (p.emitDurableEvent e).1.stored = true

instance (p : LogProducer) (e : LogEmission F) : Decidable (p.Stores e) :=
  inferInstanceAs (Decidable (_ ∧ _))

def StoresAll (p : LogProducer) : List (LogEmission F) → Prop
  | [] => True
  | e :: es => p.Stores e ∧ (p.emitDurableEvent e).2.StoresAll es

end LogProducer

/-- The steps of the threads of a pool, and not the calls of its queue. -/
def WorkerPool.PoolStep.inner {n m : ℕ} : WorkerPool.PoolStep n m → Bool
  | .enqueue .. | .cancelScope .. | .lockProduct _ => false
  | _ => true

namespace ImageWorld

variable {n m : ℕ} {F : Type}

section
variable [Runtime F]

def pool (w : ImageWorld n m) : WorkerPool n m := w.pools w.current

def setPool (w : ImageWorld n m) (i : ℕ) (pool : WorkerPool n m) : ImageWorld n m :=
  { w with pools := Function.update w.pools i pool }

def emit (w : ImageWorld n m) (e : LogEmission F) : ImageWorld n m :=
  let (emitted, producer) := w.producer.emitDurableEvent e
  { w with producer, published := w.published ++ emitted.published.toList }

def emitAll (w : ImageWorld n m) (es : List (LogEmission F)) : ImageWorld n m := es.foldl emit w

/-- A step of a goal. The pool records what its queue has taken. -/
def capture (w : ImageWorld n m) (e : CaptureStep) (context : CallbackContext F) :
    ImageWorld n m :=
  let after := CaptureWorld.next ⟨w.server, w.pool.queue⟩ e
  let taken := after.server.jobs.drop w.server.jobs.length
  let discarded := after.server.discarded.drop w.server.discarded.length
  let pool := { w.pool with
    queue := after.queue, trace := w.pool.trace ++ taken.map PoolEvent.accepted }
  ({ w with server := after.server }.setPool w.current pool).emitAll
    (discarded.map fun entry : DiscardedCapture => entry.emission context)

def cancelInference (w : ImageWorld n m) (message : InferenceCancellationMessage) (active : Bool)
    (context : CallbackContext F) : ImageWorld n m :=
  if message.productId = "" then w
  else
    let removed := (w.pool.queue.cancelScope message.productId message.scope).1
    (w.setPool w.current (w.pool.cancelScope message.productId message.scope)).emit
      (message.emission removed active context)

def lockProduct (w : ImageWorld n m) (productId : String) (fifoSequence : ℕ) (active : Bool)
    (context : CallbackContext F) : ImageWorld n m :=
  let removed := (w.pool.queue.lockProduct productId).1
  (w.setPool w.current (w.pool.lockProduct productId)).emit
    (lockedCancellationEmission productId fifoSequence removed active context)

/-- The events that a step of a pool calls back for. -/
def callbacks (w : ImageWorld n m) (i : ℕ) (e : WorkerPool.PoolStep n m)
    (result : StationInferenceResult F) (context : CallbackContext F) : List (LogEmission F) :=
  (((w.pools i).next e).trace.drop (w.pools i).trace.length).filterMap (·.emission result context)

def work (w : ImageWorld n m) (i : ℕ) (e : WorkerPool.PoolStep n m)
    (result : StationInferenceResult F) (context : CallbackContext F) : ImageWorld n m :=
  (w.setPool i ((w.pools i).next e)).emitAll (w.callbacks i e result context)

/-- A new queue with a pool of its own. -/
def initializeNodeResources (w : ImageWorld n m) (capacity : ℕ) : ImageWorld n m :=
  { w.setPool (w.current + 1) (.start n m (max capacity 1) (lt_max_of_lt_right Nat.one_pos)
      w.pool.worker_count_pos) with current := w.current + 1 }

def next (w : ImageWorld n m) : ImageStep F n m → ImageWorld n m
  | .capture e context => w.capture e context
  | .cancelInference message active context => w.cancelInference message active context
  | .lockProduct productId fifoSequence active context =>
    w.lockProduct productId fifoSequence active context
  | .work i e result context => w.work i e result context
  | .acknowledge ack => { w with producer := w.producer.handleLogPersistedAck ack }
  | .initializeNodeResources capacity => w.initializeNodeResources capacity

/-- A session begins with an empty queue, and with what is left in the spool of earlier ones. -/
def initial (node : Worker) (settings : CaptureSettings) (producer : LogProducer)
    (capacity : ℕ) (hworkers : 0 < n) : ImageWorld n m where
  server := { node, settings }
  pools _ := .start n m (max capacity 1) (lt_max_of_lt_right Nat.one_pos) hworkers
  producer := producer

def Unused (w : ImageWorld n m) (inferenceJobId : String) : Prop :=
  (∀ i ≤ w.current, inferenceJobId ∉ (w.pools i).acceptedJobs.map (·.inferenceJobId)) ∧
    ∀ entry ∈ w.server.running.entries, entry.2.phase.blocked?.all
      (fun waiting => waiting.2.inferenceJobId ≠ inferenceJobId) = true

/-- A new job gets a new id, and a thread goes on where it stands. -/
def Admits (w : ImageWorld n m) : ImageStep F n m → Prop
  | .capture (.queue _) _ => False
  | .capture (.expose _ _ inferenceJobId _) _ => w.Unused inferenceJobId
  | .capture e _ => CaptureWorld.Admits ⟨w.server, w.pool.queue⟩ e
  | .work i e _ _ => i ≤ w.current ∧ e.inner = true ∧ (w.pools i).Admits e
  | _ => True

/-! ### What has become of a batch -/

/-- An event has been stored that registers the files. -/
def Registered (F : Type) [Runtime F] (w : ImageWorld n m) (paths : List String) : Prop :=
  ∃ message ∈ w.published, message.toEvent.Registers F paths

/-- The batch waits for room in the queue, or its job is on its way in a pool. -/
def OnItsWay (w : ImageWorld n m) (batch : CaptureBatch) : Prop :=
  (∃ goalId job, w.server.blockedAt goalId = some (batch, job)) ∨
    ∃ i, ∃ job ∈ (w.pools i).waiting + (w.pools i).inFlight, job.imagePaths = batch.filePaths

/-- Every batch that was validated is on its way, or Log will delete its files. -/
def ImagesAccounted (F : Type) [Runtime F] (w : ImageWorld n m) : Prop :=
  ∀ batch ∈ w.server.validated, w.OnItsWay batch ∨ w.Registered F batch.filePaths

/-! ### When no exit forgets the images -/

/-- The batch can be discarded in the open. -/
def Excused (w : ImageWorld n m) (context : CallbackContext F) (goal : CaptureGoal)
    (batch : CaptureBatch) : Prop :=
  ∀ reason ∈ discardReasons,
    w.producer.Stores (DiscardedCapture.emission ⟨goal, batch, reason⟩ context)

/-- A batch that is canceled with its scope is discarded. Any other one is validated while the
queue is open and its product is not locked there, and it waits in the same way. -/
def KeepsBatch (w : ImageWorld n m) (context : CallbackContext F) : CaptureStep → Prop
  | .expose goalId outcome inferenceJobId _ =>
    match w.server.running.get? goalId with
    | some ⟨goal, .exposing attempt, cancelRequested⟩ =>
      match w.server.settings.captureAttempt goal attempt outcome with
      | .ok batch =>
        (w.server.settings.inferenceJob goal batch inferenceJobId).Fits ∧
          if cancelRequested || w.server.isScopeCanceled goal.productId goal.stationId then
            w.Excused context goal batch
          else w.pool.queue.closed = false ∧
            goal.productId ∉ w.pool.queue.canceled.lockedProducts
      | .error _ => True
    | _ => True
  | .retry goalId _ =>
    match w.server.running.get? goalId with
    | some ⟨goal, .blocked batch job, cancelRequested⟩ =>
      w.server.Welcome w.pool.queue ⟨goal, .blocked batch job, cancelRequested⟩ job
        (w.Excused context goal batch)
    | _ => True
  | _ => True

/-- No job in the hands of a thread is found canceled. -/
def Uncanceled (s : WorkerPool n m) : WorkerPool.PoolStep n m → Prop
  | .checkCanceled w => ∀ job ∈ (s.workers w).held, s.queue.jobCanceled job = false
  | .stopCanceled k => (s.stops k).held = 0
  | _ => True

/-- No waiting job is dropped and none is canceled later, and the events of the others are
stored. -/
def KeepsImages (w : ImageWorld n m) : ImageStep F n m → Prop
  | .capture e context => w.KeepsBatch context e
  | .cancelInference message _ _ => message.productId = "" ∨
    ∀ job ∈ w.pool.queue.items, job.inScope message.productId message.scope = false
  | .lockProduct productId _ _ _ => ∀ job ∈ w.pool.queue.items, job.productId ≠ productId
  | .work i e result context => (w.pools i).Careful e ∧ Uncanceled (w.pools i) e ∧
    w.producer.StoresAll (w.callbacks i e result context) ∧ context.Fits
  | .acknowledge _ | .initializeNodeResources _ => True

end

/-! ### What a step of a pool calls back for -/

/-- Only for jobs that have come through or failed. -/
def CallsBack (s t : WorkerPool n m) : Prop :=
  ∃ events, t.trace = s.trace ++ events ∧
    ∀ event ∈ events, ∃ job, event = .success job ∨ ∃ cause, event = .failure job cause

section
variable {s t : WorkerPool n m}

theorem CallsBack.silent (h : t.trace = s.trace) : CallsBack s t :=
  ⟨[], by rw [h, List.append_nil], fun _ hevent => absurd hevent List.not_mem_nil⟩

theorem CallsBack.once {event : PoolEvent} (h : t.trace = s.trace ++ [event])
    (hevent : ∃ job, event = .success job ∨ ∃ cause, event = .failure job cause) :
    CallsBack s t :=
  ⟨[event], h, fun _ hmem => List.mem_singleton.mp hmem ▸ hevent⟩

theorem CallsBack.accepted (h : CallsBack s t) : t.acceptedJobs = s.acceptedJobs := by
  obtain ⟨events, htrace, hevents⟩ := h
  have hnone : (events.map PoolEvent.acceptedJobs).sum = 0 := by
    refine List.sum_eq_zero fun jobs hjobs => ?_
    obtain ⟨event, hevent, rfl⟩ := List.mem_map.mp hjobs
    obtain ⟨job, rfl | ⟨cause, rfl⟩⟩ := hevents event hevent <;> rfl
  simp only [WorkerPool.acceptedJobs, htrace, List.map_append, List.sum_append, hnone, add_zero]

theorem ended_by {events : List PoolEvent} {job : InferenceJob}
    (h : job ∈ (events.map PoolEvent.endedJobs).sum) :
    ∃ event ∈ events, job ∈ event.endedJobs := by
  induction events with
  | nil => exact absurd h (Multiset.notMem_zero job)
  | cons event events ih =>
    rw [List.map_cons, List.sum_cons, Multiset.mem_add] at h
    rcases h with h | h
    · exact ⟨event, List.mem_cons_self, h⟩
    · obtain ⟨other, hother, hjob⟩ := ih h
      exact ⟨other, List.mem_cons_of_mem event hother, hjob⟩

theorem CallsBack.ended (h : CallsBack s t) {job : InferenceJob} (hjob : job ∈ t.endedJobs) :
    job ∈ s.endedJobs ∨ ∃ event ∈ t.trace.drop s.trace.length,
      event = .success job ∨ ∃ cause, event = .failure job cause := by
  obtain ⟨events, htrace, hevents⟩ := h
  simp only [WorkerPool.endedJobs, htrace, List.map_append, List.sum_append, Multiset.mem_add]
    at hjob
  refine hjob.imp_right fun hnew => ?_
  rw [htrace, List.drop_left]
  obtain ⟨event, hevent, hended⟩ := ended_by hnew
  refine ⟨event, hevent, ?_⟩
  obtain ⟨other, hother⟩ := hevents event hevent
  have hsame : job = other := by
    rcases hother with rfl | ⟨cause, rfl⟩ <;> exact Multiset.mem_singleton.mp hended
  exact hsame ▸ hother

theorem calls_back_work (w : Fin n) (job : InferenceJob) (nowNs : ℤ)
    (failure? : Option InferenceFailure) (phase : WorkerPhase) :
    CallsBack s (s.work w job nowNs failure? phase) := by
  unfold WorkerPool.work
  split
  · exact .once rfl ⟨job, .inr ⟨_, rfl⟩⟩
  · split
    · exact .once rfl ⟨job, .inr ⟨_, rfl⟩⟩
    · exact .silent rfl

theorem calls_back_check {w : Fin n} {job : InferenceJob} (stage : String) (phase : WorkerPhase)
    (h : s.queue.jobCanceled job = false) : CallsBack s (s.cancelUnless w job stage phase) := by
  unfold WorkerPool.cancelUnless
  rw [if_neg (by rw [h]; exact Bool.false_ne_true)]
  exact .silent rfl

theorem calls_back {e : WorkerPool.PoolStep n m} (hinner : e.inner = true)
    (h : Uncanceled s e) : CallsBack s (s.next e) := by
  cases e with
  | enqueue | cancelScope | lockProduct => cases hinner
  | get w =>
    simp only [WorkerPool.next, WorkerPool.get]
    split <;> exact .silent rfl
  | checkCanceled w =>
    simp only [WorkerPool.next, WorkerPool.checkCanceled]
    split
    all_goals first
    | exact .silent rfl
    | rename_i job hphase
      exact calls_back_check _ _ (h job (by rw [hphase]; exact Multiset.mem_singleton_self job))
  | load w nowNs outcome =>
    simp only [WorkerPool.next, WorkerPool.load]
    split
    · exact calls_back_work ..
    · exact .silent rfl
  | infer w nowNs outcome =>
    simp only [WorkerPool.next, WorkerPool.infer]
    split
    · exact calls_back_work ..
    · exact .silent rfl
  | finish w nowNs =>
    simp only [WorkerPool.next, WorkerPool.finish]
    split
    · rename_i job _
      split
      · exact .once rfl ⟨job, .inr ⟨_, rfl⟩⟩
      · exact .once rfl ⟨job, .inl rfl⟩
    · exact .silent rfl
  | oomCancel w =>
    simp only [WorkerPool.next, WorkerPool.oomCancel]
    split <;> exact .silent rfl
  | oomClose w =>
    simp only [WorkerPool.next, WorkerPool.oomClose]
    split <;> exact .silent rfl
  | sweepWait =>
    simp only [WorkerPool.next, WorkerPool.sweepWait]
    split <;> exact .silent rfl
  | sweep nowNs =>
    simp only [WorkerPool.next, WorkerPool.sweep]
    split <;> exact .silent rfl
  | sweepFail =>
    simp only [WorkerPool.next, WorkerPool.sweepFail]
    split
    · exact .silent rfl
    · rename_i job rest _
      exact .once rfl ⟨job, .inr ⟨_, rfl⟩⟩
    · exact .silent rfl
  | stop k =>
    simp only [WorkerPool.next, WorkerPool.stop]
    split <;> exact .silent rfl
  | stopCancel k =>
    simp only [WorkerPool.next, WorkerPool.stopCancel]
    split <;> exact .silent rfl
  | stopCanceled k =>
    simp only [WorkerPool.next, WorkerPool.stopCanceled]
    split
    · exact .silent rfl
    · rename_i job rest hphase
      have hheld : (s.stops k).held = 0 := h
      rw [hphase] at hheld
      exact absurd (Multiset.coe_eq_zero _ |>.mp hheld) (List.cons_ne_nil job rest)
    · exact .silent rfl
  | stopClose k =>
    simp only [WorkerPool.next, WorkerPool.stopClose]
    split <;> exact .silent rfl
  | stopJoin k =>
    simp only [WorkerPool.next, WorkerPool.stopJoin]
    split <;> exact .silent rfl

end

/-! ### Events that have been stored -/

variable [Runtime F] {w : ImageWorld n m} {paths : List String}

theorem registered_emit (h : w.Registered F paths) (e : LogEmission F) :
    (w.emit e).Registered F paths := by
  obtain ⟨message, hmessage, hregisters⟩ := h
  exact ⟨message, List.mem_append_left _ hmessage, hregisters⟩

theorem emit_all_frame (w : ImageWorld n m) (es : List (LogEmission F)) :
    (w.emitAll es).server = w.server ∧ (w.emitAll es).pools = w.pools ∧
      (w.emitAll es).current = w.current := by
  induction es generalizing w with
  | nil => exact ⟨rfl, rfl, rfl⟩
  | cons e es ih => exact ih (w.emit e)

theorem registered_emit_all (h : w.Registered F paths) (es : List (LogEmission F)) :
    (w.emitAll es).Registered F paths := by
  induction es generalizing w with
  | nil => exact h
  | cons e es ih => exact ih (registered_emit h e)

theorem registered_of_stores [LawfulRuntime F] {e : LogEmission F} (h : w.producer.Stores e)
    (hcarries : e.Carries paths) :
    (w.emit e).Registered F paths := by
  obtain ⟨record, hrecord, hpublished⟩ := LogProducer.emit_stored h.2
  obtain ⟨message, hpublish, hregisters⟩ := hcarries.registers hrecord h.1
  have hmem : message ∈ (w.producer.emitDurableEvent e).1.published.toList := by
    rw [hpublished, hpublish]
    exact List.mem_singleton_self message
  exact ⟨message, List.mem_append_right _ hmem, hregisters⟩

theorem registered_of_stores_all [LawfulRuntime F] {es : List (LogEmission F)} {e : LogEmission F}
    (h : w.producer.StoresAll es) (he : e ∈ es) (hcarries : e.Carries paths) :
    (w.emitAll es).Registered F paths := by
  induction es generalizing w with
  | nil => cases he
  | cons first es ih =>
    rcases List.mem_cons.mp he with rfl | he
    · exact registered_emit_all (registered_of_stores h.1 hcarries) es
    · exact ih h.2 he

/-! ### Where a batch is -/

/-- A batch waits, the job it was handed in with has been taken, or its files are registered. -/
def Kept (F : Type) [Runtime F] (w : ImageWorld n m) (batch : CaptureBatch) : Prop :=
  (∃ goalId job, w.server.blockedAt goalId = some (batch, job)) ∨
    (∃ i, ∃ job ∈ (w.pools i).acceptedJobs, job.imagePaths = batch.filePaths) ∨
    w.Registered F batch.filePaths

def jobIds (s : WorkerPool n m) : Multiset String := s.acceptedJobs.map (·.inferenceJobId)

structure Invariant (F : Type) [Runtime F] (w : ImageWorld n m) : Prop where
  server : w.server.Invariant
  stations : ∀ goal ∈ w.server.goals, goal.stationId ∈ CaptureSettings.stations
  pools : ∀ i, (w.pools i).Accounted
  later : ∀ i, w.current < i → (w.pools i).acceptedJobs = 0
  ended : ∀ i, ∀ job ∈ (w.pools i).endedJobs, w.Registered F job.imagePaths
  accepted : ∀ i, ∀ job ∈ (w.pools i).acceptedJobs, job.Reportable
  validated : ∀ batch ∈ w.server.validated, w.Kept F batch
  blocked : ∀ goalId batch job, w.server.blockedAt goalId = some (batch, job) →
    job.imagePaths = batch.filePaths ∧ job.Reportable ∧ ∀ i, job.inferenceJobId ∉ jobIds (w.pools i)
  distinct : ∀ a b x y j k, w.server.blockedAt a = some (x, j) →
    w.server.blockedAt b = some (y, k) → j.inferenceJobId = k.inferenceJobId → a = b

theorem Invariant.images_accounted (h : w.Invariant F) : w.ImagesAccounted F := by
  intro batch hbatch
  rcases h.validated batch hbatch with hblocked | ⟨i, job, hjob, hpaths⟩ | hregistered
  · exact .inl (.inl hblocked)
  · have hpool := h.pools i
    rw [hpool.conserved, WorkerPool.located, Multiset.mem_add, Multiset.mem_add] at hjob
    rcases hjob with (hwaiting | hflight) | hended
    · have hopen : (w.pools i).queue.closed = false := by
        by_contra hclosed
        rw [hpool.closed (by simpa using hclosed)] at hwaiting
        exact absurd hwaiting (Multiset.notMem_zero job)
      refine .inl (.inr ⟨i, job, Multiset.mem_add.mpr (.inl ?_), hpaths⟩)
      unfold WorkerPool.waiting
      rwa [if_neg (by rw [hopen]; exact Bool.false_ne_true)]
    · exact .inl (.inr ⟨i, job, Multiset.mem_add.mpr (.inr hflight), hpaths⟩)
    · exact .inr (hpaths ▸ h.ended i job hended)
  · exact .inr hregistered

theorem initial_invariant (node : Worker) (settings : CaptureSettings) (producer : LogProducer)
    (capacity : ℕ) (hworkers : 0 < n) :
    (initial node settings producer capacity hworkers : ImageWorld n m).Invariant F where
  server := CaptureServer.initial_invariant node settings
  stations goal hgoal := absurd hgoal List.not_mem_nil
  pools _ := WorkerPool.start_accounted _ hworkers
  later _ _ := rfl
  ended _ job hjob := absurd hjob (Multiset.notMem_zero job)
  accepted _ job hjob := absurd hjob (Multiset.notMem_zero job)
  validated batch hbatch := absurd hbatch List.not_mem_nil
  blocked goalId batch job h := by cases h
  distinct a b x y j k h := by cases h

/-! ### One step -/

section
variable {w' : ImageWorld n m}

theorem Kept.mono {batch : CaptureBatch} (h : w.Kept F batch)
    (hblocked : ∀ goalId job, w.server.blockedAt goalId = some (batch, job) → w'.Kept F batch)
    (haccepted : ∀ i, ∀ job ∈ (w.pools i).acceptedJobs, job ∈ (w'.pools i).acceptedJobs)
    (hregistered : ∀ paths, w.Registered F paths → w'.Registered F paths) : w'.Kept F batch := by
  rcases h with ⟨goalId, job, hwaits⟩ | ⟨i, job, hjob, hpaths⟩ | hdone
  · exact hblocked goalId job hwaits
  · exact .inr (.inl ⟨i, job, haccepted i job hjob, hpaths⟩)
  · exact .inr (.inr (hregistered _ hdone))

/-- A pool that takes no job, and whose jobs end with their files registered. -/
theorem Invariant.set_pool (h : w.Invariant F) (i : ℕ) {t : WorkerPool n m}
    (hserver : w'.server = w.server) (hpools : w'.pools = Function.update w.pools i t)
    (hcurrent : w.current ≤ w'.current) (haccounted : t.Accounted)
    (haccepted : t.acceptedJobs = (w.pools i).acceptedJobs)
    (hregistered : ∀ paths, w.Registered F paths → w'.Registered F paths)
    (hended : ∀ job ∈ t.endedJobs, job ∈ (w.pools i).endedJobs ∨ w'.Registered F job.imagePaths) :
    w'.Invariant F := by
  have hsame : ∀ j, (w'.pools j).acceptedJobs = (w.pools j).acceptedJobs := by
    intro j
    rw [hpools]
    by_cases hj : j = i
    · subst hj
      rw [Function.update_self, haccepted]
    · rw [Function.update_of_ne hj]
  constructor
  case server => exact hserver ▸ h.server
  case stations => exact hserver ▸ h.stations
  case pools =>
    intro j
    rw [hpools]
    by_cases hj : j = i
    · subst hj
      rwa [Function.update_self]
    · rw [Function.update_of_ne hj]
      exact h.pools j
  case later => exact fun j hj => (hsame j).trans (h.later j (hcurrent.trans_lt hj))
  case ended =>
    intro j job hjob
    rw [hpools] at hjob
    by_cases hj : j = i
    · subst hj
      rw [Function.update_self] at hjob
      exact (hended job hjob).elim (fun hold => hregistered _ (h.ended j job hold)) id
    · rw [Function.update_of_ne hj] at hjob
      exact hregistered _ (h.ended j job hjob)
  case accepted => exact fun j job hjob => h.accepted j job (hsame j ▸ hjob)
  case validated =>
    intro batch hbatch
    refine (h.validated batch (hserver ▸ hbatch)).mono (fun goalId job hwaits => ?_)
      (fun j job hjob => (hsame j).symm ▸ hjob) hregistered
    exact .inl ⟨goalId, job, hserver ▸ hwaits⟩
  case blocked =>
    intro goalId batch job hwaits
    obtain ⟨hpaths, hjob, hnew⟩ := h.blocked goalId batch job (hserver ▸ hwaits)
    refine ⟨hpaths, hjob, fun j => ?_⟩
    unfold jobIds
    rw [hsame j]
    exact hnew j
  case distinct => exact hserver ▸ h.distinct

/-- A step of a goal that has nothing to do with a batch. -/
theorem Invariant.set_server (h : w.Invariant F) (hserver : w'.server.Invariant)
    (hgoals : ∀ goal ∈ w'.server.goals, goal.stationId ∈ CaptureSettings.stations)
    (hblocked : w'.server.blockedAt = w.server.blockedAt)
    (hvalidated : w'.server.validated = w.server.validated) (hpools : w'.pools = w.pools)
    (hcurrent : w'.current = w.current)
    (hregistered : ∀ paths, w.Registered F paths → w'.Registered F paths) : w'.Invariant F where
  server := hserver
  stations := hgoals
  pools := hpools ▸ h.pools
  later i hi := hpools ▸ h.later i (hcurrent ▸ hi)
  ended i job hjob := hregistered _ (h.ended i job (hpools ▸ hjob))
  accepted := hpools ▸ h.accepted
  validated batch hbatch := (h.validated batch (hvalidated ▸ hbatch)).mono
    (fun goalId job hwaits => .inl ⟨goalId, job, hblocked ▸ hwaits⟩)
    (fun _ _ hjob => hpools ▸ hjob) hregistered
  blocked := hblocked ▸ hpools ▸ h.blocked
  distinct := hblocked ▸ h.distinct

end

theorem reinitialize_keeps (h : w.Invariant F) (capacity : ℕ) :
    (w.initializeNodeResources capacity).Invariant F :=
  h.set_pool (w.current + 1) rfl rfl (Nat.le_succ _) (WorkerPool.start_accounted _ _)
    (h.later _ (Nat.lt_succ_self _)).symm (fun _ hpaths => hpaths)
    fun job hjob => absurd hjob (Multiset.notMem_zero job)

theorem work_keeps [LawfulRuntime F] (h : w.Invariant F) {i : ℕ} {e : WorkerPool.PoolStep n m}
    {result : StationInferenceResult F} {context : CallbackContext F} (hinner : e.inner = true)
    (hcareful : (w.pools i).Careful e) (hwanted : Uncanceled (w.pools i) e)
    (hstores : w.producer.StoresAll (w.callbacks i e result context)) (hcontext : context.Fits) :
    (w.work i e result context).Invariant F := by
  have hcalls := calls_back hinner hwanted
  have hfresh : (w.pools i).FreshId e := by
    cases e with
    | enqueue => cases hinner
    | _ => trivial
  have haccounted := WorkerPool.step_preserves_accounted (h.pools i) hfresh hcareful
  obtain ⟨hserver, hpools, hcurrent⟩ := emit_all_frame (w.setPool i ((w.pools i).next e))
    (w.callbacks i e result context)
  refine h.set_pool i hserver hpools hcurrent.ge haccounted hcalls.accepted
    (fun paths hpaths => registered_emit_all (w := w.setPool i _) hpaths _) fun job hjob => ?_
  refine (hcalls.ended hjob).imp_right fun ⟨event, hevent, hcause⟩ => ?_
  have hjob : job.Reportable := by
    refine h.accepted i job (hcalls.accepted ▸ ?_)
    rw [haccounted.conserved, WorkerPool.located, Multiset.mem_add]
    exact .inr hjob
  have hcarries : ∃ emission, event.emission result context = some emission ∧
      emission.Carries job.imagePaths := by
    rcases hcause with rfl | ⟨cause, rfl⟩
    · by_cases hmeets : result.meets job = true
      · exact ⟨_, if_pos hmeets, InferenceJob.result_emission_carries hjob hmeets hcontext⟩
      · exact ⟨_, if_neg hmeets, InferenceJob.failure_emission_carries hjob _⟩
    · exact ⟨_, rfl, InferenceJob.failure_emission_carries hjob cause⟩
  obtain ⟨emission, hemission, hcarries⟩ := hcarries
  exact registered_of_stores_all (w := w.setPool i ((w.pools i).next e)) hstores
    (List.mem_filterMap.mpr ⟨event, hevent, hemission⟩) hcarries

theorem cancel_call_keeps (h : w.Invariant F) {t : WorkerPool n m} {queue : InferenceQueue}
    {event : PoolEvent} (hcall : t = { w.pool with queue }.record event)
    (haccounted : t.Accounted) (haccepted : event.acceptedJobs = 0) (hended : event.endedJobs = 0)
    (e : LogEmission F) : ((w.setPool w.current t).emit e).Invariant F := by
  subst hcall
  refine h.set_pool w.current rfl rfl le_rfl haccounted ?_
    (fun paths hpaths => registered_emit (w := w.setPool w.current _) hpaths e) fun job hjob => ?_
  · rw [WorkerPool.accepted_jobs_record, haccepted]
    exact add_zero _
  · rw [WorkerPool.ended_jobs_record, hended] at hjob
    exact .inl (add_zero (WorkerPool.endedJobs _) ▸ hjob)

theorem cancel_keeps (h : w.Invariant F) {message : InferenceCancellationMessage} {active : Bool}
    {context : CallbackContext F} (hwaiting : message.productId = "" ∨
      ∀ job ∈ w.pool.queue.items, job.inScope message.productId message.scope = false) :
    (w.cancelInference message active context).Invariant F := by
  unfold cancelInference
  split
  · exact h
  · rename_i hnamed
    have haccounted := WorkerPool.step_preserves_accounted (h.pools w.current)
      (e := .cancelScope message.productId message.scope) trivial trivial
    refine cancel_call_keeps h rfl haccounted rfl ?_ _
    refine (Multiset.coe_eq_zero _).mpr (List.filter_eq_nil_iff.mpr fun job hjob => ?_)
    rw [hwaiting.resolve_left hnamed job hjob]
    exact Bool.false_ne_true

theorem lock_keeps (h : w.Invariant F) {productId : String} {fifoSequence : ℕ} {active : Bool}
    {context : CallbackContext F}
    (hwaiting : ∀ job ∈ w.pool.queue.items, job.productId ≠ productId) :
    (w.lockProduct productId fifoSequence active context).Invariant F := by
  have haccounted := WorkerPool.step_preserves_accounted (h.pools w.current)
    (e := .lockProduct productId) trivial trivial
  refine cancel_call_keeps h rfl haccounted rfl ?_ _
  refine (Multiset.coe_eq_zero _).mpr (List.filter_eq_nil_iff.mpr fun job hjob => ?_)
  simpa using hwaiting job hjob

/-! ### The steps of the goals -/

section
variable {e : CaptureStep} {context : CallbackContext F}

abbrev after (w : ImageWorld n m) (e : CaptureStep) : CaptureWorld :=
  CaptureWorld.next ⟨w.server, w.pool.queue⟩ e

theorem capture_frame (w : ImageWorld n m) (e : CaptureStep) (context : CallbackContext F) :
    (w.capture e context).server = (w.after e).server ∧
      (w.capture e context).pools = Function.update w.pools w.current { w.pool with
        queue := (w.after e).queue
        trace := w.pool.trace ++
          ((w.after e).server.jobs.drop w.server.jobs.length).map PoolEvent.accepted } ∧
      (w.capture e context).current = w.current :=
  emit_all_frame _ _

theorem registered_capture {paths : List String} (h : w.Registered F paths) (e : CaptureStep)
    (context : CallbackContext F) : (w.capture e context).Registered F paths :=
  registered_emit_all (w := { w with server := (w.after e).server }.setPool w.current _) h _

theorem pools_quiet (context : CallbackContext F)
    (hqueue : (w.after e).queue = w.pool.queue)
    (hjobs : (w.after e).server.jobs = w.server.jobs) :
    (w.capture e context).pools = w.pools := by
  obtain ⟨-, hpools, -⟩ := w.capture_frame e context
  rw [hqueue, hjobs, List.drop_length, List.map_nil, List.append_nil] at hpools
  exact hpools.trans (Function.update_eq_self _ _)

theorem capture_quiet (h : w.Invariant F) (hserver : (w.after e).server.Invariant)
    (hqueue : (w.after e).queue = w.pool.queue) (hjobs : (w.after e).server.jobs = w.server.jobs)
    (hgoals : ∀ goal ∈ (w.after e).server.goals, goal.stationId ∈ CaptureSettings.stations)
    (hblocked : (w.after e).server.blockedAt = w.server.blockedAt)
    (hvalidated : (w.after e).server.validated = w.server.validated) :
    (w.capture e context).Invariant F := by
  obtain ⟨hs, -, hc⟩ := w.capture_frame e context
  exact h.set_server (hs ▸ hserver) (hs ▸ hgoals) (hs ▸ hblocked) (hs ▸ hvalidated)
    (pools_quiet context hqueue hjobs) hc fun paths hpaths => registered_capture hpaths e context

end

structure HandsIn (w : ImageWorld n m) (goalId : String) (batch : CaptureBatch)
    (job : InferenceJob) : Prop where
  paths : job.imagePaths = batch.filePaths
  reportable : job.Reportable
  fresh : ∀ i, job.inferenceJobId ∉ jobIds (w.pools i)
  alone : ∀ id x k, w.server.blockedAt id = some (x, k) → k.inferenceJobId = job.inferenceJobId →
    id = goalId
  before : ∀ x k, w.server.blockedAt goalId = some (x, k) → x = batch

structure Takes (w w' : ImageWorld n m) (job : InferenceJob) : Prop where
  accounted : ∀ i, (w'.pools i).Accounted
  later : ∀ i, w'.current < i → (w'.pools i).acceptedJobs = 0
  ended : ∀ i, (w'.pools i).endedJobs = (w.pools i).endedJobs
  kept : ∀ i, ∀ k ∈ (w.pools i).acceptedJobs, k ∈ (w'.pools i).acceptedJobs
  new : ∀ i, ∀ k ∈ (w'.pools i).acceptedJobs,
    k ∈ (w.pools i).acceptedJobs ∨ ∃ nowNs, k = job.stamped nowNs

section
variable {w' : ImageWorld n m} {goalId : String} {batch : CaptureBatch} {job : InferenceJob}

theorem Invariant.takes_nothing (h : w.Invariant F) (hpools : w'.pools = w.pools)
    (hcurrent : w'.current = w.current) : Takes w w' job where
  accounted := hpools ▸ h.pools
  later i hi := hpools ▸ h.later i (hcurrent ▸ hi)
  ended _ := by rw [hpools]
  kept _ _ hk := hpools ▸ hk
  new _ _ hk := .inl (hpools ▸ hk)

/-- A goal has handed its batch in, and no other goal has done anything. -/
theorem Invariant.hand_in (h : w.Invariant F) (hin : w.HandsIn goalId batch job)
    (hserver : w'.server.Invariant)
    (hgoals : w'.server.goals = w.server.goals) (waiting : Option (CaptureBatch × InferenceJob))
    (hblocked : w'.server.blockedAt = Function.update w.server.blockedAt goalId waiting)
    (hwaiting : waiting = none ∨ waiting = some (batch, job) ∧ w'.pools = w.pools)
    (hvalidated : ∀ x ∈ w'.server.validated, x = batch ∨ x ∈ w.server.validated)
    (hkept : w'.Kept F batch) (htakes : Takes w w' job)
    (hregistered : ∀ paths, w.Registered F paths → w'.Registered F paths) : w'.Invariant F := by
  have hother : ∀ id, id ≠ goalId → w'.server.blockedAt id = w.server.blockedAt id := by
    intro id hid
    rw [hblocked, Function.update_of_ne hid]
  have hself : ∀ x k, w'.server.blockedAt goalId = some (x, k) →
      (x, k) = (batch, job) ∧ w'.pools = w.pools := by
    intro x k hx
    rw [hblocked, Function.update_self] at hx
    rcases hwaiting with hnone | ⟨hsome, hpools⟩
    · rw [hnone] at hx
      cases hx
    · exact ⟨Option.some.inj (hx.symm.trans hsome), hpools⟩
  constructor
  case server => exact hserver
  case stations => exact hgoals ▸ h.stations
  case pools => exact htakes.accounted
  case later => exact htakes.later
  case ended =>
    intro i k hk
    rw [htakes.ended i] at hk
    exact hregistered _ (h.ended i k hk)
  case accepted =>
    intro i k hk
    rcases htakes.new i k hk with hold | ⟨nowNs, rfl⟩
    · exact h.accepted i k hold
    · exact hin.reportable.stamped nowNs
  case validated =>
    intro x hx
    rcases hvalidated x hx with rfl | hold
    · exact hkept
    · refine (h.validated x hold).mono (fun id k hwaits => ?_) htakes.kept hregistered
      by_cases hid : id = goalId
      · exact hin.before x k (hid ▸ hwaits) ▸ hkept
      · exact .inl ⟨id, k, (hother id hid).trans hwaits⟩
  case blocked =>
    intro id x k hx
    by_cases hid : id = goalId
    · subst hid
      obtain ⟨hsame, hpools⟩ := hself x k hx
      cases hsame
      exact ⟨hin.paths, hin.reportable, hpools ▸ hin.fresh⟩
    · rw [hother id hid] at hx
      obtain ⟨hpaths, hreportable, hnew⟩ := h.blocked id x k hx
      refine ⟨hpaths, hreportable, fun i hmem => ?_⟩
      obtain ⟨j, hj, hsame⟩ := Multiset.mem_map.mp hmem
      rcases htakes.new i j hj with hold | ⟨nowNs, rfl⟩
      · exact hnew i (Multiset.mem_map.mpr ⟨j, hold, hsame⟩)
      · exact hid (hin.alone id x k hx (hsame.symm.trans (job.stamped_inference_job_id nowNs)))
  case distinct =>
    intro a b x y j k ha hb hsame
    by_cases hag : a = goalId <;> by_cases hbg : b = goalId
    · exact hag.trans hbg.symm
    · subst hag
      cases (hself x j ha).1
      exact (hin.alone b y k ((hother b hbg).symm.trans hb) hsame.symm).symm
    · subst hbg
      cases (hself y k hb).1
      exact hin.alone a x j ((hother a hag).symm.trans ha) hsame
    · exact h.distinct a b x y j k ((hother a hag).symm.trans ha) ((hother b hbg).symm.trans hb)
        hsame

theorem station_fits {stationId : ℕ} (h : stationId ∈ CaptureSettings.stations) :
    bindInt (stationId : ℤ) = .ok (stationId : ℤ) := by
  simp only [CaptureSettings.stations, List.mem_cons, List.not_mem_nil, or_false] at h
  rcases h with rfl | rfl <;> rfl

theorem taken_takes (context : CallbackContext F) (h : w.Invariant F)
    (hin : w.HandsIn goalId batch job) {nowNs : ℤ} {accepted : InferenceJob} {e : CaptureStep}
    (haccepts : w.pool.queue.tryEnqueue job nowNs = some (accepted, (w.after e).queue))
    (hjobs : (w.after e).server.jobs = w.server.jobs ++ [accepted]) :
    Takes w (w.capture e context) job ∧ job.stamped nowNs ∈
      ((w.capture e context).pools w.current).acceptedJobs := by
  obtain ⟨-, hpools, hcurrent⟩ := w.capture_frame e context
  obtain rfl := InferenceQueue.accepted_eq_stamped haccepts
  have hpool : { w.pool with
      queue := (w.after e).queue
      trace := w.pool.trace ++
        ((w.after e).server.jobs.drop w.server.jobs.length).map PoolEvent.accepted } =
      w.pool.enqueue job nowNs := by
    rw [hjobs, List.drop_left]
    simp only [WorkerPool.enqueue, haccepts]
    rfl
  rw [hpool] at hpools
  have haccepted : (w.pool.enqueue job nowNs).acceptedJobs =
      w.pool.acceptedJobs + {job.stamped nowNs} := by
    simp only [WorkerPool.enqueue, haccepts]
    exact WorkerPool.accepted_jobs_record _ _
  have hended : (w.pool.enqueue job nowNs).endedJobs = w.pool.endedJobs := by
    simp only [WorkerPool.enqueue, haccepts]
    exact (WorkerPool.ended_jobs_record _ _).trans (add_zero _)
  have hself : (w.capture e context).pools w.current = w.pool.enqueue job nowNs := by
    rw [hpools, Function.update_self]
  have hother : ∀ i, i ≠ w.current → (w.capture e context).pools i = w.pools i := by
    intro i hi
    rw [hpools, Function.update_of_ne hi]
  refine ⟨⟨?_, ?_, ?_, ?_, ?_⟩, ?_⟩
  · intro i
    by_cases hi : i = w.current
    · rw [hi, hself]
      exact WorkerPool.enqueue_preserves_accounted (h.pools w.current) nowNs (hin.fresh w.current)
    · rw [hother i hi]
      exact h.pools i
  · intro i hi
    rw [hcurrent] at hi
    rw [hother i hi.ne']
    exact h.later i hi
  · intro i
    by_cases hi : i = w.current
    · rw [hi, hself, hended]
      rfl
    · rw [hother i hi]
  · intro i k hk
    by_cases hi : i = w.current
    · rw [hi] at hk ⊢
      rw [hself, haccepted]
      exact Multiset.mem_add.mpr (.inl hk)
    · rwa [hother i hi]
  · intro i k hk
    by_cases hi : i = w.current
    · rw [hi] at hk ⊢
      rw [hself, haccepted, Multiset.mem_add, Multiset.mem_singleton] at hk
      exact hk.imp_right fun hsame => ⟨nowNs, hsame⟩
    · exact .inl (hother i hi ▸ hk)
  · rw [hself, haccepted]
    exact Multiset.mem_add.mpr (.inr (Multiset.mem_singleton_self _))

/-- What becomes of a batch that is handed in. `u` is the server that knows of it. -/
theorem handed_keeps [LawfulRuntime F] (h : w.Invariant F) (hin : w.HandsIn goalId batch job)
    {e : CaptureStep} {context : CallbackContext F}
    {u : CaptureServer} (r : RunningCapture) (nowNs : ℤ)
    (hserver : (w.after e).server.Invariant) (hknown : r.goal ∈ w.server.goals)
    (hnamed : "" ∉ batch.filePaths) (hrunning : u.running = w.server.running)
    (hvalidated : ∀ x ∈ u.validated, x = batch ∨ x ∈ w.server.validated)
    (hjobs : u.jobs = w.server.jobs) (hdiscarded : u.discarded = w.server.discarded)
    (hgoals : u.goals = w.server.goals)
    (hhanded : Handed u w.pool.queue goalId r batch job nowNs (w.Excused context r.goal batch)
      ((w.after e).server, (w.after e).queue)) : (w.capture e context).Invariant F := by
  obtain ⟨hs, hp, hc⟩ := w.capture_frame e context
  have hregistered : ∀ paths, w.Registered F paths → (w.capture e context).Registered F paths :=
    fun paths hpaths => registered_capture hpaths e context
  have hbefore : u.blockedAt = w.server.blockedAt := by
    unfold blockedAt
    rw [hrunning]
  generalize hafter : ((w.after e).server, (w.after e).queue) = pair at hhanded
  cases hhanded with
  | taken haccepts hsettles =>
    cases hafter
    obtain ⟨htakes, htaken⟩ := taken_takes context h hin haccepts
      (hsettles.jobs.trans (by rw [hjobs]))
    refine h.hand_in hin (hs ▸ hserver) ?_ none ?_ (.inl rfl) ?_
      (.inr (.inl ⟨w.current, _, htaken, ?_⟩)) htakes hregistered
    · rw [hs, hsettles.goals, hgoals]
    · rw [hs, hsettles.blocked]
      exact congrArg (Function.update · goalId none) hbefore
    · rw [hs, hsettles.validated]
      exact hvalidated
    · rw [InferenceJob.stamped_image_paths, hin.paths]
  | discarded reason hreason hexcuse hsettles =>
    obtain ⟨rfl, hqueue⟩ := Prod.mk.inj hafter
    have hquiet := pools_quiet context hqueue (hsettles.jobs.trans hjobs)
    have hdone : (w.capture e context).Registered F batch.filePaths := by
      have hentry : (w.after e).server.discarded.drop w.server.discarded.length =
          [⟨r.goal, batch, reason⟩] := by
        rw [hsettles.discarded]
        simp only [emitCaptureDiscarded, hdiscarded, List.drop_left]
      unfold capture
      simp only [hentry, List.map_cons, List.map_nil]
      exact registered_of_stores (w := { w with server := (w.after e).server }.setPool w.current _)
        (hexcuse reason hreason)
        (DiscardedCapture.emission_carries (station_fits (h.stations _ hknown)) hnamed)
    refine h.hand_in hin (hs ▸ hserver) ?_ none ?_ (.inl rfl) ?_ (.inr (.inr hdone))
      (h.takes_nothing hquiet hc) hregistered
    · rw [hs, hsettles.goals]
      exact hgoals
    · rw [hs, hsettles.blocked]
      exact congrArg (Function.update · goalId none) hbefore
    · rw [hs, hsettles.validated]
      exact hvalidated
  | waits hsettles =>
    obtain ⟨rfl, hqueue⟩ := Prod.mk.inj hafter
    have hquiet := pools_quiet context hqueue (hsettles.jobs.trans hjobs)
    have hblocked : (w.capture e context).server.blockedAt =
        Function.update w.server.blockedAt goalId (some (batch, job)) := by
      rw [hs, hsettles.blocked, hbefore]
    refine h.hand_in hin (hs ▸ hserver) ?_ _ hblocked (.inr ⟨rfl, hquiet⟩) ?_
      (.inl ⟨goalId, job, by rw [hblocked, Function.update_self]⟩)
      (h.takes_nothing hquiet hc) hregistered
    · rw [hs, hsettles.goals]
      exact hgoals
    · rw [hs, hsettles.validated]
      exact hvalidated

end

/-! ### Every step -/

section
variable {e : CaptureStep} {context : CallbackContext F} {goalId : String} {r : RunningCapture}

theorem capture_idle (h : w.Invariant F) (hafter : w.after e = ⟨w.server, w.pool.queue⟩) :
    (w.capture e context).Invariant F := by
  refine capture_quiet h ?_ ?_ ?_ ?_ ?_ ?_ <;> rw [hafter]
  · exact h.server
  · exact h.stations

/-- A goal without a batch goes on, or ends. `u` is the server it does so in. -/
theorem capture_settles (h : w.Invariant F) (hserver : (w.after e).server.Invariant)
    (hqueue : (w.after e).queue = w.pool.queue) (hnone : w.server.blockedAt goalId = none)
    {u : CaptureServer} (hsettles : Settles u (w.after e).server goalId none)
    (hrunning : u.running = w.server.running) (hvalidated : u.validated = w.server.validated)
    (hjobs : u.jobs = w.server.jobs) (hgoals : u.goals = w.server.goals) :
    (w.capture e context).Invariant F := by
  refine capture_quiet h hserver hqueue (hsettles.jobs.trans hjobs) ?_ ?_
    (hsettles.validated.trans hvalidated)
  · rw [hsettles.goals, hgoals]
    exact h.stations
  · have hbefore : u.blockedAt = w.server.blockedAt := by
      unfold blockedAt
      rw [hrunning]
    rw [hsettles.blocked, hbefore, ← hnone, Function.update_eq_self]

theorem blocked_at_of_phase (hrunning : w.server.running.get? goalId = some r)
    (hphase : r.phase.blocked? = none) : w.server.blockedAt goalId = none :=
  (blocked_at_of_running hrunning).trans hphase

theorem accept_keeps (h : w.Invariant F) {goal : CaptureGoal}
    (hnew : w.server.running.get? goalId = none) :
    (w.capture (.accept goalId goal) context).Invariant F := by
  have hserver := accept_invariant h.server hnew goal
  by_cases haccepts : w.server.acceptsCaptureGoal goal = true
  · have hafter : (w.after (.accept goalId goal)).server =
        { w.server with
          running := w.server.running.insert goalId { goal }
          goals := w.server.goals ++ [goal] } := if_pos haccepts
    refine capture_quiet h hserver rfl ?_ ?_ ?_ ?_ <;> rw [hafter]
    · intro other hother
      rcases List.mem_append.mp hother with hold | hsame
      · exact h.stations other hold
      · rw [List.mem_singleton.mp hsame]
        simp only [acceptsCaptureGoal, Bool.and_eq_true, decide_eq_true_eq] at haccepts
        exact haccepts.1.1.1.1.1.2
    · funext id
      simp only [blockedAt, OrderedDict.get?_insert]
      split
      · rename_i hid
        rw [hid, hnew]
        rfl
      · rfl
  · have hsame : w.server.accept goalId goal = w.server := if_neg haccepts
    exact capture_idle h (by simp only [after, CaptureWorld.next, CaptureWorld.withServer, hsame])

theorem request_cancel_keeps (h : w.Invariant F) (goalId : String) :
    (w.capture (.requestCancel goalId) context).Invariant F := by
  refine capture_quiet h (request_cancel_invariant h.server goalId) rfl rfl h.stations ?_ rfl
  funext id
  simp only [after, CaptureWorld.next, CaptureWorld.withServer, requestCancel, blockedAt,
    OrderedDict.get?_modify]
  split
  · cases w.server.running.get? id <;> rfl
  · rfl

/-- The batch that a goal has waited with is handed in again. -/
theorem retry_keeps [LawfulRuntime F] (h : w.Invariant F) {nowNs : ℤ}
    (hkeeps : w.KeepsBatch context (.retry goalId nowNs)) :
    (w.capture (.retry goalId nowNs) context).Invariant F := by
  have hserver := retry_invariant h.server goalId nowNs w.pool.queue
  rcases hrunning : w.server.running.get? goalId with _ | ⟨goal, phase, cancelRequested⟩
  · exact capture_idle h (by
      simp only [after, CaptureWorld.next, CaptureWorld.ofPair, retry, hrunning])
  cases phase with
  | blocked batch job =>
    have hwaits : w.server.blockedAt goalId = some (batch, job) := blocked_at_of_running hrunning
    obtain ⟨hpaths, hreportable, hfresh⟩ := h.blocked goalId batch job hwaits
    have hin : w.HandsIn goalId batch job := by
      refine ⟨hpaths, hreportable, hfresh, fun id x k hx hsame => ?_, fun x k hx => ?_⟩
      · exact h.distinct id goalId x batch k job hx hwaits hsame
      · exact (Prod.mk.inj (Option.some.inj (hx.symm.trans hwaits))).1
    have hwelcome : w.server.Welcome w.pool.queue ⟨goal, .blocked batch job, cancelRequested⟩ job
        (w.Excused context goal batch) := by
      simpa only [KeepsBatch, hrunning] using hkeeps
    refine handed_keeps h hin ⟨goal, .blocked batch job, cancelRequested⟩ nowNs
      hserver (h.server.records.tracked goalId _ hrunning).known (hpaths ▸ hreportable.named) rfl
      (fun x hx => .inr hx) rfl rfl rfl ?_
    have hhanded := enqueue_hands_in (h.server.entered hrunning rfl).in_station batch nowNs hwelcome
    simpa only [after, CaptureWorld.next, CaptureWorld.ofPair, retry, hrunning] using hhanded
  | _ => exact capture_idle h (by
      simp only [after, CaptureWorld.next, CaptureWorld.ofPair, retry, hrunning])

theorem unused_fresh (h : w.Invariant F) {inferenceJobId : String}
    (hunused : w.Unused inferenceJobId) (i : ℕ) : inferenceJobId ∉ jobIds (w.pools i) := by
  by_cases hi : i ≤ w.current
  · exact hunused.1 i hi
  · unfold jobIds
    rw [h.later i (Nat.lt_of_not_le hi)]
    exact Multiset.notMem_zero _

theorem unused_waiting {inferenceJobId : String} (hunused : w.Unused inferenceJobId) {id : String}
    {batch : CaptureBatch} {job : InferenceJob}
    (hwaits : w.server.blockedAt id = some (batch, job)) : job.inferenceJobId ≠ inferenceJobId := by
  obtain ⟨r, hrunning, hphase⟩ := Option.bind_eq_some_iff.mp hwaits
  have hentry := hunused.2 (id, r) (OrderedDict.get?_eq_some.mp hrunning)
  simpa [hphase] using hentry

/-- A new batch is handed in, or an attempt has failed. -/
theorem expose_keeps [LawfulRuntime F] (h : w.Invariant F) {outcome : AttemptOutcome}
    {inferenceJobId : String} {nowNs : ℤ} (hunused : w.Unused inferenceJobId)
    (hkeeps : w.KeepsBatch context (.expose goalId outcome inferenceJobId nowNs)) :
    (w.capture (.expose goalId outcome inferenceJobId nowNs) context).Invariant F := by
  have hserver := expose_invariant h.server goalId outcome inferenceJobId nowNs w.pool.queue
  rcases hrunning : w.server.running.get? goalId with _ | ⟨goal, phase, cancelRequested⟩
  · exact capture_idle h (by
      simp only [after, CaptureWorld.next, CaptureWorld.ofPair, expose, hrunning])
  cases phase with
  | exposing attempt =>
    have hnone : w.server.blockedAt goalId = none := blocked_at_of_phase hrunning rfl
    have hstation := (h.server.entered hrunning rfl).in_station
    have hknown : goal ∈ w.server.goals := (h.server.records.tracked goalId _ hrunning).known
    rcases hcaptured : w.server.settings.captureAttempt goal attempt outcome with failure | batch
    · have hqueue : (w.after (.expose goalId outcome inferenceJobId nowNs)).queue =
          w.pool.queue := by
        simp only [after, CaptureWorld.next, CaptureWorld.ofPair, expose, hrunning, hcaptured]
      obtain ⟨u, hsettles, hsame, hvalidated, hjobs, hgoals⟩ : ∃ u : CaptureServer,
          Settles u (w.after (.expose goalId outcome inferenceJobId nowNs)).server goalId none ∧
            u.running = w.server.running ∧ u.validated = w.server.validated ∧
            u.jobs = w.server.jobs ∧ u.goals = w.server.goals := by
        simp only [after, CaptureWorld.next, CaptureWorld.ofPair, expose, hrunning, hcaptured]
        cases failure.batch with
        | none => exact ⟨_, start_attempt_settles hstation .., rfl, rfl, rfl, rfl⟩
        | some captured =>
          exact ⟨_, start_attempt_settles (v := w.server.emitCaptureDiscarded goal captured
            (attemptReason w.server.settings attempt failure.text))
            ⟨hstation.running, hstation.notQueued, hstation.next⟩ .., rfl, rfl, rfl, rfl⟩
      exact capture_settles h hserver hqueue hnone hsettles hsame hvalidated hjobs hgoals
    · obtain ⟨hfits, hwelcome⟩ : (w.server.settings.inferenceJob goal batch inferenceJobId).Fits ∧
          _ := by
        simpa only [KeepsBatch, hrunning, hcaptured] using hkeeps
      have hnamed := captured_named hcaptured
      have hin : w.HandsIn goalId batch
          (w.server.settings.inferenceJob goal batch inferenceJobId) := by
        refine ⟨rfl, ⟨hfits, station_fits (h.stations goal hknown), hnamed⟩,
          unused_fresh h hunused, fun id x k hx hsame => ?_, fun x k hx => ?_⟩
        · exact absurd hsame (unused_waiting hunused hx)
        · rw [hnone] at hx
          cases hx
      refine handed_keeps (u := { w.server with validated := w.server.validated ++ [batch] }) h hin
        ⟨goal, .exposing attempt, cancelRequested⟩ nowNs hserver hknown hnamed rfl
        (fun x hx => ?_) rfl rfl rfl ?_
      · exact (List.mem_append.mp hx).symm.imp_left List.mem_singleton.mp
      · have hhanded : Handed { w.server with validated := w.server.validated ++ [batch] }
            w.pool.queue goalId ⟨goal, .exposing attempt, cancelRequested⟩ batch
            (w.server.settings.inferenceJob goal batch inferenceJobId) nowNs
            (w.Excused context goal batch)
            ({ w.server with validated := w.server.validated ++ [batch] }.submit goalId
              ⟨goal, .exposing attempt, cancelRequested⟩ batch inferenceJobId nowNs
              w.pool.queue) :=
          submit_hands_in (v := { w.server with validated := w.server.validated ++ [batch] })
            ⟨hstation.running, hstation.notQueued, hstation.next⟩ hwelcome
        simpa only [after, CaptureWorld.next, CaptureWorld.ofPair, expose, hrunning, hcaptured]
          using hhanded
  | _ => exact capture_idle h (by
      simp only [after, CaptureWorld.next, CaptureWorld.ofPair, expose, hrunning])

theorem capture_keeps [LawfulRuntime F] (h : w.Invariant F)
    (hadmits : w.Admits (.capture e context)) (hkeeps : w.KeepsBatch context e) :
    (w.capture e context).Invariant F := by
  have hphase : ∀ id phase, (CaptureWorld.mk w.server w.pool.queue).phaseOf id = some phase →
      ∃ r, w.server.running.get? id = some r ∧ r.phase = phase :=
    fun id phase hw => Option.map_eq_some_iff.mp hw
  cases e with
  | accept goalId goal => exact accept_keeps h hadmits
  | execute goalId disk =>
    obtain ⟨r, hrunning, hr⟩ := hphase goalId _ hadmits
    exact capture_settles h (execute_invariant h.server hrunning hr disk) rfl
      (blocked_at_of_phase hrunning (by rw [hr]; rfl))
      (execute_settles h.server hrunning hr disk) rfl rfl rfl rfl
  | resume goalId =>
    obtain ⟨r, hrunning, hr⟩ := hphase goalId _ hadmits
    have hentered := h.server.entered hrunning (by rw [hr]; rfl)
    have hresume : w.server.resume goalId = w.server.enterStation goalId r := by
      simp only [resume, hrunning]
    exact capture_settles h
      (show CaptureServer.Invariant (w.server.resume goalId) from
        hresume ▸ enter_station_invariant hentered) rfl
      (blocked_at_of_phase hrunning (by rw [hr]; rfl))
      (show Settles w.server (w.server.resume goalId) goalId none from
        hresume ▸ enter_station_settles hentered.in_station) rfl rfl rfl rfl
  | reserve goalId =>
    have hserver := reserve_invariant h.server goalId
    rcases reserve_settles h.server goalId with hsame | ⟨r, hrunning, hr, hsettles⟩
    · exact capture_idle h (by
        simp only [after, CaptureWorld.next, CaptureWorld.withServer, hsame])
    · exact capture_settles h hserver rfl (blocked_at_of_phase hrunning hr) hsettles
        rfl rfl rfl rfl
  | expose goalId outcome inferenceJobId nowNs => exact expose_keeps h hadmits hkeeps
  | retry goalId nowNs => exact retry_keeps h hkeeps
  | requestCancel goalId => exact request_cancel_keeps h goalId
  | cancelScope productId stationId =>
    exact capture_quiet h (next_invariant (w := ⟨w.server, w.pool.queue⟩) h.server
      (.cancelScope productId stationId) trivial) rfl rfl h.stations rfl rfl
  | requestShutdown =>
    exact capture_quiet h (next_invariant (w := ⟨w.server, w.pool.queue⟩) h.server
      .requestShutdown trivial) rfl rfl h.stations rfl rfl
  | node e =>
    exact capture_quiet h (next_invariant (w := ⟨w.server, w.pool.queue⟩) h.server (.node e)
      hadmits) rfl rfl h.stations rfl rfl
  | queue queue => exact hadmits.elim

theorem next_keeps [LawfulRuntime F] (h : w.Invariant F) {e : ImageStep F n m}
    (hadmits : w.Admits e) (hkeeps : w.KeepsImages e) : (w.next e).Invariant F := by
  cases e with
  | capture e context => exact capture_keeps h hadmits hkeeps
  | cancelInference message active context => exact cancel_keeps h hkeeps
  | lockProduct productId fifoSequence active context => exact lock_keeps h hkeeps
  | work i e result context =>
    obtain ⟨hcareful, hwanted, hstores, hcontext⟩ := hkeeps
    exact work_keeps h hadmits.2.1 hcareful hwanted hstores hcontext
  | acknowledge ack => exact h.set_server h.server h.stations rfl rfl rfl rfl fun _ hpaths => hpaths
  | initializeNodeResources capacity => exact reinitialize_keeps h capacity

/-- In a session in which no waiting job is dropped or canceled, no batch meets a closed queue or
a locked product, and the events of the others are stored, Log will delete every saved image that
is not on its way any more. -/
theorem saved_images_accounted [LawfulRuntime F] {node : Worker} {settings : CaptureSettings}
    {producer : LogProducer} {capacity : ℕ} {hworkers : 0 < n} {w : ImageWorld n m}
    (hrun : Execution next (fun (w : ImageWorld n m) (e : ImageStep F n m) =>
      w.Admits e ∧ w.KeepsImages e) (initial node settings producer capacity hworkers) w) :
    w.ImagesAccounted F :=
  (hrun.invariant (P := fun w : ImageWorld n m => w.Invariant F)
    (fun _ _ h he => next_keeps h he.1 he.2)
    (initial_invariant node settings producer capacity hworkers)).images_accounted

end

/-! ### A capture that comes through -/

section

instance (w : ImageWorld n m) (inferenceJobId : String) : Decidable (w.Unused inferenceJobId) :=
  inferInstanceAs (Decidable ((∀ i ≤ w.current, _) ∧ ∀ entry ∈ w.server.running.entries, _))

instance (w : ImageWorld n m) (e : ImageStep F n m) : Decidable (w.Admits e) := by
  apply e.casesOn (motive := fun t => Decidable (w.Admits t)) <;> intros
  case capture e context =>
    apply e.casesOn (motive := fun t => Decidable (w.Admits (.capture t context))) <;> intros <;>
      dsimp only [Admits] <;> infer_instance
  all_goals dsimp only [Admits]; infer_instance

instance (w : ImageWorld n m) (context : CallbackContext F) (goal : CaptureGoal)
    (batch : CaptureBatch) : Decidable (w.Excused context goal batch) :=
  inferInstanceAs (Decidable (∀ reason ∈ discardReasons, _))

def decideStoresAll (p : LogProducer) : (es : List (LogEmission F)) → Decidable (p.StoresAll es)
  | [] => isTrue trivial
  | e :: es =>
    haveI := decideStoresAll (p.emitDurableEvent e).2 es
    inferInstanceAs (Decidable (p.Stores e ∧ (p.emitDurableEvent e).2.StoresAll es))

instance (p : LogProducer) (es : List (LogEmission F)) : Decidable (p.StoresAll es) :=
  decideStoresAll p es

instance (v : CaptureServer) (queue : InferenceQueue) (r : RunningCapture) (job : InferenceJob)
    (excused : Prop) [Decidable excused] : Decidable (v.Welcome queue r job excused) :=
  inferInstanceAs (Decidable (queue.closed = false ∧
    r.goal.productId ∉ queue.canceled.lockedProducts ∧
      (queue.jobCanceled job = false ∧ queue.items.length < queue.capacity ∨
        if v.isScopeCanceled r.goal.productId r.goal.stationId then excused
        else r.cancelRequested = false)))

instance (w : ImageWorld n m) (context : CallbackContext F) (e : CaptureStep) :
    Decidable (w.KeepsBatch context e) := by
  apply e.casesOn (motive := fun t => Decidable (w.KeepsBatch context t)) <;> intros <;>
    dsimp only [KeepsBatch]
  case expose => split <;> [split <;> infer_instance; infer_instance]
  case retry => split <;> infer_instance
  all_goals infer_instance

instance (s : WorkerPool n m) (e : WorkerPool.PoolStep n m) : Decidable (Uncanceled s e) := by
  apply e.casesOn (motive := fun t => Decidable (Uncanceled s t)) <;> intros <;>
    dsimp only [Uncanceled] <;> infer_instance

instance (w : ImageWorld n m) (e : ImageStep F n m) : Decidable (w.KeepsImages e) := by
  apply e.casesOn (motive := fun t => Decidable (w.KeepsImages t)) <;> intros <;>
    dsimp only [KeepsImages] <;> infer_instance

def imageProducer : LogProducer where
  nodeId := "vision"
  nodeInstanceId := "instance-1"
  sessionId := "session-1"
  spoolOpen := true

def imageContext (logId : String) : CallbackContext ℤ where
  logId := logId
  createdAt := ""
  occurredAtNs := 0

def passedResult : StationInferenceResult ℤ where
  verdict := 1
  score := 5
  modelVersion := "v3"
  modelSha256 := ""
  viewVerdicts := [1]
  viewScores := [5]

def inspectedJob : InferenceJob :=
  ({ cameraIds := fun _ => ["cam-b"] } : CaptureSettings).inferenceJob
    (retriedGoal "2f1c7a52-9f5e-4c7b-8d41-6a0f5f6f3b11") retriedBatch "job-2"

def inspectedDigests : List (String × String) := [
  (imageProducer.payloadText (inspectedJob.resultEmission passedResult (imageContext "log-2")),
    "f1a9c08feab2bb0b88ba642affe0467f9fe2a4beff736d368de7dec57acfbe16")]

local instance wholeNumbers : Runtime ℤ := .whole inspectedDigests

local instance wholeLawful : LawfulRuntime ℤ := Runtime.whole_lawful inspectedDigests

/-- The capture is taken at the second attempt, and its job comes through. -/
def inspectedCapture : List (ImageStep ℤ 1 1) :=
  let worker : Fin 1 := ⟨0, Nat.one_pos⟩
  let goal (e : CaptureStep) : ImageStep ℤ 1 1 := .capture e (imageContext "log-1")
  let work (e : WorkerPool.PoolStep 1 1) : ImageStep ℤ 1 1 :=
    .work 0 e passedResult (imageContext "log-2")
  [ goal (.accept "goal-1" (retriedGoal "2f1c7a52-9f5e-4c7b-8d41-6a0f5f6f3b11")),
    goal (.execute "goal-1" {}), goal (.reserve "goal-1"), goal (.reserve "goal-1"),
    goal (.expose "goal-1" ⟨.error ⟨.packetLoss, "packet loss"⟩, fun _ => .ok ()⟩ "job-1" 10),
    goal (.expose "goal-1" ⟨.ok retriedBatch, fun _ => .ok ()⟩ "job-2" 20),
    work (.get worker), work (.checkCanceled worker), work (.load worker 30 .loaded),
    work (.checkCanceled worker), work (.infer worker 40 .result), work (.checkCanceled worker),
    work (.finish worker 50)]

theorem inspected_capture_accounted :
    (runTrace next (initial retriedNode { cameraIds := fun _ => ["cam-b"] } imageProducer 4
      Nat.one_pos : ImageWorld 1 1) inspectedCapture).ImagesAccounted ℤ :=
  saved_images_accounted (valid_trace_execution (by decide +kernel))

end

end ImageWorld

end InspectionLine
