import InspectionLine.CaptureOnce
import InspectionLine.SuccessfulRuns

/-! # Batches that wait for room in the queue

A batch waits while its goal is blocked. No other goal touches it: who leaves a station wakes a
goal that stands in line. -/
namespace InspectionLine

open SuccessfulRuns

def CapturePhase.blocked? : CapturePhase → Option (CaptureBatch × InferenceJob)
  | .blocked batch job => some (batch, job)
  | _ => none

namespace CaptureServer

def blockedAt (v : CaptureServer) (goalId : String) : Option (CaptureBatch × InferenceJob) :=
  (v.running.get? goalId).bind (·.phase.blocked?)

/-- A step of one goal after which it waits with `waiting`, and that hands nothing on. -/
structure Settles (v w : CaptureServer) (goalId : String)
    (waiting : Option (CaptureBatch × InferenceJob)) : Prop where
  blocked : w.blockedAt = Function.update v.blockedAt goalId waiting
  validated : w.validated = v.validated
  jobs : w.jobs = v.jobs
  discarded : w.discarded = v.discarded
  goals : w.goals = v.goals

/-- The goal has its station, and the next in line for it waits there. -/
structure InStation (v : CaptureServer) (goalId : String) (r : RunningCapture) : Prop where
  running : v.running.get? goalId = some r
  notQueued : r.phase ≠ .queued
  next : ∀ successor lock, (v.stationLocks r.goal.stationId).release = (some successor, lock) →
    v.Queued r.goal.stationId successor

variable {v w : CaptureServer} {goalId : String} {r : RunningCapture}

theorem Entered.in_station (h : Entered v goalId r) : InStation v goalId r where
  running := h.running
  notQueued := h.notQueued
  next _ _ hrelease := ((h.guards r.goal.stationId).hands_over (.inr ⟨rfl, rfl⟩) hrelease).1

theorem blocked_at_of_running (h : v.running.get? goalId = some r) :
    v.blockedAt goalId = r.phase.blocked? := by
  rw [blockedAt, h]
  rfl

theorem Settles.of_same {u : CaptureServer} {waiting : Option (CaptureBatch × InferenceJob)}
    (h : Settles u w goalId waiting) (hrunning : u.running = v.running)
    (hvalidated : u.validated = v.validated) (hjobs : u.jobs = v.jobs)
    (hdiscarded : u.discarded = v.discarded) (hgoals : u.goals = v.goals) :
    Settles v w goalId waiting where
  blocked := by
    have hsame : u.blockedAt = v.blockedAt := by
      unfold blockedAt
      rw [hrunning]
    rw [h.blocked, hsame]
  validated := h.validated.trans hvalidated
  jobs := h.jobs.trans hjobs
  discarded := h.discarded.trans hdiscarded
  goals := h.goals.trans hgoals

theorem reply_settles (values : CaptureValues) (status : GoalStatus) :
    Settles v (v.reply goalId r values status) goalId none := by
  refine ⟨?_, rfl, rfl, rfl, rfl⟩
  funext id
  simp only [blockedAt, reply, OrderedDict.get?_erase, Function.update_apply]
  split <;> rfl

theorem set_phase_settles (phase : CapturePhase) :
    Settles v (v.setPhase goalId r phase) goalId phase.blocked? := by
  refine ⟨?_, rfl, rfl, rfl, rfl⟩
  funext id
  simp only [blockedAt, setPhase, OrderedDict.get?_insert, Function.update_apply]
  split <;> rfl

/-- Leaving a station wakes a goal that waits for it, and no goal with a batch. -/
theorem finish_settles (h : InStation v goalId r) (values : CaptureValues) (status : GoalStatus) :
    Settles v (v.finish goalId r values status) goalId none := by
  have hreply : Settles v (v.reply goalId r values status) goalId none :=
    reply_settles values status
  unfold finish
  rcases hrelease : ((v.reply goalId r values status).stationLocks r.goal.stationId).release with
    ⟨_ | successor, lock⟩
  · rw [leave_station_of_none hrelease]
    exact ⟨hreply.blocked, rfl, rfl, rfl, rfl⟩
  · obtain ⟨waiter, hwaiter, -, hqueued⟩ := h.next successor lock hrelease
    have hother : successor ≠ goalId := by
      rintro rfl
      exact h.notQueued (Option.some.inj (h.running.symm.trans hwaiter) ▸ hqueued)
    rw [leave_station_of_some hrelease]
    refine ⟨?_, rfl, rfl, rfl, rfl⟩
    rw [← hreply.blocked]
    funext id
    simp only [blockedAt, OrderedDict.get?_modify]
    split
    · rename_i hid
      rw [hid, running_reply.mpr ⟨hwaiter, hother⟩]
      simp [CapturePhase.blocked?, hqueued]
    · rfl

theorem remember_settles (h : InStation v goalId r) (values : CaptureValues) :
    Settles v (v.rememberAndFinish goalId r values) goalId none := by
  unfold rememberAndFinish
  split
  · exact finish_settles h {} .aborted
  · rename_i captureResults _
    have hfinish := finish_settles (v := { v with captureResults })
      ⟨h.running, h.notQueued, h.next⟩ values .succeeded
    exact hfinish.of_same rfl rfl rfl rfl rfl

theorem enter_station_settles (h : InStation v goalId r) :
    Settles v (v.enterStation goalId r) goalId none := by
  unfold enterStation
  split
  · exact finish_settles h ..
  split
  · exact finish_settles h ..
  · simp only
    split
    · rename_i completed _
      have hremember := remember_settles (v := { v with
        captureIdentities := v.captureIdentities.insert r.goal.captureId r.goal.identity })
        ⟨h.running, h.notQueued, h.next⟩ completed
      exact hremember.of_same rfl rfl rfl rfl rfl
    · exact (set_phase_settles (v := { v with
        captureIdentities := v.captureIdentities.insert r.goal.captureId r.goal.identity })
        _).of_same rfl rfl rfl rfl rfl

theorem finish_uncaptured_settles (h : InStation v goalId r) (errorCode : ErrorCode)
    (reason : String) : Settles v (v.finishUncaptured goalId r errorCode reason) goalId none := by
  unfold finishUncaptured
  split
  · exact finish_settles h ..
  · exact finish_settles h ..

theorem start_attempt_settles (h : InStation v goalId r) (attempt : ℕ) (errorCode : ErrorCode)
    (reason : String) :
    Settles v (v.startAttempt goalId r attempt errorCode reason) goalId none := by
  unfold startAttempt
  split
  · exact finish_uncaptured_settles h ..
  split
  · exact finish_uncaptured_settles h ..
  · exact set_phase_settles _

/-- Past the checks of the command: the disk may stop the goal, and the station may be taken. -/
theorem lock_station_settles (h : Invariant v) (hrunning : v.running.get? goalId = some r)
    (hphase : r.phase = .accepted) :
    Settles v (
      let (entered, lock) := (v.stationLocks r.goal.stationId).enter goalId
      let v := { v with stationLocks := Function.update v.stationLocks r.goal.stationId lock }
      if entered then v.enterStation goalId r else v.setPhase goalId r .queued) goalId none := by
  rcases henter : (v.stationLocks r.goal.stationId).enter goalId with ⟨_ | _, lock⟩
  · exact (set_phase_settles (v := { v with
      stationLocks := Function.update v.stationLocks r.goal.stationId lock }) _).of_same
        rfl rfl rfl rfl rfl
  · have hentered := enter_lock_invariant h hrunning hphase henter
    exact (enter_station_settles hentered.in_station).of_same rfl rfl rfl rfl rfl

theorem execute_settles (h : Invariant v) (hrunning : v.running.get? goalId = some r)
    (hphase : r.phase = .accepted) (disk : DiskCheck) :
    Settles v (v.execute goalId disk) goalId none := by
  simp only [execute, hrunning]
  split
  · exact reply_settles ..
  have hinspected := inspect_invariant h r.goal.command.commandId r.goal.command.payloadDigest
  generalize (v.captureResults.inspect r.goal.command.commandId
    r.goal.command.payloadDigest).2 = captureResults at hinspected
  split
  · exact (reply_settles _ _).of_same rfl rfl rfl rfl rfl
  · exact (reply_settles _ _).of_same rfl rfl rfl rfl rfl
  · obtain ⟨node, hnode⟩ : ∃ node, (if disk.degrades then
        { v with captureResults, node := { v.node with healthState := .degraded } }
        else { v with captureResults }) = { v with captureResults, node } := by
      split
      · exact ⟨_, rfl⟩
      · exact ⟨v.node, rfl⟩
    have hdisk : Invariant { v with captureResults, node } :=
      hinspected.same rfl rfl (hinspected.records.same rfl rfl rfl rfl rfl rfl)
    simp only [hnode]
    split
    · exact (reply_settles _ _).of_same rfl rfl rfl rfl rfl
    · exact (lock_station_settles hdisk hrunning hphase).of_same rfl rfl rfl rfl rfl

theorem reserve_settles (h : Invariant v) (goalId : String) :
    v.reserve goalId = v ∨ ∃ r, v.running.get? goalId = some r ∧ r.phase.blocked? = none ∧
      Settles v (v.reserve goalId) goalId none := by
  unfold reserve
  split
  · rename_i goal cameraIds cancelRequested hrunning
    have hstation := (h.entered hrunning rfl).in_station
    refine .inr ⟨_, hrunning, rfl, ?_⟩
    split
    · exact start_attempt_settles hstation ..
    split
    · exact set_phase_settles _
    · exact finish_settles hstation ..
  · exact .inl rfl

/-! ### A batch that is handed in -/

def discardReasons : List String := [
  "capture completed after cancellation; canonical files retained for LogNode",
  "inference scope canceled while waiting for queue capacity"]

/-- What becomes of a batch and its job: the queue takes the job, the batch is discarded, which
is `excused`, or it waits. -/
inductive Handed (v : CaptureServer) (queue : InferenceQueue) (goalId : String)
    (r : RunningCapture) (batch : CaptureBatch) (job : InferenceJob) (nowNs : ℤ)
    (excused : Prop) : CaptureServer × InferenceQueue → Prop where
  | taken {w : CaptureServer} {queue' : InferenceQueue} {accepted : InferenceJob}
      (accepts : queue.tryEnqueue job nowNs = some (accepted, queue'))
      (settles : Settles { v with jobs := v.jobs ++ [accepted] } w goalId none) :
      Handed v queue goalId r batch job nowNs excused (w, queue')
  | discarded {w : CaptureServer} (reason : String) (known : reason ∈ discardReasons)
      (excuse : excused)
      (settles : Settles (v.emitCaptureDiscarded r.goal batch reason) w goalId none) :
      Handed v queue goalId r batch job nowNs excused (w, queue)
  | waits {w : CaptureServer} (settles : Settles v w goalId (some (batch, job))) :
      Handed v queue goalId r batch job nowNs excused (w, queue)

/-- The queue is open and the product is not locked in it; and it has room, or a canceled scope
excuses the goal, or the goal is not to be canceled. -/
def Welcome (v : CaptureServer) (queue : InferenceQueue) (r : RunningCapture)
    (job : InferenceJob) (excused : Prop) : Prop :=
  queue.closed = false ∧ r.goal.productId ∉ queue.canceled.lockedProducts ∧
    (queue.jobCanceled job = false ∧ queue.items.length < queue.capacity ∨
      if v.isScopeCanceled r.goal.productId r.goal.stationId then excused
      else r.cancelRequested = false)

theorem enqueue_hands_in (h : InStation v goalId r) (batch : CaptureBatch) {job : InferenceJob}
    (nowNs : ℤ) {queue : InferenceQueue} {excused : Prop}
    (hwelcome : v.Welcome queue r job excused) :
    Handed v queue goalId r batch job nowNs excused
      (v.enqueue goalId r batch job nowNs queue) := by
  obtain ⟨hopen, hunlocked, hwanted⟩ := hwelcome
  unfold enqueue
  split
  · rename_i accepted queue' haccepts
    refine .taken haccepts ?_
    have hremember := remember_settles (v := { v with
      jobs := v.jobs ++ [accepted]
      completedCaptures := v.completedCaptures.insert r.goal.key
        (batch.successValues job.inferenceJobId) }) ⟨h.running, h.notQueued, h.next⟩
      (batch.successValues job.inferenceJobId)
    exact hremember.of_same rfl rfl rfl rfl rfl
  · rename_i hrefused
    have hfull : ¬ (queue.jobCanceled job = false ∧ queue.items.length < queue.capacity) := by
      rintro ⟨hfree, hroom⟩
      unfold InferenceQueue.tryEnqueue at hrefused
      rw [dif_neg (by simp [hopen, hfree, hroom])] at hrefused
      cases hrefused
    have hwanted := hwanted.resolve_left hfull
    unfold refuse
    rw [if_neg (by rw [hopen]; exact Bool.false_ne_true), if_neg hunlocked]
    by_cases hscope : v.isScopeCanceled r.goal.productId r.goal.stationId = true
    · rw [if_pos hscope] at hwanted
      rw [if_pos hscope]
      exact .discarded _ (by simp [discardReasons]) hwanted (finish_settles
        (v := v.emitCaptureDiscarded r.goal batch _) ⟨h.running, h.notQueued, h.next⟩ _ _)
    · rw [if_neg hscope] at hwanted
      rw [if_neg hscope, if_neg (by rw [hwanted]; exact Bool.false_ne_true)]
      exact .waits (set_phase_settles _)

/-- A batch that has just been validated; `v` knows of it already. -/
theorem submit_hands_in (h : InStation v goalId r) {batch : CaptureBatch} {inferenceJobId : String}
    {nowNs : ℤ} {queue : InferenceQueue} {excused : Prop}
    (hwelcome : if r.cancelRequested || v.isScopeCanceled r.goal.productId r.goal.stationId
      then excused
      else queue.closed = false ∧ r.goal.productId ∉ queue.canceled.lockedProducts) :
    Handed v queue goalId r batch (v.settings.inferenceJob r.goal batch inferenceJobId) nowNs
      excused (v.submit goalId r batch inferenceJobId nowNs queue) := by
  unfold submit
  split
  · rename_i hcanceled
    rw [if_pos hcanceled] at hwelcome
    exact .discarded _ (by simp [discardReasons]) hwelcome (finish_settles
      (v := v.emitCaptureDiscarded r.goal batch _) ⟨h.running, h.notQueued, h.next⟩ _ _)
  · rename_i hwanted
    rw [if_neg hwanted] at hwelcome
    obtain ⟨hopen, hunlocked⟩ := hwelcome
    rw [Bool.or_eq_true, not_or, Bool.not_eq_true] at hwanted
    exact enqueue_hands_in h _ _ ⟨hopen, hunlocked, .inr ((if_neg hwanted.2).mpr hwanted.1)⟩

end CaptureServer

/-! ### The files of a batch have names -/

theorem ImageArtifact.named_of_valid {image : ImageArtifact} {format : String}
    {file : ImageArtifact → Except CaptureError Unit} (h : image.validate format file = .ok ()) :
    image.filePath ≠ "" := by
  simp only [ImageArtifact.validate, bind_ok] at h
  obtain ⟨_, _, _, _, _, _, h⟩ := h
  split at h
  · cases h
  · simp only [bind_ok] at h
    obtain ⟨_, habsolute, _⟩ := h
    have hpath := check_capture_ok habsolute
    intro hempty
    rw [hempty] at hpath
    cases hpath

theorem captured_named {settings : CaptureSettings} {goal : CaptureGoal} {attempt : ℕ}
    {outcome : AttemptOutcome} {batch : CaptureBatch}
    (h : settings.captureAttempt goal attempt outcome = .ok batch) : "" ∉ batch.filePaths := by
  unfold CaptureSettings.captureAttempt at h
  split at h
  · cases h
  split at h
  · cases h
  split at h
  · cases h
  · rename_i captured hexamined _
    cases h
    simp only [CaptureSettings.examine, CaptureBatch.validate, bind_ok] at hexamined
    obtain ⟨_, _, _, ⟨_, _, _, _, _, _, _, _, _, _, _, _, _, _, _, _, himages⟩, _⟩ := hexamined
    intro hempty
    obtain ⟨image, himage, hpath⟩ := List.mem_map.mp hempty
    exact ImageArtifact.named_of_valid (for_m_ok.mp himages image himage) hpath

end InspectionLine
