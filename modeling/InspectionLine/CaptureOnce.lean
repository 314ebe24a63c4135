import InspectionLine.CaptureRecords
import InspectionLine.InputRuns

/-! # One inference job for a capture

In one session the goals of a station take turns, and what has been completed is found by every
goal that comes later, whatever its command. Only the sender's digest ties an answer that is found
by its command to the goal that asks. -/
namespace InspectionLine

open InputRuns

/-- The queue is shared with the workers and can be replaced by a new one. -/
structure CaptureWorld where
  server : CaptureServer
  queue : InferenceQueue

inductive CaptureStep where
  | accept (goalId : String) (goal : CaptureGoal)
  | execute (goalId : String) (disk : DiskCheck)
  | resume (goalId : String)
  | reserve (goalId : String)
  | expose (goalId : String) (outcome : AttemptOutcome) (inferenceJobId : String) (nowNs : ℤ)
  | retry (goalId : String) (nowNs : ℤ)
  | requestCancel (goalId : String)
  | cancelScope (productId : String) (stationId : Option ℕ)
  | requestShutdown
  | node (e : NodeEvent)
  | queue (queue : InferenceQueue)

namespace CaptureWorld

def withServer (w : CaptureWorld) (server : CaptureServer) : CaptureWorld := { w with server }

def ofPair (pair : CaptureServer × InferenceQueue) : CaptureWorld := ⟨pair.1, pair.2⟩

def next (w : CaptureWorld) : CaptureStep → CaptureWorld
  | .accept goalId goal => w.withServer (w.server.accept goalId goal)
  | .execute goalId disk => w.withServer (w.server.execute goalId disk)
  | .resume goalId => w.withServer (w.server.resume goalId)
  | .reserve goalId => w.withServer (w.server.reserve goalId)
  | .expose goalId outcome inferenceJobId nowNs =>
    ofPair (w.server.expose goalId outcome inferenceJobId nowNs w.queue)
  | .retry goalId nowNs => ofPair (w.server.retry goalId nowNs w.queue)
  | .requestCancel goalId => w.withServer (w.server.requestCancel goalId)
  | .cancelScope productId stationId => w.withServer (w.server.cancelScope productId stationId)
  | .requestShutdown => w.withServer { w.server with shutdownRequested := true }
  | .node e => w.withServer { w.server with node := w.server.node.handle e }
  | .queue queue => { w with queue }

def phaseOf (w : CaptureWorld) (goalId : String) : Option CapturePhase :=
  (w.server.running.get? goalId).map (·.phase)

/-- Goal handles are unique, a goal goes on where it stands, and the session does not change. -/
def Admits (w : CaptureWorld) : CaptureStep → Prop
  | .accept goalId _ => w.server.running.get? goalId = none
  | .execute goalId _ => w.phaseOf goalId = some .accepted
  | .resume goalId => w.phaseOf goalId = some .entered
  | .node e => (w.server.node.handle e).sessionId = w.server.node.sessionId
  | _ => True

instance (w : CaptureWorld) (e : CaptureStep) : Decidable (Admits w e) := by
  cases e <;> dsimp only [Admits] <;> infer_instance

def initial (node : Worker) (settings : CaptureSettings) (queue : InferenceQueue) :
    CaptureWorld := ⟨{ node, settings }, queue⟩

abbrev SessionRun : CaptureWorld → CaptureWorld → Prop := Execution next Admits

end CaptureWorld

namespace CaptureServer

/-- The digests tell the payloads of the accepted goals apart. -/
def DigestsTellApart (v : CaptureServer) : Prop :=
  ∀ a ∈ v.goals, ∀ b ∈ v.goals, a.command.payloadDigest = b.command.payloadDigest →
    a.payload = b.payload

/-- One job at most for a capture, every success says which one it is, and no capture id succeeds
for two captures. A success is for the capture that was asked for, where the digests are those of
the payloads. -/
structure ExactlyOnce (v : CaptureServer) : Prop where
  once : ∀ key, (v.jobs.filter (·.captureKey = key)).length ≤ 1
  same : ∀ a ∈ v.replies, a.values.success = true → ∃ job ∈ v.jobs,
    job.captureKey = a.values.key ∧ a.values.frameBatchId = job.frameBatchId ∧
      a.values.inferenceJobId = job.inferenceJobId
  exclusive : ∀ a ∈ v.replies, ∀ b ∈ v.replies, a.values.success = true →
    b.values.success = true → a.values.captureId = b.values.captureId →
      a.values.productId = b.values.productId ∧ a.values.stationId = b.values.stationId
  asked : v.DigestsTellApart → ∀ a ∈ v.replies, a.values.success = true →
    a.values.key = a.goal.key

end CaptureServer

namespace CaptureServer

variable {v : CaptureServer} {goalId : String} {r : RunningCapture}

/-! ### The steps of a goal -/

theorem Invariant.entered (h : Invariant v) (hrunning : v.running.get? goalId = some r)
    (hinside : r.phase.inside = true) : Entered v goalId r where
  running := hrunning
  notQueued hqueued := by rw [hqueued] at hinside; cases hinside
  guards s := by
    refine (h.guards s).mono ?_ fun _ _ ha => ha
    rintro a (ha | ⟨hs, rfl⟩)
    · exact ha
    · exact ⟨r, hrunning, hs.symm, hinside⟩
  records := h.records.retrack fun id s hs => h.records.tracked id s hs.1
  known := (h.records.tracked goalId r hrunning).known

theorem Invariant.atWork (h : Invariant v) (hrunning : v.running.get? goalId = some r)
    (hworking : r.phase.working = true) : AtWork v goalId r where
  toEntered := h.entered hrunning (CapturePhase.inside_of_working hworking)
  identified := (h.records.tracked goalId r hrunning).identified hworking
  unfinished := (h.records.tracked goalId r hrunning).unfinished hworking

/-- Bookkeeping that no lock, no goal and no record depends on. -/
theorem Invariant.same {w : CaptureServer} (h : Invariant v)
    (hlocks : w.stationLocks = v.stationLocks) (hrunning : w.running = v.running)
    (hrecords : w.Records fun id r => v.running.get? id = some r) : Invariant w where
  guards s := by
    rw [hlocks]
    refine (h.guards s).mono (fun a ⟨t, ht, hat⟩ => ⟨t, hrunning ▸ ht, hat⟩) ?_
    exact fun a _ ⟨t, ht, hat⟩ => ⟨t, hrunning ▸ ht, hat⟩
  records := by rwa [hrunning]

theorem reply_invariant (h : Invariant v) (hrunning : v.running.get? goalId = some r)
    (hphase : r.phase = .accepted) {values : CaptureValues}
    (horigin : values.success = true → v.Origin r.goal.command.payloadDigest values)
    (status : GoalStatus) : Invariant (v.reply goalId r values status) where
  guards s := by
    refine (h.guards s).mono ?_ ?_
    · exact fun a ⟨t, ht, hat⟩ => ⟨t, (running_reply.mp ht).1, hat⟩
    · rintro a - ⟨t, ht, hat, hqueued⟩
      refine ⟨t, running_reply.mpr ⟨ht, ?_⟩, hat, hqueued⟩
      rintro rfl
      rw [← Option.some.inj (hrunning.symm.trans ht), hphase] at hqueued
      cases hqueued
  records := by
    have hreply : (v.reply goalId r values status).Records _ :=
      records_reply h.records (h.records.tracked goalId r hrunning).known horigin status
    exact hreply.retrack fun id s hs => hreply.tracked id s (running_reply.mp hs).1

theorem inspect_invariant (h : Invariant v) (commandId digest : String) :
    Invariant { v with captureResults := (v.captureResults.inspect commandId digest).2 } := by
  refine h.same rfl rfl ⟨fun id s hs => ?_, h.records.owned, h.records.completed,
    h.records.finished, h.records.once, fun other d values hget => ?_, h.records.answered⟩
  · have hold := h.records.tracked id s hs
    exact ⟨hold.known, hold.identified, hold.unfinished, hold.prepared⟩
  · rw [IdempotencyStore.get?_inspect] at hget
    exact h.records.stored other d values hget

theorem queue_invariant (h : Invariant v) (hrunning : v.running.get? goalId = some r)
    (hphase : r.phase = .accepted) {lock : ExecutorLock String}
    (henter : (v.stationLocks r.goal.stationId).enter goalId = (false, lock)) :
    Invariant ({ v with
      stationLocks := Function.update v.stationLocks r.goal.stationId lock }.setPhase
        goalId r .queued) := by
  have hnew : ¬ v.Queued r.goal.stationId goalId := by
    rintro ⟨t, ht, -, hqueued⟩
    rw [← Option.some.inj (hrunning.symm.trans ht), hphase] at hqueued
    cases hqueued
  have hrun : ∀ id, (v.running.insert goalId { r with phase := .queued }).get? id =
      if id = goalId then some { r with phase := .queued } else v.running.get? id :=
    fun id => OrderedDict.get?_insert ..
  have hinside : ∀ s a, Inside ({ v with
      stationLocks := Function.update v.stationLocks r.goal.stationId lock }.setPhase
        goalId r .queued) s a → v.Inside s a := by
    rintro s a ⟨t, ht, hat, hin⟩
    simp only [setPhase, hrun] at ht
    split at ht
    · cases ht
      cases hin
    · exact ⟨t, ht, hat, hin⟩
  have hqueued : ∀ s a, v.Queued s a → Queued ({ v with
      stationLocks := Function.update v.stationLocks r.goal.stationId lock }.setPhase
        goalId r .queued) s a := by
    rintro s a ⟨t, ht, hat, hq⟩
    refine ⟨t, ?_, hat, hq⟩
    simp only [setPhase, hrun]
    split
    · rename_i ha
      rw [ha, hrunning] at ht
      rw [← Option.some.inj ht, hphase] at hq
      cases hq
    · exact ht
  constructor
  case guards =>
    intro s
    by_cases hs : s = r.goal.stationId
    · subst hs
      simp only [setPhase, Function.update_self]
      refine ((h.guards _).waits henter hnew).mono (hinside _) ?_
      rintro a - (ha | rfl)
      · exact hqueued _ a ha
      · exact ⟨{ r with phase := .queued }, by simp [hrun], rfl, rfl⟩
    · simp only [setPhase, Function.update_of_ne hs]
      exact (h.guards s).mono (hinside s) fun a _ ha => hqueued s a ha
  case records =>
    have hsame : Records ({ v with
      stationLocks := Function.update v.stationLocks r.goal.stationId lock }.setPhase
        goalId r .queued) _ := h.records.same rfl rfl rfl rfl rfl rfl
    refine hsame.retrack fun id s hs => ?_
    simp only [setPhase, hrun] at hs
    split at hs
    · cases hs
      exact tracked_idle (hsame.tracked goalId r hrunning).known rfl
    · exact hsame.tracked id s hs

theorem enter_lock_invariant (h : Invariant v) (hrunning : v.running.get? goalId = some r)
    (hphase : r.phase = .accepted) {lock : ExecutorLock String}
    (henter : (v.stationLocks r.goal.stationId).enter goalId = (true, lock)) :
    Entered { v with stationLocks := Function.update v.stationLocks r.goal.stationId lock }
      goalId r where
  running := hrunning
  notQueued hqueued := by rw [hphase] at hqueued; cases hqueued
  guards s := by
    by_cases hs : s = r.goal.stationId
    · subst hs
      simp only [Function.update_self]
      exact ((h.guards _).enters henter).mono (fun a ha => ha.imp_right (·.2)) fun _ _ ha => ha
    · simp only [Function.update_of_ne hs]
      exact (h.guards s).mono (fun a ha => ha.resolve_right fun hb => hs hb.1) fun _ _ ha => ha
  records := (h.records.retrack fun id s hs => h.records.tracked id s hs.1).same
    rfl rfl rfl rfl rfl rfl
  known := (h.records.tracked goalId r hrunning).known

theorem execute_invariant (h : Invariant v) (hrunning : v.running.get? goalId = some r)
    (hphase : r.phase = .accepted) (disk : DiskCheck) : Invariant (v.execute goalId disk) := by
  simp only [execute, hrunning]
  split
  · exact reply_invariant h hrunning hphase (fun hs => absurd hs Bool.false_ne_true) _
  have hinspected := inspect_invariant h r.goal.command.commandId r.goal.command.payloadDigest
  rcases v.captureResults.inspect_cases r.goal.command.commandId r.goal.command.payloadDigest with
    ⟨-, hkind⟩ | ⟨d, values, -, -, hkind⟩ | ⟨values, hstored, hkind⟩
  · simp only [hkind]
    generalize (v.captureResults.inspect r.goal.command.commandId
      r.goal.command.payloadDigest).2 = captureResults at hinspected ⊢
    have hdisk : Invariant (if disk.degrades then
        { v with captureResults, node := { v.node with healthState := .degraded } }
        else { v with captureResults }) := by
      split
      · exact hinspected.same rfl rfl (hinspected.records.same rfl rfl rfl rfl rfl rfl)
      · exact hinspected
    have hstill : (if disk.degrades then
        { v with captureResults, node := { v.node with healthState := .degraded } }
        else { v with captureResults }).running.get? goalId = some r := by
      split <;> exact hrunning
    generalize (if disk.degrades then
        { v with captureResults, node := { v.node with healthState := .degraded } }
        else { v with captureResults }) = w at hdisk hstill ⊢
    split
    · exact reply_invariant hdisk hstill hphase (fun hs => absurd hs Bool.false_ne_true) _
    · rcases henter : (w.stationLocks r.goal.stationId).enter goalId with ⟨_ | _, lock⟩
      · exact queue_invariant hdisk hstill hphase henter
      · exact enter_station_invariant (enter_lock_invariant hdisk hstill hphase henter)
  · simp only [hkind]
    exact reply_invariant hinspected hrunning hphase (fun hs => absurd hs Bool.false_ne_true) _
  · simp only [hkind]
    exact reply_invariant hinspected hrunning hphase
      (fun _ => h.records.stored _ _ values hstored) _

theorem finish_uncaptured_invariant (h : Entered v goalId r) (errorCode : ErrorCode)
    (reason : String) : Invariant (v.finishUncaptured goalId r errorCode reason) := by
  unfold finishUncaptured
  split
  · exact finish_failed h rfl _
  · exact finish_failed h rfl _

theorem start_attempt_invariant (h : AtWork v goalId r) (attempt : ℕ) (errorCode : ErrorCode)
    (reason : String) : Invariant (v.startAttempt goalId r attempt errorCode reason) := by
  unfold startAttempt
  split
  · exact finish_uncaptured_invariant h.toEntered ..
  split
  · exact finish_uncaptured_invariant h.toEntered ..
  · exact set_phase_invariant h.toEntered (h.tracked fun _ _ hphase => nomatch hphase)

theorem reserve_invariant (h : Invariant v) (goalId : String) : Invariant (v.reserve goalId) := by
  unfold reserve
  split
  · rename_i goal cameraIds cancelRequested hrunning
    have hwork := h.atWork hrunning rfl
    split
    · exact start_attempt_invariant hwork ..
    split
    · exact set_phase_invariant hwork.toEntered (hwork.tracked fun _ _ hphase => nomatch hphase)
    · exact finish_failed hwork.toEntered rfl _
  · exact h

theorem AtWork.keep {w : CaptureServer} (h : AtWork v goalId r) (hentered : Entered w goalId r)
    (hidentities : w.captureIdentities = v.captureIdentities)
    (hcompleted : w.completedCaptures = v.completedCaptures) : AtWork w goalId r where
  toEntered := hentered
  identified := hidentities ▸ h.identified
  unfinished := hcompleted ▸ h.unfinished

theorem captured_key {settings : CaptureSettings} {goal : CaptureGoal} {attempt : ℕ}
    {outcome : AttemptOutcome} {batch : CaptureBatch}
    (h : settings.captureAttempt goal attempt outcome = .ok batch) :
    (batch.productId, batch.stationId, batch.captureId) = goal.key := by
  unfold CaptureSettings.captureAttempt at h
  split at h
  · cases h
  split at h
  · cases h
  split at h
  · cases h
  · rename_i captured hexamined _
    cases h
    simp only [CaptureSettings.examine] at hexamined
    cases hcheck : checkCapture (batch.productId = goal.productId &&
        batch.stationId = goal.stationId && batch.captureId = goal.captureId &&
        batch.attempt = attempt) "capture backend returned mismatched identity" with
    | error e =>
      rw [hcheck] at hexamined
      cases hexamined
    | ok u =>
      have hsame := check_capture_ok hcheck
      simp only [Bool.and_eq_true, decide_eq_true_eq] at hsame
      simp only [CaptureGoal.key, hsame]

theorem submit_invariant (h : AtWork v goalId r) {batch : CaptureBatch}
    (hkey : (batch.productId, batch.stationId, batch.captureId) = r.goal.key)
    (inferenceJobId : String) (nowNs : ℤ) (queue : InferenceQueue) :
    Invariant (v.submit goalId r batch inferenceJobId nowNs queue).1 := by
  unfold submit
  split
  · exact finish_failed (emit_discarded_entered h.toEntered ..) rfl _
  · exact enqueue_invariant h ⟨hkey, rfl, rfl⟩ nowNs queue

theorem expose_invariant (h : Invariant v) (goalId : String) (outcome : AttemptOutcome)
    (inferenceJobId : String) (nowNs : ℤ) (queue : InferenceQueue) :
    Invariant (v.expose goalId outcome inferenceJobId nowNs queue).1 := by
  unfold expose
  split
  · rename_i goal attempt cancelRequested hrunning
    have hwork := h.atWork hrunning rfl
    split
    · rename_i batch hcaptured
      refine submit_invariant (v := { v with validated := v.validated ++ [batch] })
        (hwork.keep (hwork.toEntered.keep rfl rfl rfl ?_) rfl rfl) (captured_key hcaptured) ..
      exact hwork.records.same rfl rfl rfl rfl rfl rfl
    · rename_i failure _
      refine start_attempt_invariant ?_ ..
      split
      · exact hwork.keep (emit_discarded_entered hwork.toEntered ..) rfl rfl
      · exact hwork
  · exact h

theorem retry_invariant (h : Invariant v) (goalId : String) (nowNs : ℤ) (queue : InferenceQueue) :
    Invariant (v.retry goalId nowNs queue).1 := by
  unfold retry
  split
  · rename_i goal batch job cancelRequested hrunning
    exact enqueue_invariant (h.atWork hrunning rfl)
      ((h.records.tracked goalId _ hrunning).prepared batch job rfl) nowNs queue
  · exact h

theorem accept_invariant (h : Invariant v) (hnew : v.running.get? goalId = none)
    (goal : CaptureGoal) : Invariant (v.accept goalId goal) := by
  unfold accept
  split
  · have hrun : ∀ id s, (v.running.insert goalId { goal }).get? id = some s →
        v.running.get? id = some s ∨ s = { goal } := by
      intro id s hs
      rw [OrderedDict.get?_insert] at hs
      split at hs
      · cases hs
        exact .inr rfl
      · exact .inl hs
    have hold : ∀ id s, v.running.get? id = some s →
        (v.running.insert goalId { goal }).get? id = some s := by
      intro id s hs
      rw [OrderedDict.get?_insert, if_neg, hs]
      rintro rfl
      rw [hnew] at hs
      cases hs
    have horigin : ∀ digest values, v.Origin digest values →
        Origin { v with
          running := v.running.insert goalId { goal }, goals := v.goals ++ [goal] } digest
          values := by
      rintro _ _ ⟨g, hg, hrest⟩
      exact ⟨g, List.mem_append_left _ hg, hrest⟩
    constructor
    case guards =>
      intro s
      refine (h.guards s).mono ?_ ?_
      · rintro a ⟨t, ht, hat, hin⟩
        rcases hrun a t ht with ht | rfl
        · exact ⟨t, ht, hat, hin⟩
        · cases hin
      · rintro a - ⟨t, ht, hat⟩
        exact ⟨t, hold a t ht, hat⟩
    case records =>
      refine ⟨?_, h.records.owned, h.records.completed, h.records.finished, h.records.once,
        fun commandId digest values hget =>
          horigin _ _ (h.records.stored commandId digest values hget),
        fun a ha => ⟨List.mem_append_left _ (h.records.answered a ha).1, fun hs =>
          horigin _ _ ((h.records.answered a ha).2 hs)⟩⟩
      intro id s hs
      rcases hrun id s hs with hs | rfl
      · have htracked := h.records.tracked id s hs
        exact ⟨List.mem_append_left _ htracked.known, htracked.identified, htracked.unfinished,
          htracked.prepared⟩
      · exact tracked_idle (List.mem_append_right _ (List.mem_singleton_self _)) rfl
  · exact h

theorem request_cancel_invariant (h : Invariant v) (goalId : String) :
    Invariant (v.requestCancel goalId) := by
  have hrun : ∀ id s, (v.requestCancel goalId).running.get? id = some s →
      ∃ t, v.running.get? id = some t ∧ s.goal = t.goal ∧ s.phase = t.phase := by
    intro id s hs
    simp only [requestCancel, OrderedDict.get?_modify] at hs
    split at hs
    · obtain ⟨t, ht, rfl⟩ := Option.map_eq_some_iff.mp hs
      exact ⟨t, ht, rfl, rfl⟩
    · exact ⟨s, hs, rfl, rfl⟩
  have hback : ∀ id t, v.running.get? id = some t →
      ∃ s, (v.requestCancel goalId).running.get? id = some s ∧ s.goal = t.goal ∧
        s.phase = t.phase := by
    intro id t ht
    simp only [requestCancel, OrderedDict.get?_modify]
    split
    · exact ⟨{ t with cancelRequested := true }, by rw [ht]; rfl, rfl, rfl⟩
    · exact ⟨t, ht, rfl, rfl⟩
  constructor
  case guards =>
    intro s
    refine (h.guards s).mono ?_ ?_
    · rintro a ⟨t, ht, hat, hin⟩
      obtain ⟨u, hu, hgoal, hphase⟩ := hrun a t ht
      exact ⟨u, hu, hgoal ▸ hat, hphase ▸ hin⟩
    · rintro a - ⟨t, ht, hat, hqueued⟩
      obtain ⟨u, hu, hgoal, hphase⟩ := hback a t ht
      exact ⟨u, hu, hgoal ▸ hat, hphase ▸ hqueued⟩
  case records =>
    have hsame : (v.requestCancel goalId).Records _ := h.records.same rfl rfl rfl rfl rfl rfl
    refine hsame.retrack fun id s hs => ?_
    obtain ⟨t, ht, hgoal, hphase⟩ := hrun id s hs
    exact (hsame.tracked id t ht).of_phase hgoal fun _ => hphase

/-- A step lemma: whatever happens next, the records agree with each other. -/
theorem next_invariant {w : CaptureWorld} (h : Invariant w.server) (e : CaptureStep)
    (he : w.Admits e) : Invariant (w.next e).server := by
  have hphase : ∀ goalId phase, w.phaseOf goalId = some phase →
      ∃ r, w.server.running.get? goalId = some r ∧ r.phase = phase := fun goalId phase hw =>
    Option.map_eq_some_iff.mp hw
  cases e with
  | accept goalId goal => exact accept_invariant h he goal
  | execute goalId disk =>
    obtain ⟨r, hrunning, hr⟩ := hphase goalId _ he
    exact execute_invariant h hrunning hr disk
  | resume goalId =>
    obtain ⟨r, hrunning, hr⟩ := hphase goalId _ he
    simp only [CaptureWorld.next, CaptureWorld.withServer, resume, hrunning]
    exact enter_station_invariant (h.entered hrunning (by rw [hr]; rfl))
  | reserve goalId => exact reserve_invariant h goalId
  | expose goalId outcome inferenceJobId nowNs => exact expose_invariant h ..
  | retry goalId nowNs => exact retry_invariant h ..
  | requestCancel goalId => exact request_cancel_invariant h goalId
  | cancelScope productId stationId =>
    exact h.same rfl rfl (h.records.same rfl rfl rfl rfl rfl rfl)
  | requestShutdown => exact h.same rfl rfl (h.records.same rfl rfl rfl rfl rfl rfl)
  | node e => exact h.same rfl rfl (h.records.same rfl rfl rfl rfl rfl rfl)
  | queue queue => exact h

theorem Records.answer_completed {active : String → RunningCapture → Prop} (h : v.Records active)
    {a : CaptureReply} (ha : a ∈ v.replies) (hs : a.values.success = true) :
    v.completedCaptures.get? a.values.key = some a.values := by
  obtain ⟨goal, -, -, hdone⟩ := (h.answered a ha).2 hs
  rwa [(h.completed _ _ hdone).1]

theorem capture_exactly_once {node : Worker} {settings : CaptureSettings} {queue : InferenceQueue}
    {w : CaptureWorld} (hrun : CaptureWorld.SessionRun (.initial node settings queue) w) :
    w.server.ExactlyOnce := by
  have h : Invariant w.server := hrun.invariant (P := fun w => Invariant w.server)
    (fun _ e h he => next_invariant h e he) (initial_invariant node settings)
  constructor
  case once =>
    intro key
    have honce := List.nodup_iff_count_le_one.mp h.records.once key
    rw [List.count, List.countP_map] at honce
    rw [← List.countP_eq_length_filter]
    exact (List.countP_congr fun job _ => by simp).trans_le honce
  case same =>
    intro a ha hs
    exact (h.records.completed _ _ (h.records.answer_completed ha hs)).2
  case exclusive =>
    intro a ha b hb hsa hsb hsame
    have howna := h.records.owned _ _ (h.records.answer_completed ha hsa)
    have hownb := h.records.owned _ _ (h.records.answer_completed hb hsb)
    simp only [CaptureValues.key] at howna hownb
    rw [hsame, hownb] at howna
    exact Prod.mk.inj (Option.some.inj howna).symm
  case asked =>
    intro hdigest a ha hs
    obtain ⟨hknown, horigin⟩ := h.records.answered a ha
    obtain ⟨goal, hgoal, hsame, hdone⟩ := horigin hs
    have hpayload := hdigest goal hgoal a.goal hknown hsame
    rw [(h.records.completed _ _ hdone).1]
    exact congrArg (fun p : CapturePayload => (p.productId, p.stationId, p.captureId)) hpayload

/-! ### A capture that is asked for twice -/

def retriedNode : Worker where
  interfaceVersion := "1.0.0"
  masterHeartbeatTimeoutMs := 3000
  healthState := .ready
  systemState := .runSys
  sessionId := "session-1"

def retriedGoal (commandId : String) : CaptureGoal where
  command := {
    sessionId := "session-1", commandId, commandEpoch := 0
    payloadDigest := "7dfff0b695ad60226b833b8706d56250ca2269fa84ca7ea4b784e84e77c9b2c4" }
  productId := "product-1"
  fifoSequence := 1
  stationId := 2
  captureId := "capture-1"
  requiredCameraIds := ["cam-b"]

def retriedImage : ImageArtifact where
  cameraId := "cam-b"
  filePath := "/data/raw/cam-b.png"
  sha256 := "b5bb9d8014a0f9b1d61e21e796d78dccdf1352f23cd32812f4850b878ae4944c"
  fileSizeBytes := 120
  width := 2448
  height := 2048
  pixelFormat := "MONO8_PNG"
  cameraTimestampRaw := 7
  cameraTimestampDomain := "fake"
  cameraTimestampNs := 7
  cameraTimestampSynchronized := false
  hostArrivalMonotonicNs := 9
  hostArrivalTimestampNs := 9
  packetLossCount := 0
  packetResendCount := 0

def retriedBatch : CaptureBatch where
  productId := "product-1"
  stationId := 2
  captureId := "capture-1"
  frameBatchId := "batch-1"
  attempt := 2
  triggerRequestedMonotonicNs := 7
  triggerReturnedMonotonicNs := 8
  triggerRequestedWallTimeNs := 7
  triggerReturnedWallTimeNs := 8
  images := [retriedImage]

def fullQueue : InferenceQueue :=
  let waiting : InferenceJob := {
    inferenceJobId := "job-0", productId := "product-0", fifoSequence := 0, stationId := 1 }
  { InferenceQueue.new 1 Nat.one_pos with
    items := [waiting], bounded := by decide, sorted := List.pairwise_singleton _ _
    wanted := by decide }

/-- Two commands for one capture: the second waits in line while the first one fails once and
then finds the queue full. -/
def retriedCapture : List CaptureStep := [
  .accept "goal-1" (retriedGoal "2f1c7a52-9f5e-4c7b-8d41-6a0f5f6f3b11"),
  .accept "goal-2" (retriedGoal "7b0d4f3a-51a2-4e6c-9c3f-0e7d2a9b8c22"),
  .execute "goal-1" {}, .execute "goal-2" {},
  .reserve "goal-1", .reserve "goal-1",
  .expose "goal-1" ⟨.error ⟨.packetLoss, "packet loss"⟩, fun _ => .ok ()⟩ "job-1" 10,
  .expose "goal-1" ⟨.ok retriedBatch, fun _ => .ok ()⟩ "job-2" 20,
  .queue (.new 1 Nat.one_pos), .retry "goal-1" 30, .resume "goal-2"]

theorem retried_capture_once :
    let w := runTrace CaptureWorld.next
      (.initial retriedNode { cameraIds := fun _ => ["cam-b"] } fullQueue) retriedCapture
    w.server.ExactlyOnce ∧ w.server.jobs.map (·.inferenceJobId) = ["job-2"] ∧
      w.server.replies.map (·.values.inferenceJobId) = ["job-2", "job-2"] :=
  ⟨capture_exactly_once (valid_trace_execution (by decide +kernel)), by decide +kernel,
    by decide +kernel⟩

end CaptureServer

end InspectionLine
