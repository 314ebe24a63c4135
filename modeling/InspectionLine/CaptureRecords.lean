import InspectionLine.CaptureGoals

/-! # What the Vision node keeps about captures

The completed captures, the owners of the capture ids, the stored results and the locks of the
stations agree with each other and with the goals on their way. -/
namespace InspectionLine

/-- The goal has found its capture not completed yet. -/
def CapturePhase.working : CapturePhase → Bool
  | .reserving _ | .exposing _ | .blocked .. => true
  | .accepted | .queued | .entered => false

def CapturePhase.inside : CapturePhase → Bool
  | .accepted | .queued => false
  | .entered | .reserving _ | .exposing _ | .blocked .. => true

theorem CapturePhase.inside_of_working {phase : CapturePhase} (h : phase.working = true) :
    phase.inside = true := by
  cases phase <;> first | rfl | cases h

namespace CaptureServer

variable {v : CaptureServer} {goalId : String} {r : RunningCapture}

def Inside (v : CaptureServer) (stationId : ℕ) (goalId : String) : Prop :=
  ∃ r, v.running.get? goalId = some r ∧ r.goal.stationId = stationId ∧ r.phase.inside = true

def Queued (v : CaptureServer) (stationId : ℕ) (goalId : String) : Prop :=
  ∃ r, v.running.get? goalId = some r ∧ r.goal.stationId = stationId ∧ r.phase = .queued

/-- Values of a completed capture, for a goal with this digest. -/
def Origin (v : CaptureServer) (digest : String) (values : CaptureValues) : Prop :=
  ∃ goal ∈ v.goals, goal.command.payloadDigest = digest ∧
    v.completedCaptures.get? goal.key = some values

structure Prepared (goal : CaptureGoal) (batch : CaptureBatch) (job : InferenceJob) : Prop where
  batchKey : (batch.successValues job.inferenceJobId).key = goal.key
  jobKey : job.captureKey = goal.key
  frames : batch.frameBatchId = job.frameBatchId

/-- What is known of a goal on its way. -/
structure Tracked (v : CaptureServer) (r : RunningCapture) : Prop where
  known : r.goal ∈ v.goals
  identified : r.phase.working = true →
    v.captureIdentities.get? r.goal.captureId = some r.goal.identity
  unfinished : r.phase.working = true → v.completedCaptures.get? r.goal.key = none
  prepared : ∀ batch job, r.phase = .blocked batch job → Prepared r.goal batch job

/-- What is kept about captures, and what it says of the goals on their way. -/
structure Records (v : CaptureServer) (active : String → RunningCapture → Prop) : Prop where
  tracked : ∀ id r, active id r → v.Tracked r
  owned : ∀ key values, v.completedCaptures.get? key = some values →
    v.captureIdentities.get? key.2.2 = some (key.1, key.2.1)
  completed : ∀ key values, v.completedCaptures.get? key = some values →
    values.key = key ∧ ∃ job ∈ v.jobs, job.captureKey = key ∧
      values.frameBatchId = job.frameBatchId ∧ values.inferenceJobId = job.inferenceJobId
  finished : ∀ job ∈ v.jobs, (v.completedCaptures.get? job.captureKey).isSome = true
  once : (v.jobs.map (·.captureKey)).Nodup
  stored : ∀ commandId digest values,
    v.captureResults.get? commandId = some (digest, values) → v.Origin digest values
  answered : ∀ a ∈ v.replies, a.goal ∈ v.goals ∧
    (a.values.success = true → v.Origin a.goal.command.payloadDigest a.values)

def Others (v : CaptureServer) (goalId : String) (id : String) (r : RunningCapture) : Prop :=
  v.running.get? id = some r ∧ id ≠ goalId

structure Invariant (v : CaptureServer) : Prop where
  guards : ∀ stationId,
    (v.stationLocks stationId).Guards (v.Inside stationId) (v.Queued stationId)
  records : v.Records fun id r => v.running.get? id = some r

structure Entered (v : CaptureServer) (goalId : String) (r : RunningCapture) : Prop where
  running : v.running.get? goalId = some r
  notQueued : r.phase ≠ .queued
  guards : ∀ stationId, (v.stationLocks stationId).Guards
    (fun a => v.Inside stationId a ∨ stationId = r.goal.stationId ∧ a = goalId)
    (v.Queued stationId)
  records : v.Records (v.Others goalId)
  known : r.goal ∈ v.goals

theorem initial_invariant (node : Worker) (settings : CaptureSettings) :
    Invariant { node, settings } where
  guards _ := by
    refine ExecutorLock.Guards.new.mono ?_ fun _ _ h => h
    rintro _ ⟨_, h, _⟩
    cases h
  records := by
    constructor
    case once => exact .nil
    all_goals simp [IdempotencyStore.get?, IdempotencyStore.new]

theorem Tracked.of_phase {r' : RunningCapture} (h : v.Tracked r) (hgoal : r'.goal = r.goal)
    (hphase : r'.phase.working = true → r'.phase = r.phase) : v.Tracked r' where
  known := hgoal ▸ h.known
  identified hw := hgoal ▸ h.identified (hphase hw ▸ hw)
  unfinished hw := hgoal ▸ h.unfinished (hphase hw ▸ hw)
  prepared batch job hb := by
    have hw : r'.phase.working = true := by rw [hb]; rfl
    exact hgoal ▸ h.prepared batch job ((hphase hw).symm.trans hb)

theorem tracked_idle (hknown : r.goal ∈ v.goals) (hidle : r.phase.working = false) :
    v.Tracked r where
  known := hknown
  identified hw := by rw [hidle] at hw; cases hw
  unfinished hw := by rw [hidle] at hw; cases hw
  prepared batch job hb := by rw [hb] at hidle; cases hidle

theorem Records.retrack {active active' : String → RunningCapture → Prop} (h : v.Records active)
    (htracked : ∀ id r, active' id r → v.Tracked r) : v.Records active' where
  tracked := htracked
  owned := h.owned
  completed := h.completed
  finished := h.finished
  once := h.once
  stored := h.stored
  answered := h.answered

theorem Records.same {active : String → RunningCapture → Prop} {w : CaptureServer}
    (h : v.Records active) (hgoals : w.goals = v.goals)
    (hidentities : w.captureIdentities = v.captureIdentities)
    (hcompleted : w.completedCaptures = v.completedCaptures) (hjobs : w.jobs = v.jobs)
    (hresults : w.captureResults = v.captureResults) (hreplies : w.replies = v.replies) :
    w.Records active := by
  obtain ⟨⟩ := v
  obtain ⟨⟩ := w
  dsimp only at hgoals hidentities hcompleted hjobs hresults hreplies
  subst hgoals hidentities hcompleted hjobs hresults hreplies
  exact ⟨fun id s hs => ⟨(h.tracked id s hs).known, (h.tracked id s hs).identified,
    (h.tracked id s hs).unfinished, (h.tracked id s hs).prepared⟩, h.owned, h.completed,
    h.finished, h.once, h.stored, h.answered⟩

/-! ### The ends of a goal -/

theorem records_reply {active : String → RunningCapture → Prop} (h : v.Records active)
    (hknown : r.goal ∈ v.goals) {values : CaptureValues}
    (horigin : values.success = true → v.Origin r.goal.command.payloadDigest values)
    (status : GoalStatus) : (v.reply goalId r values status).Records active where
  tracked id s hs := ⟨(h.tracked id s hs).known, (h.tracked id s hs).identified,
    (h.tracked id s hs).unfinished, (h.tracked id s hs).prepared⟩
  owned := h.owned
  completed := h.completed
  finished := h.finished
  once := h.once
  stored := h.stored
  answered a ha := by
    rcases List.mem_append.mp ha with ha | ha
    · exact h.answered a ha
    · rw [List.mem_singleton] at ha
      subst ha
      exact ⟨hknown, horigin⟩

theorem leave_station_of_none {stationId : ℕ} {lock : ExecutorLock String}
    (h : (v.stationLocks stationId).release = (none, lock)) : v.leaveStation stationId =
      { v with stationLocks := Function.update v.stationLocks stationId lock } := by
  simp only [leaveStation, h]

theorem leave_station_of_some {stationId : ℕ} {successor : String} {lock : ExecutorLock String}
    (h : (v.stationLocks stationId).release = (some successor, lock)) :
    v.leaveStation stationId = { v with
      stationLocks := Function.update v.stationLocks stationId lock
      running := v.running.modify successor fun r => { r with phase := .entered } } := by
  simp only [leaveStation, h]

theorem records_leave_station {active : String → RunningCapture → Prop} (h : v.Records active)
    (stationId : ℕ) : (v.leaveStation stationId).Records active := by
  rcases hrelease : (v.stationLocks stationId).release with ⟨_ | successor, lock⟩
  · rw [leave_station_of_none hrelease]
    exact h.same rfl rfl rfl rfl rfl rfl
  · rw [leave_station_of_some hrelease]
    exact h.same rfl rfl rfl rfl rfl rfl

theorem running_reply {values : CaptureValues} {status : GoalStatus} {id : String}
    {s : RunningCapture} : (v.reply goalId r values status).running.get? id = some s ↔
      v.Others goalId id s := by
  simp only [reply, OrderedDict.get?_erase, Others]
  grind

/-- Whoever is on its way after a station was left was so before, and at most has been given
the station. -/
theorem running_leave_station {stationId : ℕ} {id : String} {s : RunningCapture}
    (h : (v.leaveStation stationId).running.get? id = some s) :
    ∃ t, v.running.get? id = some t ∧ s.goal = t.goal ∧
      (s = t ∨ s.phase = .entered ∧ (v.stationLocks stationId).release.1 = some id) := by
  rcases hrelease : (v.stationLocks stationId).release with ⟨_ | successor, lock⟩
  · rw [leave_station_of_none hrelease] at h
    exact ⟨s, h, rfl, .inl rfl⟩
  · rw [leave_station_of_some hrelease, OrderedDict.get?_modify] at h
    split at h
    · rename_i hid
      obtain ⟨t, ht, rfl⟩ := Option.map_eq_some_iff.mp h
      exact ⟨t, ht, rfl, .inr ⟨rfl, hid ▸ rfl⟩⟩
    · exact ⟨s, h, rfl, .inl rfl⟩

/-- A station that its goal leaves is free, or belongs to the next one in line. -/
theorem guards_leave_station {stationId : ℕ} (hout : v.running.get? goalId = none)
    (h : ∀ s, (v.stationLocks s).Guards
      (fun a => v.Inside s a ∨ s = stationId ∧ a = goalId) (v.Queued s)) (s : ℕ) :
    ((v.leaveStation stationId).stationLocks s).Guards ((v.leaveStation stationId).Inside s)
      ((v.leaveStation stationId).Queued s) := by
  have hne : ∀ a, v.Inside s a → a ≠ goalId := by
    rintro a ⟨t, ht, -⟩ rfl
    rw [hout] at ht
    cases ht
  rcases hrelease : (v.stationLocks stationId).release with ⟨_ | successor, lock⟩
  · rw [leave_station_of_none hrelease]
    by_cases hs : s = stationId
    · subst hs
      simp only [Function.update_self]
      exact ((h s).unlocks (.inr ⟨rfl, rfl⟩) hrelease).mono
        (fun a ha => ⟨.inl ha, hne a ha⟩) fun _ _ ha => ha
    · simp only [Function.update_of_ne hs]
      exact (h s).mono (fun _ ha => .inl ha) fun _ _ ha => ha
  · obtain ⟨⟨t, ht, hstation, -⟩, hnext⟩ :=
      (h stationId).hands_over (.inr ⟨rfl, rfl⟩) hrelease
    rw [leave_station_of_some hrelease]
    have hrunning : ∀ a u, (v.running.modify successor fun r => { r with phase := .entered }).get? a
        = some u → a ≠ successor ∧ v.running.get? a = some u ∨
          a = successor ∧ u = { t with phase := .entered } := by
      intro a u hu
      rw [OrderedDict.get?_modify] at hu
      split at hu
      · rename_i ha
        rw [ha, ht] at hu
        exact .inr ⟨ha, (Option.some.inj hu).symm⟩
      · rename_i ha
        exact .inl ⟨ha, hu⟩
    have hkept : ∀ a u, a ≠ successor → v.running.get? a = some u →
        (v.running.modify successor fun r => { r with phase := .entered }).get? a = some u :=
      fun a u ha hu => by rw [OrderedDict.get?_modify, if_neg ha, hu]
    by_cases hs : s = stationId
    · subst hs
      simp only [Function.update_self]
      refine hnext.mono ?_ ?_
      · rintro a ⟨u, hu, hat, hinside⟩
        rcases hrunning a u hu with ⟨-, hu⟩ | ⟨ha, -⟩
        · exact .inl ⟨.inl ⟨u, hu, hat, hinside⟩, hne a ⟨u, hu, hat, hinside⟩⟩
        · exact .inr ha
      · rintro a - ⟨⟨u, hu, hat, hqueued⟩, ha⟩
        exact ⟨u, hkept a u ha hu, hat, hqueued⟩
    · simp only [Function.update_of_ne hs]
      refine (h s).mono ?_ ?_
      · rintro a ⟨u, hu, hat, hinside⟩
        rcases hrunning a u hu with ⟨-, hu⟩ | ⟨-, rfl⟩
        · exact .inl ⟨u, hu, hat, hinside⟩
        · exact absurd (hat.symm.trans hstation) hs
      · rintro a - ⟨u, hu, hat, hqueued⟩
        refine ⟨u, hkept a u ?_ hu, hat, hqueued⟩
        rintro rfl
        obtain rfl := Option.some.inj (hu.symm.trans ht)
        exact hs (hat.symm.trans hstation)

theorem finish_invariant (h : Entered v goalId r) {values : CaptureValues}
    (horigin : values.success = true → v.Origin r.goal.command.payloadDigest values)
    (status : GoalStatus) : Invariant (v.finish goalId r values status) where
  guards := by
    refine guards_leave_station (OrderedDict.get?_erase_self _ goalId) fun s => ?_
    refine (h.guards s).mono ?_ ?_
    · rintro a (⟨t, ht, hat, hinside⟩ | ha)
      · exact .inl ⟨t, (running_reply.mp ht).1, hat, hinside⟩
      · exact .inr ha
    · rintro a - ⟨t, ht, hat, hqueued⟩
      refine ⟨t, running_reply.mpr ⟨ht, ?_⟩, hat, hqueued⟩
      rintro rfl
      exact h.notQueued (Option.some.inj (h.running.symm.trans ht) ▸ hqueued)
  records := by
    have hreply : (v.reply goalId r values status).Records _ :=
      records_reply h.records h.known horigin status
    refine (records_leave_station hreply r.goal.stationId).retrack fun id s hs => ?_
    obtain ⟨t, ht, hgoal, hphase⟩ := running_leave_station hs
    have htracked := (records_leave_station hreply r.goal.stationId).tracked id t
      (running_reply.mp ht)
    refine htracked.of_phase hgoal fun hworking => ?_
    rcases hphase with rfl | ⟨hentered, -⟩
    · rfl
    · rw [hentered] at hworking
      cases hworking

/-! ### A goal in its station -/

theorem set_phase_invariant (h : Entered v goalId r) {phase : CapturePhase}
    (htracked : v.Tracked { r with phase }) : Invariant (v.setPhase goalId r phase) where
  guards s := by
    refine (h.guards s).mono ?_ ?_
    · rintro a ⟨t, ht, hat, hin⟩
      simp only [setPhase, OrderedDict.get?_insert] at ht
      split at ht
      · rename_i ha
        cases ht
        exact .inr ⟨hat.symm, ha⟩
      · exact .inl ⟨t, ht, hat, hin⟩
    · rintro a - ⟨t, ht, hat, hqueued⟩
      refine ⟨t, ?_, hat, hqueued⟩
      simp only [setPhase, OrderedDict.get?_insert]
      split
      · rename_i ha
        rw [ha, h.running] at ht
        exact absurd (Option.some.inj ht ▸ hqueued) h.notQueued
      · exact ht
  records := by
    have hrecords : v.Records fun id s => id = goalId ∧ s = { r with phase } ∨
        v.Others goalId id s := h.records.retrack fun id s hs => by
      rcases hs with ⟨-, rfl⟩ | hs
      · exact htracked
      · exact h.records.tracked id s hs
    have hsame : (v.setPhase goalId r phase).Records _ := hrecords.same rfl rfl rfl rfl rfl rfl
    refine hsame.retrack fun id s hs => hsame.tracked id s ?_
    simp only [setPhase, OrderedDict.get?_insert] at hs
    split at hs
    · cases hs
      exact .inl ⟨‹_›, rfl⟩
    · exact .inr ⟨hs, ‹_›⟩

/-- A failed end. -/
theorem finish_failed (h : Entered v goalId r) {values : CaptureValues}
    (hfailed : values.success = false) (status : GoalStatus) :
    Invariant (v.finish goalId r values status) :=
  finish_invariant h (fun hs => by rw [hfailed] at hs; cases hs) status

theorem Entered.keep {w : CaptureServer} (h : Entered v goalId r)
    (hrunning : w.running = v.running) (hlocks : w.stationLocks = v.stationLocks)
    (hgoals : w.goals = v.goals) (hrecords : w.Records (v.Others goalId)) :
    Entered w goalId r where
  running := hrunning ▸ h.running
  notQueued := h.notQueued
  guards s := by
    rw [hlocks]
    refine (h.guards s).mono (fun a ha => ?_) fun a _ ha => ?_
    · exact ha.imp_left fun ⟨t, ht, hat⟩ => ⟨t, hrunning ▸ ht, hat⟩
    · obtain ⟨t, ht, hat⟩ := ha
      exact ⟨t, hrunning ▸ ht, hat⟩
  records := by
    unfold Others at hrecords ⊢
    rwa [hrunning]
  known := hgoals ▸ h.known

theorem emit_discarded_entered (h : Entered v goalId r) (goal : CaptureGoal)
    (batch : CaptureBatch) (reason : String) :
    Entered (v.emitCaptureDiscarded goal batch reason) goalId r :=
  h.keep rfl rfl rfl (h.records.same rfl rfl rfl rfl rfl rfl)

theorem remember_invariant (h : Entered v goalId r) {values : CaptureValues}
    (hcompleted : v.completedCaptures.get? r.goal.key = some values) :
    Invariant (v.rememberAndFinish goalId r values) := by
  have horigin : v.Origin r.goal.command.payloadDigest values := ⟨r.goal, h.known, rfl, hcompleted⟩
  unfold rememberAndFinish
  split
  · exact finish_failed h rfl _
  · rename_i captureResults hstore
    refine finish_invariant (v := { v with captureResults }) (h.keep rfl rfl rfl ?_)
      (fun _ => horigin) _
    exact {
      tracked := fun id s hs => ⟨(h.records.tracked id s hs).known,
        (h.records.tracked id s hs).identified, (h.records.tracked id s hs).unfinished,
        (h.records.tracked id s hs).prepared⟩
      owned := h.records.owned
      completed := h.records.completed
      finished := h.records.finished
      once := h.records.once
      answered := h.records.answered
      stored := by
        intro commandId digest stored hget
        rcases IdempotencyStore.get?_remember_cases hstore hget with ⟨-, hnew⟩ | hold
        · cases hnew
          exact horigin
        · exact h.records.stored commandId digest stored hold }

/-- A goal takes its capture id, if nobody else has it. -/
theorem enter_station_invariant (h : Entered v goalId r) : Invariant (v.enterStation goalId r) := by
  unfold enterStation
  split
  · exact finish_failed h rfl _
  split
  · exact finish_failed h rfl _
  · rename_i hfree
    obtain ⟨w, hw⟩ : ∃ w, w = { v with
      captureIdentities := v.captureIdentities.insert r.goal.captureId r.goal.identity } :=
      ⟨_, rfl⟩
    have hkept : ∀ captureId identity, v.captureIdentities.get? captureId = some identity →
        w.captureIdentities.get? captureId = some identity := by
      intro captureId identity hget
      simp only [hw, OrderedDict.get?_insert]
      split
      · rename_i hsame
        rw [hsame] at hget
        rw [hget, Option.any_some, decide_eq_true_eq, not_not] at hfree
        rw [hfree]
      · exact hget
    have hmine : w.captureIdentities.get? r.goal.captureId = some r.goal.identity := by
      rw [hw]
      exact OrderedDict.get?_insert_self ..
    have hentered : Entered w goalId r := by
      subst hw
      refine h.keep rfl rfl rfl ⟨fun id s hs => ?_, ?_, ?_, ?_, ?_, ?_, ?_⟩
      · have hold := h.records.tracked id s hs
        exact ⟨hold.known, fun hworking => hkept _ _ (hold.identified hworking), hold.unfinished,
          hold.prepared⟩
      · exact fun key values hget => hkept _ _ (h.records.owned key values hget)
      · exact h.records.completed
      · exact h.records.finished
      · exact h.records.once
      · exact h.records.stored
      · exact h.records.answered
    have hsame : v.completedCaptures = w.completedCaptures := by rw [hw]
    simp only [← hw]
    rw [hsame]
    split
    · rename_i completed hcompleted
      exact remember_invariant hentered hcompleted
    · rename_i hnone
      refine set_phase_invariant hentered ⟨hentered.known, fun _ => hmine, fun _ => hnone, ?_⟩
      intro batch job hphase
      cases hphase

structure AtWork (v : CaptureServer) (goalId : String) (r : RunningCapture) : Prop
    extends Entered v goalId r where
  identified : v.captureIdentities.get? r.goal.captureId = some r.goal.identity
  unfinished : v.completedCaptures.get? r.goal.key = none

theorem AtWork.tracked (h : AtWork v goalId r) {phase : CapturePhase}
    (hprepared : ∀ batch job, phase = .blocked batch job → Prepared r.goal batch job) :
    v.Tracked { r with phase } where
  known := h.known
  identified _ := h.identified
  unfinished _ := h.unfinished
  prepared := hprepared

/-- The one place where a capture is completed. No other goal works on it: it would be in the
same station. -/
theorem complete_invariant (h : AtWork v goalId r) {batch : CaptureBatch}
    {job accepted : InferenceJob} (hprepared : Prepared r.goal batch job)
    (hkey : accepted.captureKey = job.captureKey)
    (hframes : accepted.frameBatchId = job.frameBatchId)
    (hid : accepted.inferenceJobId = job.inferenceJobId) :
    Invariant (v.complete goalId r batch job accepted) := by
  unfold complete
  refine remember_invariant (v := { v with
    jobs := v.jobs ++ [accepted]
    completedCaptures := v.completedCaptures.insert r.goal.key
      (batch.successValues job.inferenceJobId) }) (h.toEntered.keep rfl rfl rfl ?_)
    (OrderedDict.get?_insert_self ..)
  have hgrow : ∀ key values, v.completedCaptures.get? key = some values →
      (v.completedCaptures.insert r.goal.key (batch.successValues job.inferenceJobId)).get? key =
        some values := by
    intro key values hget
    rw [OrderedDict.get?_insert, if_neg, hget]
    rintro rfl
    rw [h.unfinished] at hget
    cases hget
  have hnew : accepted.captureKey = r.goal.key := hkey.trans hprepared.jobKey
  constructor
  case tracked =>
    intro id s hs
    have hold := h.records.tracked id s hs
    refine ⟨hold.known, hold.identified, fun hworking => ?_, hold.prepared⟩
    rw [OrderedDict.get?_insert, if_neg, hold.unfinished hworking]
    intro hsame
    have hstation : s.goal.stationId = r.goal.stationId :=
      congrArg (fun key : CaptureKey => key.2.1) hsame
    exact hs.2 ((h.guards r.goal.stationId).alone id goalId
      (.inl ⟨s, hs.1, hstation, CapturePhase.inside_of_working hworking⟩) (.inr ⟨rfl, rfl⟩))
  case owned =>
    intro key values hget
    rw [OrderedDict.get?_insert] at hget
    split at hget
    · rename_i hsame
      rw [hsame]
      exact h.identified
    · exact h.records.owned key values hget
  case completed =>
    intro key values hget
    rw [OrderedDict.get?_insert] at hget
    split at hget
    · rename_i hsame
      cases hget
      refine ⟨hsame ▸ hprepared.batchKey, accepted, List.mem_append_right _
        (List.mem_singleton_self _), hnew.trans hsame.symm, ?_, hid.symm⟩
      exact hprepared.frames.trans hframes.symm
    · obtain ⟨hvalues, old, hold, hrest⟩ := h.records.completed key values hget
      exact ⟨hvalues, old, List.mem_append_left _ hold, hrest⟩
  case finished =>
    intro old hold
    rw [OrderedDict.get?_insert]
    split
    · rfl
    · rename_i hother
      rcases List.mem_append.mp hold with hold | hold
      · exact h.records.finished old hold
      · rw [List.mem_singleton.mp hold] at hother
        exact absurd hnew hother
  case once =>
    rw [List.map_append]
    refine List.nodup_append.mpr ⟨h.records.once, List.nodup_singleton _, ?_⟩
    intro key hold other hother hsame
    obtain ⟨old, hmem, hat⟩ := List.mem_map.mp hold
    rw [List.map_singleton, List.mem_singleton] at hother
    have hdone := h.records.finished old hmem
    rw [hat, hsame, hother, hnew, h.unfinished] at hdone
    cases hdone
  case stored =>
    intro commandId digest values hget
    obtain ⟨goal, hgoal, hdigest, hdone⟩ := h.records.stored commandId digest values hget
    exact ⟨goal, hgoal, hdigest, hgrow _ _ hdone⟩
  case answered =>
    intro a ha
    obtain ⟨hknown, horigin⟩ := h.records.answered a ha
    refine ⟨hknown, fun hs => ?_⟩
    obtain ⟨goal, hgoal, hdigest, hdone⟩ := horigin hs
    exact ⟨goal, hgoal, hdigest, hgrow _ _ hdone⟩

theorem refuse_invariant (h : AtWork v goalId r) {batch : CaptureBatch} {job : InferenceJob}
    (hprepared : Prepared r.goal batch job) (queue : InferenceQueue) :
    Invariant (v.refuse goalId r batch job queue) := by
  unfold refuse
  split
  · exact finish_failed h.toEntered rfl _
  split
  · exact finish_failed h.toEntered rfl _
  split
  · exact finish_failed (emit_discarded_entered h.toEntered ..) rfl _
  split
  · exact finish_failed h.toEntered rfl _
  · refine set_phase_invariant h.toEntered (h.tracked ?_)
    intro _ _ hphase
    cases hphase
    exact hprepared

theorem enqueue_invariant (h : AtWork v goalId r) {batch : CaptureBatch} {job : InferenceJob}
    (hprepared : Prepared r.goal batch job) (nowNs : ℤ) (queue : InferenceQueue) :
    Invariant (v.enqueue goalId r batch job nowNs queue).1 := by
  unfold enqueue
  split
  · rename_i accepted queue' haccepted
    obtain rfl := InferenceQueue.accepted_eq_stamped haccepted
    refine complete_invariant h hprepared ?_ (job.stamped_frame_batch_id nowNs)
      (job.stamped_inference_job_id nowNs)
    simp only [InferenceJob.captureKey, InferenceJob.stamped_product_id,
      InferenceJob.stamped_station_id, InferenceJob.stamped_capture_id]
  · exact refuse_invariant h hprepared queue

end CaptureServer

end InspectionLine
