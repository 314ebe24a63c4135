import InspectionLine.ImageArtifacts
import InspectionLine.LogDelivery
import InspectionLine.ReplayPaging
import InspectionLine.WholeRuntime

/-! # Replayed terminals say what the live ones said

A terminal reaches the Master node in a message of the Vision node, and again in messages that the
Log node rebuilds from the row of the durable event. -/
namespace InspectionLine

variable {F : Type} [Runtime F]

/-- The live message as it comes back: of a score that is zero the sign is lost. -/
def LiveTerminal.replayed : LiveTerminal F → StationTerminal F
  | .result message => .result { message with
      score := if Runtime.equalsInt message.score 0 then Runtime.zero else message.score }
  | .failure message => .failure message

inductive TerminalCallback (p : LogProducer) (job : InferenceJob) (context : CallbackContext F) :
    Option (LiveTerminal F) × Emitted × LogProducer → Prop where
  | success (result : StationInferenceResult F) :
      TerminalCallback p job context (p.onInferenceSuccess job result context)
  | failure (failure : InferenceFailure) :
      TerminalCallback p job context (p.onInferenceFailure job failure context)

namespace LogNode

/-- The events that reach the Log node, one after the other. -/
def handleLogEvents (n : LogNode F) (deliveries : List (Storage × LogEventMessage)) : LogNode F :=
  deliveries.foldl (fun n d => (n.handleLogEvent d.1 d.2).2) n

end LogNode

/-! ### What the callbacks emit -/

theorem as_uint_coe {bits k : ℕ} (h : k < 2 ^ bits) : asUint bits (k : ℤ) = .ok k := by
  unfold asUint
  rw [if_pos ⟨Int.natCast_nonneg k, by exact_mod_cast h⟩, Int.toNat_natCast]

theorem as_uint_of_bind {k : ℕ} (h : bindInt (k : ℤ) = .ok (k : ℤ)) :
    asUint 64 (k : ℤ) = .ok k := by
  refine as_uint_coe ?_
  unfold bindInt at h
  split at h
  · rename_i hrange
    have hbound := hrange.2
    norm_cast at hbound
    omega
  · cases h

namespace InferenceJob

variable {job : InferenceJob}

theorem result_replays {result : StationInferenceResult F} (hjob : job.Reportable)
    (hstation : job.stationId < 2 ^ 8) (hmeets : result.meets job = true)
    (hnumbers : ∀ x : F, isFinite x = true → Runtime.isNaN x = false) (sessionId : String) :
    (job.replayedResult result).message sessionId =
      .ok (LiveTerminal.result (job.resultMessage sessionId result)).replayed := by
  have hverdict : result.verdict = 1 ∨ result.verdict = 2 := by
    unfold StationInferenceResult.meets at hmeets
    simp only [Bool.and_eq_true, decide_eq_true_eq] at hmeets
    rw [hmeets.1.1.2]
    split
    · exact .inr rfl
    · exact .inl rfl
  have hscore : bindFloat result.score = some result.score := by
    unfold StationInferenceResult.meets at hmeets
    simp only [Bool.and_eq_true] at hmeets
    rw [bindFloat, hnumbers _ hmeets.1.2]
    rfl
  have hfifo := as_uint_of_bind hjob.fits.1
  have hid := as_uint_coe hstation
  have hcode : asUint 8 result.verdict = .ok result.verdict.toNat := by
    rcases hverdict with h | h <;> rw [h] <;> rfl
  have hrevision : asUint 32 1 = .ok 1 := rfl
  simp only [replayedResult, ReplayStationTerminal.message, ReplayStationTerminal.toResult, hscore,
    hfifo, hid, hrevision, Option.getD_some, hcode]
  rfl

theorem failure_replays (failure : InferenceFailure) (hjob : job.Reportable)
    (hstation : job.stationId < 2 ^ 8) (sessionId : String) :
    (job.replayedFailure F failure).message sessionId =
      .ok (LiveTerminal.failure (job.failureMessage sessionId failure)).replayed := by
  have hfifo := as_uint_of_bind hjob.fits.1
  have hid := as_uint_coe hstation
  have hrevision : asUint 32 1 = .ok 1 := rfl
  have hcode : asUint 16 (failure.kind.errorCode.value : ℤ) =
      .ok failure.kind.errorCode.value := by
    cases failure.kind <;> rfl
  simp only [replayedFailure, ReplayStationTerminal.message, ReplayStationTerminal.toFailure,
    hfifo, hid, hrevision, Option.getD_some, hcode]
  rfl

end InferenceJob

structure Identified (p : LogProducer) (context : CallbackContext F) : Prop where
  sessionId : p.sessionId ≠ ""
  nodeId : p.nodeId ≠ ""
  nodeInstanceId : p.nodeInstanceId ≠ ""
  logId : context.logId ≠ ""
  occurred : 0 ≤ context.occurredAtNs
  occurredFits : bindInt context.occurredAtNs = .ok context.occurredAtNs

structure Rebuilds (p : LogProducer) (job : InferenceJob) (context : CallbackContext F)
    (e : LogEmission F) (r : ReplayStationTerminal F) (live : LiveTerminal F) : Prop where
  carries : e.Carries job.imagePaths
  columns : LogTables.TerminalColumns e.payload.received r
  projected : ∀ (t : LogTables F) event sessionId payload, event.eventType = e.eventType →
    t.projectPayload event sessionId payload =
      t.projectTerminal event sessionId payload r.terminalKind
  message : r.message p.sessionId = .ok live.replayed
  inferenceJobId : r.inferenceJobId = job.inferenceJobId
  logId : e.logId = context.logId
  occurred : e.occurredAtNs = context.occurredAtNs
  eventType : e.eventType ≠ ""
  severity : bindInt e.severity = .ok e.severity

theorem emit_terminal_eq {p p' : LogProducer} {e : LogEmission F} {message live : LiveTerminal F}
    {emitted : Emitted} (h : p.emitTerminal e message = (some live, emitted, p')) :
    live = message ∧ (p.emitDurableEvent e).1.stored = true ∧
      emitted = (p.emitDurableEvent e).1 := by
  unfold LogProducer.emitTerminal at h
  rcases hemit : p.emitDurableEvent e with ⟨result, producer⟩
  simp only [hemit] at h
  obtain ⟨hlive, hrest⟩ := Prod.mk.inj h
  split at hlive
  · rename_i hstored
    exact ⟨(Option.some.inj hlive).symm, hstored, (Prod.mk.inj hrest).1.symm⟩
  · cases hlive

theorem emit_terminal_live {p : LogProducer} {e : LogEmission F}
    (h : (p.emitDurableEvent e).1.stored = true) (message : LiveTerminal F) :
    (p.emitTerminal e message).1 = some message := by
  unfold LogProducer.emitTerminal
  rcases hemit : p.emitDurableEvent e with ⟨result, producer⟩
  rw [hemit] at h
  exact if_pos h

theorem InferenceJob.result_rebuilds [LawfulRuntime F] {p : LogProducer} {job : InferenceJob}
    {result : StationInferenceResult F} {context : CallbackContext F} (hjob : job.Reportable)
    (hstation : job.stationId < 2 ^ 8) (hmeets : result.meets job = true) (hcontext : context.Fits)
    (hnumbers : ∀ x : F, isFinite x = true → Runtime.isNaN x = false) :
    Rebuilds p job context (job.resultEmission result context) (job.replayedResult result)
      (.result (job.resultMessage p.sessionId result)) where
  carries := result_emission_carries hjob hmeets hcontext
  columns := result_columns hjob (verdict_fits hmeets) hcontext
  projected t event sessionId payload htype := by
    unfold LogTables.projectPayload
    rw [htype]
    rfl
  message := result_replays hjob hstation hmeets hnumbers p.sessionId
  inferenceJobId := rfl
  logId := rfl
  occurred := rfl
  eventType := by simp [resultEmission, CallbackContext.emission]
  severity := rfl

theorem InferenceJob.failure_rebuilds [LawfulRuntime F] {p : LogProducer} {job : InferenceJob}
    {context : CallbackContext F} (failure : InferenceFailure) (hjob : job.Reportable)
    (hstation : job.stationId < 2 ^ 8) :
    Rebuilds p job context (job.failureEmission failure context) (job.replayedFailure F failure)
      (.failure (job.failureMessage p.sessionId failure)) where
  carries := failure_emission_carries hjob failure
  columns := failure_columns hjob failure
  projected t event sessionId payload htype := by
    unfold LogTables.projectPayload
    rw [htype]
    rfl
  message := failure_replays failure hjob hstation p.sessionId
  inferenceJobId := rfl
  logId := rfl
  occurred := rfl
  eventType := by simp [failureEmission, CallbackContext.emission]
  severity := rfl

theorem TerminalCallback.rebuilt [LawfulRuntime F] {p p' : LogProducer} {job : InferenceJob}
    {context : CallbackContext F} {live : LiveTerminal F} {emitted : Emitted}
    (h : TerminalCallback p job context (some live, emitted, p')) (hjob : job.Reportable)
    (hstation : job.stationId < 2 ^ 8) (hcontext : context.Fits)
    (hnumbers : ∀ x : F, isFinite x = true → Runtime.isNaN x = false) :
    ∃ (e : LogEmission F) (r : ReplayStationTerminal F) (record : SpoolRecord),
      p.createRecord e = .ok record ∧ emitted.published = p.publish e record ∧
        Rebuilds p job context e r live := by
  have hfailure : ∀ failure, p.onInferenceFailure job failure context = (some live, emitted, p') →
      ∃ (e : LogEmission F) (r : ReplayStationTerminal F) (record : SpoolRecord),
        p.createRecord e = .ok record ∧ emitted.published = p.publish e record ∧
          Rebuilds p job context e r live := by
    intro failure hcall
    obtain ⟨rfl, hstored, rfl⟩ := emit_terminal_eq hcall
    obtain ⟨record, hrecord, hpublished⟩ := LogProducer.emit_stored hstored
    exact ⟨_, _, record, hrecord, hpublished, InferenceJob.failure_rebuilds failure hjob hstation⟩
  generalize houtcome : (some live, emitted, p') = outcome at h
  cases h with
  | failure failure => exact hfailure failure houtcome.symm
  | success result =>
    unfold LogProducer.onInferenceSuccess at houtcome
    split at houtcome
    · rename_i hmeets
      obtain ⟨rfl, hstored, rfl⟩ := emit_terminal_eq houtcome.symm
      obtain ⟨record, hrecord, hpublished⟩ := LogProducer.emit_stored hstored
      exact ⟨_, _, record, hrecord, hpublished,
        InferenceJob.result_rebuilds hjob hstation hmeets hcontext hnumbers⟩
    · exact hfailure _ houtcome.symm

theorem TerminalCallback.of_live {p : LogProducer} {job : InferenceJob}
    {context : CallbackContext F} {outcome : Option (LiveTerminal F) × Emitted × LogProducer}
    (h : TerminalCallback p job context outcome) {live : LiveTerminal F}
    (hlive : outcome.1 = some live) :
    TerminalCallback p job context (some live, outcome.2.1, outcome.2.2) := by
  obtain ⟨_, _, _⟩ := outcome
  cases hlive
  exact h

/-! ### The row of the terminal -/

namespace LogTables

variable {t t' : LogTables F} {event : StoredLogEvent}

/-- A new event is appended when it can be projected. -/
theorem append_event_of_projects {committedAt : String}
    (hnew : t.logEvents.get? event.key = none)
    (hrevision : bindInt event.revision = .ok event.revision)
    (hseverity : bindInt event.severity = .ok event.severity)
    (hoccurred : bindInt event.occurredAtNs = .ok event.occurredAtNs)
    (h : (t.logged committedAt event).projectEvent event = .ok t') :
    t.appendEvent committedAt event = (.ok (), t') := by
  have hrow : t.logEvents.get? (event.logId, event.revision) = none := hnew
  unfold appendEvent transaction appendBody
  simp only [hrevision, hseverity, hoccurred, hrow, h, bind, Except.bind]

omit [Runtime F] in
theorem mem_of_insert_terminal {key : TerminalKey} {row : TerminalRow F}
    (hnew : t.visionStationTerminals.get? key = none) :
    (key, row) ∈ (t.insertTerminal key row).visionStationTerminals.entries :=
  OrderedDict.get?_eq_some.mp (OrderedDict.get?_insertOrIgnore_self hnew row)

theorem terminal_projected [LawfulRuntime F] {p : LogProducer} {job : InferenceJob}
    {context : CallbackContext F} {e : LogEmission F} {r : ReplayStationTerminal F}
    {live : LiveTerminal F} {record : SpoolRecord} (hrebuilds : Rebuilds p job context e r live)
    (hrecord : p.createRecord e = .ok record) (hsession : p.sessionId ≠ "")
    (hjson : event.payloadJson = record.payloadJson) (htype : event.eventType = e.eventType)
    (hfresh : ∀ entry ∈ t.visionStationTerminals.entries,
      entry.1.inferenceJobId ≠ job.inferenceJobId) :
    ∃ (t' : LogTables F) (entry : TerminalEntry F), t.projectEvent event = .ok t' ∧
      entry ∈ t'.visionStationTerminals.entries ∧
      entry.1.sessionId = p.sessionId ∧ entry.1.inferenceJobId = job.inferenceJobId ∧
        entry.replayed = r := by
  have hpayload := project_created t hrecord hrebuilds.carries.distinct hjson hsession
  obtain ⟨t', hproject, -⟩ := hrebuilds.carries.projected t event p.sessionId htype
  obtain ⟨row, hrow, hreplayed⟩ := t.project_terminal_eq event p.sessionId hrebuilds.columns
  refine ⟨t', _, hpayload.trans hproject, ?_, rfl, hrebuilds.inferenceJobId, hreplayed⟩
  rw [hrebuilds.projected _ _ _ _ htype, hrow] at hproject
  refine (insert_artifacts_leads _ event p.sessionId _ t' hproject).terminals.subset ?_
  refine mem_of_insert_terminal (OrderedDict.get?_eq_none.mpr fun hkey => ?_)
  obtain ⟨old, hold⟩ := OrderedDict.mem_keys.mp hkey
  exact hfresh _ (OrderedDict.get?_eq_some.mp hold) hrebuilds.inferenceJobId

end LogTables

namespace LogNode

variable {n : LogNode F}

omit [Runtime F] in
theorem terminals_retention (storage : Storage) :
    (n.enforceImageRetention storage).tables.visionStationTerminals =
      n.tables.visionStationTerminals := by
  unfold enforceImageRetention
  split <;> rfl

structure Receives (n : LogNode F) (storage : Storage) (p : LogProducer) : Prop where
  initialized : n.initialized = true
  session : p.sessionId = n.sessionId
  commits : storage.commitRaises = false

theorem acknowledged {storage : Storage} {message : LogEventMessage} {p : LogProducer}
    {tables : LogTables F} (hreceives : n.Receives storage p)
    (hsession : message.sessionId = p.sessionId)
    (hvalid : validateEvent F message.toEvent = .ok ())
    (happend : n.tables.appendEvent storage.committedAt message.toEvent = (.ok (), tables)) :
    (n.handleLogEvent storage message).1.isSome = true ∧
      (n.handleLogEvent storage message).2.tables.visionStationTerminals =
        tables.visionStationTerminals := by
  have hpersist : n.persist storage message.toEvent = (.ok (), { n with tables }) := by
    unfold persist
    simp only [hvalid, hreceives.commits, happend]
    rfl
  unfold handleLogEvent
  rw [if_neg (by simp [hsession, hreceives.session, hreceives.initialized]), hpersist]
  exact ⟨rfl, by rw [terminals_retention]⟩

/-- No event and no retention takes a terminal away. -/
theorem terminal_kept_by (storage : Storage) (message : LogEventMessage) {entry : TerminalEntry F}
    (h : entry ∈ n.tables.visionStationTerminals.entries) :
    entry ∈ (n.handleLogEvent storage message).2.tables.visionStationTerminals.entries := by
  unfold handleLogEvent
  split
  · exact h
  · rcases persist_cases n storage message.toEvent with ⟨e, he⟩ | ⟨tables, happend, he⟩
    · rw [he]
      exact h
    · rw [he]
      simp only [terminals_retention]
      rcases LogTables.append_event_cases n.tables storage.committedAt message.toEvent with
        ⟨e, he⟩ | ⟨_, _, _, he⟩ | ⟨t', _, hgrows, he⟩
      · rw [he] at happend
        cases happend
      · rw [he] at happend
        cases happend
        exact h
      · rw [he] at happend
        cases happend
        exact hgrows.terminals.subset h

theorem terminal_kept (deliveries : List (Storage × LogEventMessage)) {entry : TerminalEntry F}
    (h : entry ∈ n.tables.visionStationTerminals.entries) :
    entry ∈ (n.handleLogEvents deliveries).tables.visionStationTerminals.entries := by
  induction deliveries generalizing n with
  | nil => exact h
  | cons d deliveries ih => exact ih (terminal_kept_by d.1 d.2 h)

end LogNode

/-- A terminal that has been published is acknowledged by Log when its event gets there, and
whatever else gets there before and after, the replay of the session has a terminal of the job from
which the live message is rebuilt. -/
theorem live_terminal_replayed [LawfulRuntime F]
    (hnumbers : ∀ x : F, isFinite x = true → Runtime.isNaN x = false)
    {p p' : LogProducer} {job : InferenceJob} {context : CallbackContext F}
    {live : LiveTerminal F} {emitted : Emitted} (hjob : job.Reportable)
    (hstation : job.stationId < 2 ^ 8) (hcontext : context.Fits)
    (hidentified : Identified p context)
    (hcallback : TerminalCallback p job context (some live, emitted, p')) :
    ∃ message, emitted.published = some message ∧
      ∀ (n : LogNode F) (storage : Storage), n.Receives storage p →
        n.tables.logEvents.get? (context.logId, 1) = none →
        (∀ entry ∈ n.tables.visionStationTerminals.entries,
          entry.1.inferenceJobId ≠ job.inferenceJobId) →
        (n.handleLogEvent storage message).1.isSome = true ∧
          ∀ later ties, ∃ entry ∈ ((n.handleLogEvent storage message).2.handleLogEvents
              later).tables.sessionTerminals ties p.sessionId,
            entry.1.inferenceJobId = job.inferenceJobId ∧
              entry.replayed.message p.sessionId = .ok live.replayed := by
  obtain ⟨e, r, record, hrecord, hpublish, hrebuilds⟩ :=
    hcallback.rebuilt hjob hstation hcontext hnumbers
  obtain ⟨message, hmessage, hjson, htype, hkey, hrevision, hsession, hseverity, hoccurred⟩ :
      ∃ message, p.publish e record = some message ∧
        message.toEvent.payloadJson = record.payloadJson ∧
        message.toEvent.eventType = e.eventType ∧ message.toEvent.key = (context.logId, 1) ∧
        message.toEvent.revision = 1 ∧ message.sessionId = p.sessionId ∧
        message.toEvent.severity = e.severity ∧
        message.toEvent.occurredAtNs = context.occurredAtNs :=
    ⟨_, LogProducer.publish_created hrecord hrebuilds.carries.distinct, rfl, rfl,
      congrArg (·, 1) hrebuilds.logId, rfl, rfl, rfl, hrebuilds.occurred⟩
  refine ⟨message, hpublish.trans hmessage, fun n storage hreceives hnew hfresh => ?_⟩
  have hvalid := published_event_valid hrecord hrebuilds.carries.distinct
    ⟨hrebuilds.logId ▸ hidentified.logId, hrebuilds.eventType, hidentified.nodeId,
      hidentified.nodeInstanceId, hrebuilds.occurred ▸ hidentified.occurred⟩ hmessage
  obtain ⟨tables, entry, hproject, hentry, hterminal, hid, hreplayed⟩ :=
    LogTables.terminal_projected (t := n.tables.logged storage.committedAt message.toEvent)
      hrebuilds hrecord hidentified.sessionId hjson htype hfresh
  have happend := LogTables.append_event_of_projects (hkey ▸ hnew) (by rw [hrevision]; rfl)
    (hseverity ▸ hrebuilds.severity) (hoccurred ▸ hidentified.occurredFits) hproject
  obtain ⟨hacked, hterminals⟩ := LogNode.acknowledged hreceives hsession hvalid happend
  refine ⟨hacked, fun later ties => ⟨entry, ?_, hid, hreplayed ▸ hrebuilds.message⟩⟩
  exact LogTables.mem_session_terminals.mpr
    ⟨LogNode.terminal_kept later (hterminals ▸ hentry), hterminal⟩

/-! ### A result that is delivered twice -/

section

def terminalProducer : LogProducer where
  nodeId := "vision"
  nodeInstanceId := "instance-1"
  sessionId := "session-1"
  spoolOpen := true

def terminalJob : InferenceJob where
  inferenceJobId := "job-1"
  productId := "product-1"
  fifoSequence := 1
  stationId := 2
  captureId := "capture-1"
  frameBatchId := "batch-1"
  imagePaths := ["/data/raw/cam-b.png"]

def terminalResult : StationInferenceResult ℤ where
  verdict := 2
  score := 7
  modelVersion := "v3"
  modelSha256 := ""
  viewVerdicts := [2]
  viewScores := [7]

def terminalContext : CallbackContext ℤ where
  logId := "log-1"
  createdAt := ""
  occurredAtNs := 0

def terminalDigests : List (String × String) := [
  (terminalProducer.payloadText (terminalJob.resultEmission terminalResult terminalContext),
    "5eb308048ed68452235a6f8b39a194f778c9f0b0957876f090007453c5ae5700")]

local instance replayNumbers : Runtime ℤ := .whole terminalDigests

local instance replayLawful : LawfulRuntime ℤ := Runtime.whole_lawful terminalDigests

def terminalOutcome : Option (LiveTerminal ℤ) × Emitted × LogProducer :=
  terminalProducer.onInferenceSuccess terminalJob terminalResult terminalContext

theorem terminal_live : terminalOutcome.1 =
    some (.result (terminalJob.resultMessage "session-1" terminalResult)) := by
  have hmeets : terminalResult.meets terminalJob = true := by decide +kernel
  have hstored : (terminalProducer.emitDurableEvent
      (terminalJob.resultEmission terminalResult terminalContext)).1.stored = true := by
    decide +kernel
  unfold terminalOutcome LogProducer.onInferenceSuccess
  rw [if_pos hmeets]
  exact emit_terminal_live hstored _

def openedLog : LogNode ℤ where
  sessionId := "session-1"
  initialized := true

theorem delivered_twice_replayed :
    ∃ message, terminalOutcome.2.1.published = some message ∧
      (openedLog.handleLogEvent { committedAt := "" } message).1.isSome = true ∧
        ∃ entry ∈ ((openedLog.handleLogEvent { committedAt := "" } message).2.handleLogEvents
            [({ committedAt := "" }, message)]).tables.sessionTerminals
              (fun _ _ => false) "session-1",
          entry.1.inferenceJobId = "job-1" ∧ entry.replayed.message "session-1" =
            .ok (LiveTerminal.result
              (terminalJob.resultMessage "session-1" terminalResult)).replayed := by
  have hcallback : TerminalCallback terminalProducer terminalJob terminalContext terminalOutcome :=
    .success terminalResult
  have hjob : terminalJob.Reportable := ⟨by decide +kernel, by decide +kernel, by decide⟩
  have hidentified : Identified terminalProducer terminalContext :=
    ⟨by decide, by decide, by decide, by decide, by decide, rfl⟩
  have hcontext : terminalContext.Fits := by decide +kernel
  obtain ⟨message, hpublished, hstored⟩ := live_terminal_replayed (fun _ _ => rfl) hjob (by decide)
    hcontext hidentified (hcallback.of_live terminal_live)
  obtain ⟨hacked, hreplayed⟩ := hstored openedLog { committedAt := "" } ⟨rfl, rfl, rfl⟩
    (OrderedDict.get?_empty _) fun _ hentry => absurd hentry List.not_mem_nil
  exact ⟨message, hpublished, hacked, hreplayed _ _⟩

end

end InspectionLine
