import InspectionLine.LineFlow

/-! # Where one operation takes a product -/
namespace InspectionLine

namespace ContextOp

open ProductContext (Outcome.and_then_frame Unmoved stationWait stationDone
  station_setStation_self station_setStation_of_ne)

theorem Unmoved.refl (c : ProductContext) : c.Unmoved c := ⟨rfl, rfl, rfl, id⟩

theorem set_unmoved {c : ProductContext} {s : StationId} {i : StationInspection}
    (h : i.processState = .skipped → (c.station s).processState = .skipped) (rev : ℕ) :
    c.Unmoved { c.setStation s i with revision := rev } := by
  refine ⟨rfl, rfl, rfl, fun hs => ?_⟩
  cases s with
  | a => exact hs
  | b => exact h hs

theorem quiet_unmoved (op : ContextOp) (h : op.quiet = true) (c : ProductContext) :
    c.Unmoved (op.apply c).2 := by
  cases op with
  | recordSensor k e step =>
    obtain ⟨ids, steps, rev, hrec⟩ := c.record_sensor_frame k e step
    simp only [apply, reply, hrec]
    exact ⟨rfl, rfl, rfl, id⟩
  | beginStationCycle s position capture =>
    simp only [apply, reply, ProductContext.beginStationCycle]
    split
    · exact Unmoved.refl c
    · split
      · exact Unmoved.refl c
      · exact set_unmoved (by simp) _
  | markPositionSettled s position =>
    simp only [apply, reply, ProductContext.markPositionSettled]
    (repeat' split) <;> first | exact Unmoved.refl c | exact set_unmoved (by simp) _
  | markCaptureRequested s capture command =>
    simp only [apply, reply, ProductContext.markCaptureRequested]
    (repeat' split) <;> first | exact Unmoved.refl c | exact set_unmoved (by simp) _
  | applyStationResult decision =>
    simp only [apply, reply, ProductContext.applyStationResult, ProductContext.storeDecision,
      ProductContext.raiseResultConflict]
    (repeat' split) <;> first | exact Unmoved.refl c | exact set_unmoved (by simp) _
  | recordStationFailure s capture batch job revision reason =>
    simp only [apply, reply, ProductContext.recordStationFailure]
    (repeat' split) <;> first | exact Unmoved.refl c | exact set_unmoved (by simp) _
  | recordStationContractFailure s reason =>
    simp only [apply, reply, ProductContext.recordStationContractFailure]
    split
    · exact Unmoved.refl c
    · exact set_unmoved (by simp) _
  | _ => cases h

theorem request_skip_effect (c : ProductContext) (reason : String) :
    ((requestStationBSkip reason).apply c).2.physicalState = c.physicalState ∧
      ((requestStationBSkip reason).apply c).2.actuatorJobId = c.actuatorJobId ∧
        ((requestStationBSkip reason).apply c).2.stations = c.stations ∧
          ((requestStationBSkip reason).apply c).2.stationBSkipRequested = true := by
  simp only [apply, reply, ProductContext.requestStationBSkip]
  split
  · rename_i h
    exact ⟨rfl, rfl, rfl, h⟩
  · exact ⟨rfl, rfl, rfl, rfl⟩

def stationPassed : StationId → ProductPhysicalState
  | .a => .flipping
  | .b => .sensor3Wait

theorem resume_effect {c : ProductContext} {s : StationId} {r : Reply}
    (h : ((markConveyorResumedAfterCapture s).apply c).1 = .ok r) :
    c.physicalState = stationDone s ∧
      ((markConveyorResumedAfterCapture s).apply c).2.physicalState = stationPassed s ∧
      ((markConveyorResumedAfterCapture s).apply c).2.actuatorJobId = c.actuatorJobId ∧
      ((markConveyorResumedAfterCapture s).apply c).2.stations = c.stations := by
  by_cases hd : c.physicalState = stationDone s
  · cases s <;> simp [apply, reply, ProductContext.markConveyorResumedAfterCapture, hd,
      ProductContext.touch, stationPassed]
  · simp [apply, reply, ProductContext.markConveyorResumedAfterCapture, hd, Except.map] at h

theorem reset_effect (c : ProductContext) (s : StationId) :
    c.Unmoved ((resetUnfinishedStationCycle s).apply c).2 := by
  simp only [apply, reply, ProductContext.resetUnfinishedStationCycle]
  split
  · exact Unmoved.refl c
  · exact set_unmoved (by simp) _

theorem begin_cycle_effect {c : ProductContext} {s : StationId} {position capture : String}
    {r : Reply} (h : ((beginStationCycle s position capture).apply c).1 = .ok r) :
    c.physicalState = stationWait s := by
  by_contra hw
  simp [apply, reply, ProductContext.beginStationCycle, hw, Except.map] at h

theorem record_sensor_raises {c d : ProductContext} {k : ℕ} {e : String} {step : ℤ}
    {exc : FlowError} (h : c.recordSensor k e step = (.error exc, d)) : d = c := by
  unfold ProductContext.recordSensor at h
  split at h
  · split at h
    · exact (congrArg Prod.snd h).symm
    · cases h
  · cases h

/-- Sensor 2 takes a flipped product to Station B, or past it when it is to be skipped. -/
theorem enter_effect (c : ProductContext) (e : String) (step : ℤ) :
    ((acceptSensor2 e step).apply c).2 = c ∨ c.physicalState = .flipping ∧
      ((acceptSensor2 e step).apply c).2.actuatorJobId = c.actuatorJobId ∧
      (((acceptSensor2 e step).apply c).2.physicalState = .sensor3Wait ∧
          c.stationBSkipRequested = true ∨
        ((acceptSensor2 e step).apply c).2.physicalState = .stationBWait ∧
          c.stationBSkipRequested = false ∧
          ((acceptSensor2 e step).apply c).2.stationBSkipRequested = false ∧
          ((acceptSensor2 e step).apply c).2.stations = c.stations) := by
  obtain ⟨ids, steps, rev, hrec⟩ := c.record_sensor_frame 2 e step
  simp only [apply, reply, ProductContext.acceptSensor2]
  split
  · exact .inl rfl
  · rename_i hflip
    rcases hr : c.recordSensor 2 e step with ⟨_ | _, d⟩
    · exact .inl (record_sensor_raises hr)
    · rw [hr] at hrec
      simp only at hrec
      subst hrec
      refine .inr ⟨not_not.mp hflip, ?_⟩
      simp only [ProductContext.Outcome.andThen, ProductContext.enterStationB]
      split
      · rename_i hskip
        exact ⟨rfl, .inl ⟨rfl, hskip⟩⟩
      · rename_i hskip
        have hno : c.stationBSkipRequested = false := by simpa using hskip
        exact ⟨rfl, .inr ⟨rfl, hno, hno, rfl⟩⟩

theorem bypass_effect (c : ProductContext) (reason : String) :
    ((bypassStationB reason).apply c).2 = c ∨ c.physicalState = .stationBWait ∧
      ((bypassStationB reason).apply c).2.actuatorJobId = c.actuatorJobId ∧
      ((bypassStationB reason).apply c).2.physicalState = .sensor3Wait := by
  obtain ⟨q, w, rev, h⟩ := c.request_skip_frame reason
  simp only [apply, reply, ProductContext.bypassStationB, h]
  split
  · exact .inl rfl
  · rename_i hw
    split
    · exact .inl rfl
    · exact .inr ⟨not_not.mp hw, rfl, rfl⟩

theorem lock_effect (c : ProductContext) (e : String) (step : ℤ) :
    ((lockAtSensor3 e step).apply c).2 = c ∨ c.physicalState = .sensor3Wait ∧
      ((lockAtSensor3 e step).apply c).2.physicalState = .atSensor3 ∧
      ((lockAtSensor3 e step).apply c).2.actuatorJobId = c.actuatorJobId ∧
      ((lockAtSensor3 e step).apply c).2.stations = c.stations := by
  obtain ⟨ids, steps, rev, hrec⟩ := c.record_sensor_frame 3 e step
  simp only [apply, reply, ProductContext.lockAtSensor3]
  split
  · split <;> exact .inl rfl
  · split
    · exact .inl rfl
    · rename_i hwait
      rcases hr : c.recordSensor 3 e step with ⟨_ | _, d⟩
      · exact .inl (record_sensor_raises hr)
      · rw [hr] at hrec
        simp only at hrec
        subst hrec
        exact .inr ⟨not_not.mp hwait, rfl, rfl, rfl⟩

/-- The answer of a lock is the lock the product has, or its new one. -/
theorem lock_reply {c : ProductContext} {e : String} {step : ℤ} {r : Reply}
    (h : ((lockAtSensor3 e step).apply c).1 = .ok r) :
    ∃ locked, r = .locked locked ∧ (c.locked = some locked ∨ locked = c.lockedProduct e) := by
  obtain ⟨ids, steps, rev, hrec⟩ := c.record_sensor_frame 3 e step
  simp only [apply, reply, ProductContext.lockAtSensor3] at h
  split at h
  · rename_i locked hlocked
    split at h
    · cases h
    · cases h
      exact ⟨locked, rfl, .inl hlocked⟩
  · split at h
    · cases h
    · rcases hr : c.recordSensor 3 e step with ⟨_ | _, d⟩ <;> rw [hr] at h hrec
      · cases h
      · simp only at hrec
        subst hrec
        cases h
        exact ⟨_, rfl, .inr rfl⟩

theorem begin_actuation_effect {c : ProductContext} {job command : String} {r : Reply}
    (h : ((beginActuation job command).apply c).1 = .ok r) :
    c.physicalState = .atSensor3 ∧ (c.actuatorJobId = "" ∨ c.actuatorJobId = job) ∧
      ((beginActuation job command).apply c).2.physicalState = .atSensor3 ∧
      ((beginActuation job command).apply c).2.actuatorJobId = job ∧
      ((beginActuation job command).apply c).2.stations = c.stations := by
  simp only [apply, reply, ProductContext.beginActuation] at h ⊢
  by_cases hlocked : c.locked.isNone ∨ c.physicalState ≠ .atSensor3
  · rw [if_pos hlocked] at h
    cases h
  have hat : c.physicalState = .atSensor3 := by
    by_contra hne
    exact hlocked (.inr hne)
  rw [if_neg hlocked] at h ⊢
  by_cases hnew : c.actuatorJobId = ""
  · rw [if_neg (not_not.mpr hnew)]
    exact ⟨hat, .inl hnew, hat, rfl, rfl⟩
  · rw [if_pos hnew] at h ⊢
    by_cases hother : c.actuatorJobId ≠ job ∨ c.actuatorCommandId ≠ command
    · rw [if_pos hother] at h
      cases h
    · have hjob : c.actuatorJobId = job := by
        by_contra hne
        exact hother (.inl hne)
      rw [if_neg hother]
      exact ⟨hat, .inr hjob, hat, hjob, rfl⟩

/-- The actuator methods keep a product behind Sensor 3 if it has got there. -/
theorem sorts_effect {op : ContextOp} (h : op.sorts = true) (c : ProductContext) :
    (op.apply c).2.actuatorJobId = c.actuatorJobId ∧ (op.apply c).2.stations = c.stations ∧
      ((op.apply c).2.physicalState = c.physicalState ∨
        (op.apply c).2.physicalState = .actuating ∨ (op.apply c).2.physicalState = .done) := by
  cases op with
  | markActuationAccepted command =>
    simp only [apply, reply, ProductContext.markActuationAccepted]
    split
    · exact ⟨rfl, rfl, .inl rfl⟩
    · exact ⟨rfl, rfl, .inr (.inl rfl)⟩
  | markActuationCompleted command actuation =>
    simp only [apply, reply, ProductContext.markActuationCompleted]
    (repeat' split) <;>
      first | exact ⟨rfl, rfl, .inl rfl⟩ | exact ⟨rfl, rfl, .inr (.inr rfl)⟩
  | _ => cases h


/-! ### Judging a product -/

theorem skip_kept (op : ContextOp) {c : ProductContext} (h : c.stationBSkipRequested = true) :
    (op.apply c).2.stationBSkipRequested = true := by
  cases op with
  | recordSensor k e step =>
    obtain ⟨ids, steps, rev, hrec⟩ := c.record_sensor_frame k e step
    simp only [apply, reply, hrec, h]
  | acceptSensor2 e step =>
    obtain ⟨ids, steps, rev, hrec⟩ := c.record_sensor_frame 2 e step
    simp only [apply, reply, ProductContext.acceptSensor2]
    split
    · exact h
    · refine ProductContext.Outcome.and_then_frame
        (R := fun d => d.stationBSkipRequested = true) (by rw [hrec]; exact h) fun d hd => ?_
      simp only [ProductContext.enterStationB]
      split <;> exact hd
  | lockAtSensor3 e step =>
    obtain ⟨ids, steps, rev, hrec⟩ := c.record_sensor_frame 3 e step
    simp only [apply, reply, ProductContext.lockAtSensor3]
    split
    · split <;> exact h
    · split
      · exact h
      · exact ProductContext.Outcome.and_then_frame
          (R := fun d => d.stationBSkipRequested = true) (by rw [hrec]; exact h) fun d hd => hd
  | requestStationBSkip reason => exact (request_skip_effect c reason).2.2.2
  | markStationBSkipped reason =>
    have hrequest : (c.requestStationBSkip reason).2 = c := by
      simp [ProductContext.requestStationBSkip, h]
    simp only [apply, reply, ProductContext.markStationBSkipped, hrequest]
    (repeat' split) <;> exact h
  | bypassStationB reason =>
    have hrequest : (c.requestStationBSkip reason).2 = c := by
      simp [ProductContext.requestStationBSkip, h]
    simp only [apply, reply, ProductContext.bypassStationB, hrequest]
    (repeat' split) <;> exact h
  | _ =>
    simp only [apply, reply, ProductContext.beginStationCycle, ProductContext.markPositionSettled,
      ProductContext.markCaptureRequested, ProductContext.resetUnfinishedStationCycle,
      ProductContext.markCaptureSucceeded, ProductContext.markCaptureFailed,
      ProductContext.promoteCaptureCompletionFromVision,
      ProductContext.markConveyorResumedAfterCapture, ProductContext.applyStationResult,
      ProductContext.storeDecision, ProductContext.raiseResultConflict,
      ProductContext.recordStationFailure, ProductContext.recordStationContractFailure,
      ProductContext.beginActuation, ProductContext.markActuationAccepted,
      ProductContext.markActuationCompleted]
    (repeat' split) <;> exact h

inductive Condemns (op : ContextOp) (r : Except FlowError Reply) : Prop where
  | decided (d : StationDecision) (hop : op = .applyStationResult d) (station : d.stationId = .a)
      (stored : r = .ok (.flag true)) (against : d.verdict ≠ .pass)
  | failed (k : FailureKind) (recorded : recordedFailure op r = some (.a, k))

theorem condemned_effect {op : ContextOp} {c : ProductContext}
    (h : (op.apply c).2.condemned = true) : c.condemned = true ∨ Condemns op (op.apply c).1 := by
  simp only [ProductContext.condemned, Bool.and_eq_true, Bool.not_eq_true',
    Option.isNone_iff_eq_none] at h ⊢
  obtain ⟨⟨hlocked, hbad⟩, hskip⟩ := h
  have hlock : c.locked = none := by
    rcases locked_effect op c with heq | ⟨e, step, _, hnone, _⟩
    · exact heq ▸ hlocked
    · exact hnone
  have hno : c.stationBSkipRequested = false := by
    by_contra hs
    rw [op.skip_kept (by simpa using hs)] at hskip
    cases hskip
  have hkept : c.stationABad = true →
      ((c.locked = none ∧ c.stationABad = true) ∧ c.stationBSkipRequested = false) :=
    fun hb => ⟨⟨hlock, hb⟩, hno⟩
  cases station_effect op c .a with
  | kept hsame =>
    refine .inl (hkept ?_)
    simpa [ProductContext.stationABad, hsame.decision, hsame.failed, hsame.conflicted] using hbad
  | begun position capture hop ok pending hj =>
    refine .inl (hkept ?_)
    simpa [ProductContext.stationABad, hj] using hbad
  | reset hop undecided sound hj =>
    simp [ProductContext.stationABad, hj] at hbad
  | decided d hop hs ok decision captureId failed conflicted =>
    by_cases hbefore : c.stationABad = true
    · exact .inl (hkept hbefore)
    · refine .inr (.decided d hop hs ok ?_)
      simp only [ProductContext.stationABad, decision, failed, conflicted, Bool.or_eq_true,
        Option.any_some, decide_eq_true_eq] at hbad hbefore
      rcases hbad with hbad | hbad
      · exact absurd (.inl hbad) hbefore
      · exact hbad
  | flagged k hrec => exact .inr (.failed k hrec)

/-- The methods that can speak against a product. -/
def judges : ContextOp → Bool
  | markCaptureFailed .. | applyStationResult .. | recordStationFailure ..
  | recordStationContractFailure .. => true
  | _ => false

theorem judges_of_condemns {op : ContextOp} {r : Except FlowError Reply} (h : Condemns op r) :
    op.judges = true := by
  cases h with
  | decided d hop =>
    subst hop
    rfl
  | failed k hk => cases op <;> first | rfl | cases hk

/-! ### Raising, and the end of a capture -/

/-- A method that raises leaves the product as it was, unless it has found two results in
conflict. -/
theorem raised_unchanged {op : ContextOp} {c : ProductContext} {exc : FlowError}
    (h : (op.apply c).1 = .error exc) (hop : ∀ d, op ≠ .applyStationResult d) :
    (op.apply c).2 = c := by
  cases op with
  | recordSensor k e step =>
    rcases hr : c.recordSensor k e step with ⟨_ | _, d⟩
    · simp only [apply, reply, hr]
      exact record_sensor_raises hr
    · simp [apply, reply, hr, Except.map] at h
  | acceptSensor2 e step =>
    simp only [apply, reply, ProductContext.acceptSensor2] at h ⊢
    split
    · rfl
    · rename_i hflip
      rw [if_neg hflip] at h
      rcases hr : c.recordSensor 2 e step with ⟨_ | _, d⟩
      · simp only [ProductContext.Outcome.andThen]
        exact record_sensor_raises hr
      · simp [hr, ProductContext.Outcome.andThen, Except.map] at h
  | lockAtSensor3 e step =>
    simp only [apply, reply, ProductContext.lockAtSensor3] at h ⊢
    split at h
    · split <;> rfl
    · split
      · rfl
      · rename_i hwait
        rw [if_neg hwait] at h
        rcases hr : c.recordSensor 3 e step with ⟨_ | _, d⟩
        · simp only [ProductContext.Outcome.andThen]
          exact record_sensor_raises hr
        · simp [hr, ProductContext.Outcome.andThen, Except.map] at h
  | applyStationResult d => exact absurd rfl (hop d)
  | markConveyorResumedAfterCapture s =>
    by_cases hd : c.physicalState = stationDone s
    · cases s <;> simp [apply, reply, ProductContext.markConveyorResumedAfterCapture, hd,
        Except.map] at h
    · simp [apply, reply, ProductContext.markConveyorResumedAfterCapture, hd]
  | _ =>
    simp only [apply, reply, ProductContext.beginStationCycle, ProductContext.markPositionSettled,
      ProductContext.markCaptureRequested, ProductContext.resetUnfinishedStationCycle,
      ProductContext.markCaptureSucceeded, ProductContext.markCaptureFailed,
      ProductContext.promoteCaptureCompletionFromVision, ProductContext.requestStationBSkip,
      ProductContext.markStationBSkipped, ProductContext.bypassStationB,
      ProductContext.recordStationFailure, ProductContext.recordStationContractFailure,
      ProductContext.beginActuation, ProductContext.markActuationAccepted,
      ProductContext.markActuationCompleted] at h ⊢
    revert h
    (repeat' split) <;> intro h <;> first | rfl | cases h

end ContextOp

theorem ProductLedger.oldest_waits {L : ProductLedger} {state : ProductPhysicalState}
    {c : ProductContext} (h : L.oldestInState state = .ok c) :
    L.byId.get? c.productId = some c ∧ c.removed = false ∧ c.physicalState = state := by
  have hscan : ∀ (rest earlier : List ProductContext),
      oldestFrom state earlier rest = .ok c → c ∈ rest ∧ c.physicalState = state := by
    intro rest
    induction rest with
    | nil =>
      intro earlier hc
      cases hc
    | cons e rest ih =>
      intro earlier hc
      unfold oldestFrom at hc
      split at hc
      · obtain ⟨hmem, hstate⟩ := ih _ hc
        exact ⟨List.mem_cons_of_mem _ hmem, hstate⟩
      · rename_i hstate
        split at hc
        · cases hc
        · cases hc
          exact ⟨List.mem_cons_self, not_not.mp hstate⟩
  obtain ⟨hmem, hstate⟩ := hscan _ _ h
  obtain ⟨p, hp, hget⟩ := List.mem_filterMap.mp hmem
  obtain ⟨e, he, hlive⟩ := L.active_live p hp
  cases hget.symm.trans he
  have hid := (L.identified p c hget).1
  exact ⟨hid ▸ hget, hlive, hstate⟩

theorem ProductLedger.operate_unchanged {L : ProductLedger} {p : String} {op : ContextOp}
    (h : ∀ c, L.byId.get? p = some c → (op.apply c).2 = c) : (L.operate p op).2 = L := by
  have hsame : L.byId.modify p (fun c => (op.apply c).2) = L.byId :=
    OrderedDict.modify_eq_self h
  unfold operate
  split
  · rfl
  · simp only [hsame]

theorem ProductLedger.operate_raised {L : ProductLedger} {p : String} {op : ContextOp}
    {exc : FlowError} (h : (L.operate p op).1 = .error exc)
    (hop : ∀ d, op ≠ .applyStationResult d) : (L.operate p op).2 = L := by
  refine operate_unchanged fun c hc => ?_
  rw [operate_outcome hc] at h
  exact ContextOp.raised_unchanged h hop

namespace ContextOp

open ProductContext (stationWait stationDone)

/-- The methods that end a capture at a station, with success or without. -/
def ends (s : StationId) : ContextOp → Bool
  | markCaptureSucceeded t .. | markCaptureFailed t .. | promoteCaptureCompletionFromVision t =>
    t = s
  | _ => false

theorem ended_set {c : ProductContext} {s : StationId} {i : StationInspection}
    (h : i.processState ≠ .skipped) (rev : ℕ) :
    c.Ended s { c.setStation s i with physicalState := stationDone s, revision := rev } := by
  refine ⟨rfl, rfl, .inl, fun hs => ?_⟩
  cases s with
  | a => exact .inl hs
  | b => exact absurd hs h

theorem ended_of_ends {op : ContextOp} {s : StationId} {c : ProductContext} {r : Reply}
    (hop : op.ends s = true) (h : (op.apply c).1 = .ok r) : c.Ended s (op.apply c).2 := by
  cases op with
  | markCaptureSucceeded t =>
    have hts : t = s := by simpa [ends] using hop
    subst hts
    simp only [apply, reply, ProductContext.markCaptureSucceeded] at h ⊢
    revert h
    (repeat' split) <;> intro h
    · cases h
    · cases h
    · cases h
    · refine ended_set ?_ _
      simp
  | markCaptureFailed t =>
    have hts : t = s := by simpa [ends] using hop
    subst hts
    simp only [apply, reply, ProductContext.markCaptureFailed] at h ⊢
    revert h
    split <;> intro h
    · cases h
    · refine ended_set ?_ _
      simp
  | promoteCaptureCompletionFromVision t =>
    have hts : t = s := by simpa [ends] using hop
    subst hts
    simp only [apply, reply, ProductContext.promoteCaptureCompletionFromVision] at h ⊢
    revert h
    split <;> intro h
    · cases h
    · refine ended_set ?_ _
      simp
  | _ => cases hop

theorem promotes_of_completed {c : ProductContext} {s : StationId}
    (h : (c.station s).resultCompleted = true) :
    ((promoteCaptureCompletionFromVision s).apply c).1 = .ok .none := by
  simp [apply, reply, ProductContext.promoteCaptureCompletionFromVision, h, Except.map]

theorem mark_skipped_effect (c : ProductContext) (reason : String) :
    ((markStationBSkipped reason).apply c).1 = .ok (.flag true) ∧
        ((markStationBSkipped reason).apply c).2.physicalState = .stationBDone ∧
        ((markStationBSkipped reason).apply c).2.actuatorJobId = c.actuatorJobId ∨
      ((markStationBSkipped reason).apply c).1 = .ok (.flag false) ∧
        ((markStationBSkipped reason).apply c).2 = c ∧
        ((c.station .b).processState = .skipped ∨ (c.station .b).resultCompleted = true) := by
  obtain ⟨q, w, rev, h⟩ := c.request_skip_frame reason
  simp only [apply, reply, ProductContext.markStationBSkipped, h]
  split
  · rename_i hskipped
    exact .inr ⟨rfl, rfl, .inl hskipped⟩
  · split
    · rename_i hcompleted
      exact .inr ⟨rfl, rfl, .inr hcompleted⟩
    · exact .inl ⟨rfl, rfl, rfl⟩

/-- A skip at Station B ends the capture there. -/
theorem ended_of_skip (c : ProductContext) (request reason : String)
    (h : ((markStationBSkipped reason).apply ((requestStationBSkip request).apply c).2).1 =
      .ok (.flag true)) :
    c.Ended .b (applyAll [requestStationBSkip request, markStationBSkipped reason] c) := by
  obtain ⟨_, hjob, _, _⟩ := request_skip_effect c request
  rcases mark_skipped_effect ((requestStationBSkip request).apply c).2 reason with
    ⟨_, hplace, hkept⟩ | ⟨hflag, _⟩
  · exact ⟨hplace, hkept.trans hjob, fun _ => .inr rfl, fun _ => .inr rfl⟩
  · rw [hflag] at h
    cases h

/-- So does the result of a station that has come in already. -/
theorem ended_of_promotion (c : ProductContext) (request reason : String)
    (h : ((markStationBSkipped reason).apply ((requestStationBSkip request).apply c).2).1 =
      .ok (.flag false))
    (hcompleted : (c.station .b).resultCompleted = true) :
    c.Ended .b (applyAll [requestStationBSkip request, markStationBSkipped reason,
      promoteCaptureCompletionFromVision .b] c) := by
  obtain ⟨_, hjob, hstations, _⟩ := request_skip_effect c request
  rcases mark_skipped_effect ((requestStationBSkip request).apply c).2 reason with
    ⟨hflag, _⟩ | ⟨_, hsame, _⟩
  · rw [hflag] at h
    cases h
  · have hstill : (((requestStationBSkip request).apply c).2.station .b).resultCompleted =
        true := by
      unfold ProductContext.station
      rw [hstations]
      exact hcompleted
    have hend : ((requestStationBSkip request).apply c).2.Ended .b
        ((promoteCaptureCompletionFromVision .b).apply
          ((requestStationBSkip request).apply c).2).2 := by
      refine ended_of_ends rfl (promotes_of_completed hstill)
    have happlied : applyAll [requestStationBSkip request, markStationBSkipped reason,
        promoteCaptureCompletionFromVision .b] c = ((promoteCaptureCompletionFromVision .b).apply
          ((requestStationBSkip request).apply c).2).2 := by
      change ((promoteCaptureCompletionFromVision .b).apply
        ((markStationBSkipped reason).apply ((requestStationBSkip request).apply c).2).2).2 = _
      rw [hsame]
    rw [happlied]
    exact ⟨hend.physicalState, hend.job.trans hjob, fun _ => .inr rfl, fun _ => .inr rfl⟩

/-- Where a method takes a product that it moves, and what it has looked at. The methods that
end a capture, skip Station B or accept a sorting do not look where the product is. -/
inductive Arrives (c : ProductContext) : ContextOp → ProductPhysicalState → Prop where
  | captured {op : ContextOp} {s : StationId} (ends : op.ends s = true) :
      Arrives c op (stationDone s)
  | resumed {s : StationId} (done : c.physicalState = stationDone s) :
      Arrives c (.markConveyorResumedAfterCapture s) (stationPassed s)
  | entered {e : String} {step : ℤ} (flipped : c.physicalState = .flipping)
      (wanted : c.stationBSkipRequested = false) : Arrives c (.acceptSensor2 e step) .stationBWait
  | passed {e : String} {step : ℤ} (flipped : c.physicalState = .flipping)
      (skip : c.stationBSkipRequested = true) : Arrives c (.acceptSensor2 e step) .sensor3Wait
  | skipped {reason : String} : Arrives c (.markStationBSkipped reason) .stationBDone
  | bypassed {reason : String} (waits : c.physicalState = .stationBWait) :
      Arrives c (.bypassStationB reason) .sensor3Wait
  | locked {e : String} {step : ℤ} (waits : c.physicalState = .sensor3Wait) :
      Arrives c (.lockAtSensor3 e step) .atSensor3
  | accepted {command : String} : Arrives c (.markActuationAccepted command) .actuating
  | completed {command actuation : String}
      (sorting : c.physicalState = .atSensor3 ∨ c.physicalState = .actuating) :
      Arrives c (.markActuationCompleted command actuation) .done

/-- A method leaves a product where it is, or takes it to its place. -/
theorem arrives_or_stays (op : ContextOp) (c : ProductContext) :
    (op.apply c).2.physicalState = c.physicalState ∨ Arrives c op (op.apply c).2.physicalState := by
  cases op with
  | recordSensor k e step => exact .inl (quiet_unmoved (.recordSensor k e step) rfl c).1
  | beginStationCycle s p k => exact .inl (quiet_unmoved (.beginStationCycle s p k) rfl c).1
  | markPositionSettled s p => exact .inl (quiet_unmoved (.markPositionSettled s p) rfl c).1
  | markCaptureRequested s k p =>
    exact .inl (quiet_unmoved (.markCaptureRequested s k p) rfl c).1
  | applyStationResult d => exact .inl (quiet_unmoved (.applyStationResult d) rfl c).1
  | recordStationFailure s k f i r t =>
    exact .inl (quiet_unmoved (.recordStationFailure s k f i r t) rfl c).1
  | recordStationContractFailure s t =>
    exact .inl (quiet_unmoved (.recordStationContractFailure s t) rfl c).1
  | resetUnfinishedStationCycle s => exact .inl (reset_effect c s).physicalState
  | requestStationBSkip reason => exact .inl (request_skip_effect c reason).1
  | beginActuation job command =>
    simp only [apply, reply, ProductContext.beginActuation]
    (repeat' split) <;> exact .inl rfl
  | markCaptureSucceeded s =>
    simp only [apply, reply, ProductContext.markCaptureSucceeded]
    (repeat' split) <;> first | exact .inl rfl | exact .inr (.captured (by simp [ends]))
  | markCaptureFailed s =>
    simp only [apply, reply, ProductContext.markCaptureFailed]
    split
    · exact .inl rfl
    · exact .inr (.captured (by simp [ends]))
  | promoteCaptureCompletionFromVision s =>
    simp only [apply, reply, ProductContext.promoteCaptureCompletionFromVision]
    split
    · exact .inl rfl
    · exact .inr (.captured (by simp [ends]))
  | markConveyorResumedAfterCapture s =>
    by_cases hdone : c.physicalState = stationDone s
    · rw [(resume_effect (r := .none) (by cases s <;>
        simp [apply, reply, ProductContext.markConveyorResumedAfterCapture, hdone,
          Except.map])).2.1]
      exact .inr (.resumed hdone)
    · simp [apply, reply, ProductContext.markConveyorResumedAfterCapture, hdone]
  | acceptSensor2 e step =>
    rcases enter_effect c e step with hsame | ⟨hflip, _, ⟨hto, hskip⟩ | ⟨hto, hwanted, _⟩⟩
    · exact .inl (congrArg _ hsame)
    · exact .inr (hto ▸ .passed hflip hskip)
    · exact .inr (hto ▸ .entered hflip hwanted)
  | markStationBSkipped reason =>
    rcases mark_skipped_effect c reason with ⟨_, hto, _⟩ | ⟨_, hsame, _⟩
    · exact .inr (hto ▸ .skipped)
    · exact .inl (congrArg _ hsame)
  | bypassStationB reason =>
    rcases bypass_effect c reason with hsame | ⟨hwaits, _, hto⟩
    · exact .inl (congrArg _ hsame)
    · exact .inr (hto ▸ .bypassed hwaits)
  | lockAtSensor3 e step =>
    rcases lock_effect c e step with hsame | ⟨hwaits, hto, _⟩
    · exact .inl (congrArg _ hsame)
    · exact .inr (hto ▸ .locked hwaits)
  | markActuationAccepted command =>
    simp only [apply, reply, ProductContext.markActuationAccepted]
    split
    · exact .inl rfl
    · exact .inr .accepted
  | markActuationCompleted command actuation =>
    simp only [apply, reply, ProductContext.markActuationCompleted]
    split
    · exact .inl rfl
    · split
      · exact .inl rfl
      · rename_i hsorting
        refine .inr (.completed ?_)
        by_contra hnot
        exact hsorting (not_or.mp hnot)

end ContextOp

end InspectionLine
