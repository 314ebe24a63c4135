import InspectionLine.CalmStops

/-! # A capture that outlives its deadline fails

The timer goes through the stations one by one. What it does for one station does not touch the
product of another. -/
namespace InspectionLine

open Supervision

namespace Master

variable {m n k : Master} {stopped : Master → Master}

/-! ### What the timer does for another station -/

structure Apart (s : StationId) (p : String) (m : Master) : Prop where
  own : ∀ cycle, m.line.stationCycles.get? s = some cycle → cycle.productId = p
  others : ∀ t cycle, t ≠ s → m.line.stationCycles.get? t = some cycle → cycle.productId ≠ p

/-- The cycle of a station, its product and the queue pause are as before. -/
structure Spared (s : StationId) (p : String) (m n : Master) : Prop where
  cycle : n.line.stationCycles.get? s = m.line.stationCycles.get? s
  product : n.line.product? p = m.line.product? p
  others : ∀ t other, t ≠ s → n.line.stationCycles.get? t = some other →
    ∃ before, m.line.stationCycles.get? t = some before ∧ before.productId = other.productId
  pausedByQueue : n.pausedByQueue = m.pausedByQueue
  around : n.around = m.around
  faulted : m.systemState = .faultStop → n.systemState = .faultStop

variable {s t : StationId} {p q : String}

theorem Spared.refl (s : StationId) (p : String) (m : Master) : Spared s p m m :=
  ⟨rfl, rfl, fun _ other _ h => ⟨other, h, rfl⟩, rfl, rfl, id⟩

theorem Spared.apart (h : Spared s p m n) (ha : Apart s p m) : Apart s p n := by
  refine ⟨fun cycle hcycle => ha.own cycle (h.cycle ▸ hcycle), fun t cycle hne hcycle => ?_⟩
  obtain ⟨before, hbefore, hsame⟩ := h.others t cycle hne hcycle
  exact hsame ▸ ha.others t before hne hbefore

theorem Spared.undisturbed (h : Spared s p m n) (g : Undisturbed n k) : Spared s p m k where
  cycle := by rw [g.line, h.cycle]
  product := by rw [g.line, h.product]
  others t other hne hother := h.others t other hne (g.line ▸ hother)
  pausedByQueue := g.pausedByQueue.trans h.pausedByQueue
  around := g.around.trans h.around
  faulted hf := g.faulted (h.faulted hf)

theorem Spared.elsewhere (h : Spared s p m n)
    (hc : k.line.stationCycles = n.line.stationCycles) (hl : k.line.ledger = n.line.ledger)
    (hq : k.pausedByQueue = n.pausedByQueue) (ha : k.around = n.around)
    (hs : k.systemState = n.systemState) : Spared s p m k where
  cycle := by rw [hc, h.cycle]
  product := by
    unfold PhysicalLine.product?
    rw [hl]
    exact h.product
  others t other hne hother := h.others t other hne (hc ▸ hother)
  pausedByQueue := hq.trans h.pausedByQueue
  around := ha.trans h.around
  faulted hf := hs.trans (h.faulted hf)

theorem Spared.setStationCycle (next : StationCycle) (h : Spared s p m n) {cycle : StationCycle}
    (hne : t ≠ s) (hget : n.line.stationCycles.get? t = some cycle)
    (hstation : next.stationId = t) (hid : next.productId = cycle.productId) :
    Spared s p m (n.setStationCycle next) where
  cycle := by
    change (n.line.stationCycles.set next).get? s = _
    rw [StationCycles.get?_set, hstation, if_neg hne.symm]
    exact h.cycle
  product := h.product
  others u other hu hother := by
    change (n.line.stationCycles.set next).get? u = some other at hother
    rw [StationCycles.get?_set, hstation] at hother
    split at hother
    · rename_i hut
      cases hother
      obtain ⟨before, hbefore, hsame⟩ := h.others t cycle hne hget
      exact ⟨before, hut ▸ hbefore, hsame.trans hid.symm⟩
    · exact h.others u other hu hother
  pausedByQueue := h.pausedByQueue
  around := h.around
  faulted := h.faulted

theorem Spared.popStationCycle (h : Spared s p m n) (hne : t ≠ s) :
    Spared s p m (n.popStationCycle t) where
  cycle := by
    change (n.line.stationCycles.pop t).get? s = _
    rw [StationCycles.get?_pop, if_neg hne.symm]
    exact h.cycle
  product := h.product
  others u other hu hother := by
    change (n.line.stationCycles.pop t).get? u = some other at hother
    rw [StationCycles.get?_pop] at hother
    split at hother
    · cases hother
    · exact h.others u other hu hother
  pausedByQueue := h.pausedByQueue
  around := h.around
  faulted := h.faulted

theorem Spared.operate (h : Spared s p m n) (hne : q ≠ p) (op : ContextOp) :
    Spared s p m (n.operate q op).2 where
  cycle := h.cycle
  product := by
    change (n.line.ledger.operate q op).2.byId.get? p = _
    rw [ProductLedger.get?_operate, if_neg hne.symm]
    exact h.product
  others := h.others
  pausedByQueue := h.pausedByQueue
  around := h.around
  faulted := h.faulted

theorem undisturbed_ignored (h : m.ignoreOperationWhileFaultStopped = some n) :
    Undisturbed m n := by
  unfold ignoreOperationWhileFaultStopped at h
  split at h
  · cases h
  · cases h
    exact undisturbed_emitLogEvent m

section Elsewhere

variable (hs : Calm stopped) (hq : m.pausedByQueue = false)

include hs hq

theorem Spared.faultStop (h : Spared s p m n) (reason : String) :
    Spared s p m (n.faultStop stopped reason) :=
  h.undisturbed (hs.faultStop (h.pausedByQueue.trans hq) reason).1

theorem Spared.requestRecoverableDevicePause (h : Spared s p m n) (reason : String)
    (pauseReason : PauseReason) :
    Spared s p m (n.requestRecoverableDevicePause stopped reason pauseReason).2 :=
  h.undisturbed (hs.requestRecoverableDevicePause (h.pausedByQueue.trans hq) reason pauseReason)

theorem Spared.confirmConveyorResumed (h : Spared s p m n) (hts : t ≠ s) (hqp : q ≠ p) :
    Spared s p m (n.confirmConveyorResumed stopped q t).2 := by
  simp only [Master.confirmConveyorResumed]
  split
  · exact h
  · rename_i cycle hget
    split
    · exact h
    · rename_i hid
      have hcycle : cycle.productId = q := by
        by_contra hne
        exact hid (.inl hne)
      split
      · rename_i j hj
        exact h.undisturbed (undisturbed_ignored hj)
      · split
        · exact h.faultStop hs hq _
        · simp only [Master.operate]
          have hoperated := h.operate (hcycle ▸ hqp) (.markConveyorResumedAfterCapture t)
          split
          · rename_i exc j heq
            obtain ⟨_, rfl⟩ := Prod.mk.inj heq
            exact Spared.faultStop hs hq hoperated _
          · rename_i reply j heq
            obtain ⟨_, rfl⟩ := Prod.mk.inj heq
            refine Spared.undisturbed ?_ (undisturbed_emitLogEvent _)
            exact (hoperated.popStationCycle hts).elsewhere rfl rfl rfl rfl rfl

theorem Spared.resumeConveyorAfterCapture (h : Spared s p m n) (hts : t ≠ s) (hqp : q ≠ p) :
    Spared s p m (n.resumeConveyorAfterCapture stopped q t) := by
  simp only [Master.resumeConveyorAfterCapture]
  split
  · exact h.faultStop hs hq _
  · rename_i cycle hfound
    obtain ⟨hget, _⟩ := Option.filter_eq_some_iff.mp hfound
    have hstation : cycle.stationId = t := n.line.stationCycles.keyed t cycle hget
    have hset := h.setStationCycle { cycle with
      phase := .resumePending
      deadlineNs := n.nowNs + fromMs n.config.conveyorResumeTimeoutMs } hts hget hstation rfl
    split
    · exact hset.elsewhere rfl rfl rfl rfl rfl
    · split
      · refine Spared.confirmConveyorResumed hs hq ?_ hts hqp
        exact hset.elsewhere rfl rfl rfl rfl rfl
      · exact hset.elsewhere rfl rfl rfl rfl rfl

theorem Spared.pauseStationForRecovery (h : Spared s p m n) (ha : Apart s p m) (hts : t ≠ s)
    (reason : String) : Spared s p m (n.pauseStationForRecovery stopped t reason) := by
  simp only [Master.pauseStationForRecovery]
  split
  · rename_i j hj
    exact h.undisturbed (undisturbed_ignored hj)
  · have hreconciled : Spared s p m (n.reconcileStation t).2 := by
      simp only [reconcileStation]
      split
      · exact h
      · rename_i cycle hget
        have hid := (h.apart ha).others t cycle hts hget
        have hstation : cycle.stationId = t := n.line.stationCycles.keyed t cycle hget
        split
        · exact h
        · simp only [releaseStation]
          split
          · simp only [Master.operate]
            have hoperated := h.operate hid (.promoteCaptureCompletionFromVision t)
            split
            · rename_i exc j heq
              obtain ⟨_, rfl⟩ := Prod.mk.inj heq
              exact hoperated
            · rename_i reply j heq
              obtain ⟨_, rfl⟩ := Prod.mk.inj heq
              have hset := hoperated.setStationCycle { cycle with
                phase := .resumePending, deadlineNs := 0 } hts hget hstation rfl
              exact hset.elsewhere rfl rfl rfl rfl rfl
          · have hnoted := h.undisturbed (undisturbed_noteIf n (cycle.phase = .resumePending)
              .staleReply)
            simp only [Master.operate]
            have hoperated := hnoted.operate hid (.resetUnfinishedStationCycle t)
            split
            · rename_i exc j heq
              obtain ⟨_, rfl⟩ := Prod.mk.inj heq
              exact hoperated
            · rename_i reply j heq
              obtain ⟨_, rfl⟩ := Prod.mk.inj heq
              exact (hoperated.popStationCycle hts).elsewhere rfl rfl rfl rfl rfl
    split
    · rename_i exc j heq
      rw [heq] at hreconciled
      exact hreconciled.faultStop hs hq _
    · rename_i j heq
      rw [heq] at hreconciled
      exact hreconciled.requestRecoverableDevicePause hs hq _ _

theorem Spared.cancelStationBAfterATerminal (h : Spared s p m n) (ha : Apart s p m)
    (hqp : q ≠ p) (reason : String) :
    Spared s p m (n.cancelStationBAfterATerminal stopped q reason) := by
  simp only [Master.cancelStationBAfterATerminal]
  split
  · exact h.undisturbed (undisturbed_emitLogEvent n)
  · have hasked := h.operate hqp (.requestStationBSkip reason)
    generalize (n.operate q (.requestStationBSkip reason)).2 = j at hasked
    split
    · exact hasked
    · rename_i context hcontext
      have hcanceled : Spared s p m (j.publishInferenceCancellation context StationId.b.raw
          .stationATerminalNg reason) := hasked.elsewhere rfl rfl rfl rfl rfl
      generalize j.publishInferenceCancellation context StationId.b.raw
          .stationATerminalNg reason = l at hcanceled
      split
      · rename_i cycle hfound
        obtain ⟨hget, hid⟩ := Option.filter_eq_some_iff.mp hfound
        have hid : cycle.productId = q := by simpa using hid
        have hne : StationId.b ≠ s := by
          rintro rfl
          exact hqp (hid.symm.trans ((hcanceled.apart ha).own cycle hget))
        simp only [cancelActiveStationB, hid]
        have hgone : Spared s p m (cycle.captureGoalHandle.elim l l.cancelGoal) := by
          cases cycle.captureGoalHandle with
          | none => exact hcanceled
          | some handle => exact hcanceled.elsewhere rfl rfl rfl rfl rfl
        generalize cycle.captureGoalHandle.elim l l.cancelGoal = i at hgone
        have hskipped := hgone.operate hqp (.markStationBSkipped reason)
        split
        · rename_i i' heq
          rw [heq] at hskipped
          exact (hskipped.undisturbed (undisturbed_emitLogEvent _)).resumeConveyorAfterCapture
            hs hq hne hqp
        · rename_i r i' _ heq
          rw [heq] at hskipped
          split
          · have hpromoted := hskipped.operate hqp (.promoteCaptureCompletionFromVision .b)
            exact (hpromoted.undisturbed (undisturbed_emitLogEvent _)).resumeConveyorAfterCapture
              hs hq hne hqp
          · exact hskipped
      · split
        · exact hcanceled
        · have hbypassed := hcanceled.operate hqp (.bypassStationB reason)
          split
          · rename_i i heq
            rw [heq] at hbypassed
            exact hbypassed.undisturbed (undisturbed_emitLogEvent _)
          · rename_i r i _ heq
            rw [heq] at hbypassed
            exact hbypassed

theorem Spared.cancelAfterStation (h : Spared s p m n) (ha : Apart s p m) (hqp : q ≠ p)
    (reason : String) : Spared s p m (n.cancelAfterStation stopped t q reason) := by
  simp only [Master.cancelAfterStation]
  split
  · exact h.cancelStationBAfterATerminal hs hq ha hqp reason
  · exact h

theorem Spared.finishCaptureFailure (h : Spared s p m n) (ha : Apart s p m) (hts : t ≠ s)
    (reason : String) : Spared s p m (n.finishCaptureFailure stopped t reason) := by
  simp only [Master.finishCaptureFailure]
  split
  · exact h
  · rename_i cycle hget
    have hid := (h.apart ha).others t cycle hts hget
    split
    · rename_i j hj
      exact h.undisturbed (undisturbed_ignored hj)
    · split
      · exact h.faultStop hs hq _
      · have hfailed := h.operate hid (.markCaptureFailed t cycle.captureId reason)
        split
        · rename_i exc j heq
          rw [heq] at hfailed
          exact hfailed.faultStop hs hq _
        · rename_i reply j heq
          rw [heq] at hfailed
          have hcanceled := (hfailed.undisturbed (undisturbed_emitLogEvent j)).cancelAfterStation
            (t := t) hs hq ha hid ("Station A capture failure: " ++ reason)
          refine Spared.resumeConveyorAfterCapture hs hq (Spared.undisturbed ?_
            (undisturbed_noteIf _ _ _)) hts hid
          split
          · exact hcanceled.requestRecoverableDevicePause hs hq _ _
          · exact hcanceled

theorem Spared.expireStationCycle (h : Spared s p m n) (ha : Apart s p m) (hts : t ≠ s) :
    Spared s p m (n.expireStationCycle stopped t) := by
  simp only [Master.expireStationCycle]
  split
  · exact h
  · rename_i cycle hget
    split
    · exact h
    · have hnoted := h.undisturbed (undisturbed_noteIf n (n.systemState = .faultStop)
        .expiredCycle)
      have hline : (n.noteIf (n.systemState = .faultStop) .expiredCycle).line = n.line :=
        line_noteIf _ _ _
      have hstation : cycle.stationId = t := n.line.stationCycles.keyed t cycle hget
      have hkept : (n.noteIf (n.systemState = .faultStop)
          .expiredCycle).line.stationCycles.get? t = some cycle := hline ▸ hget
      have hset := hnoted.setStationCycle { cycle with deadlineNs := 0 } hts hkept hstation rfl
      generalize (n.noteIf (n.systemState = .faultStop) .expiredCycle).setStationCycle
        { cycle with deadlineNs := 0 } = j at hset
      have hcapture : Spared s p m (if j.pausedByQueue then j
          else (cycle.captureGoalHandle.elim j j.cancelGoal).finishCaptureFailure stopped t
            "CaptureProduct timed out") := by
        split
        · exact hset
        · have hgone : Spared s p m (cycle.captureGoalHandle.elim j j.cancelGoal) := by
            cases cycle.captureGoalHandle with
            | none => exact hset
            | some handle => exact hset.elsewhere rfl rfl rfl rfl rfl
          exact hgone.finishCaptureFailure hs hq ha hts _
      split
      · exact hcapture
      · exact hcapture
      · split
        · exact hset.pauseStationForRecovery hs hq ha hts _
        · exact hset.faultStop hs hq _
      · refine Spared.requestRecoverableDevicePause hs hq ?_ _ _
        exact hset.elsewhere rfl rfl rfl rfl rfl

theorem Spared.expireStationCycles (stations : List StationId) (h : Spared s p m n)
    (ha : Apart s p m) (hnot : s ∉ stations) :
    Spared s p m (stations.foldl (Master.expireStationCycle stopped) n) := by
  induction stations generalizing n with
  | nil => exact h
  | cons t rest ih =>
    rw [List.mem_cons, not_or] at hnot
    exact ih (h.expireStationCycle hs hq ha (Ne.symm hnot.1)) hnot.2

theorem Spared.expireActuationCycles (jobs : List String) (h : Spared s p m n) :
    Spared s p m (jobs.foldl (Master.expireActuationCycle stopped) n) := by
  induction jobs generalizing n with
  | nil => exact h
  | cons job rest ih =>
    refine ih ?_
    simp only [Master.expireActuationCycle]
    split
    · exact h
    · rename_i cycle hget
      split
      · exact h
      · have hnoted := h.undisturbed (undisturbed_noteIf n (n.systemState = .faultStop)
          .expiredCycle)
        have hset : Spared s p m ((n.noteIf (n.systemState = .faultStop)
            .expiredCycle).setActuationCycle { cycle with deadlineNs := 0 }) :=
          hnoted.elsewhere rfl rfl rfl rfl rfl
        split
        · exact hset.faultStop hs hq _
        · exact hset.requestRecoverableDevicePause hs hq _ _
        · exact hset

end Elsewhere
/-! ### What the timer does for the station itself -/

def Failed (s : StationId) (p : String) (m : Master) : Prop :=
  ∃ c, m.line.product? p = some c ∧ (c.station s).failed = true

/-- The station stays alone with its product, and a failure of its capture stays recorded. -/
structure Owned (s : StationId) (p : String) (m n : Master) : Prop where
  apart : Apart s p m → Apart s p n
  pausedByQueue : n.pausedByQueue = m.pausedByQueue
  faulted : m.systemState = .faultStop → n.systemState = .faultStop
  failed : Failed s p m → Failed s p n

theorem Owned.refl (s : StationId) (p : String) (m : Master) : Owned s p m m := ⟨id, rfl, id, id⟩

theorem Owned.trans (h : Owned s p m n) (g : Owned s p n k) : Owned s p m k :=
  ⟨fun ha => g.apart (h.apart ha), g.pausedByQueue.trans h.pausedByQueue,
    fun hf => g.faulted (h.faulted hf), fun hf => g.failed (h.failed hf)⟩

theorem Owned.elsewhere (h : Owned s p m n)
    (hc : k.line.stationCycles = n.line.stationCycles) (hl : k.line.ledger = n.line.ledger)
    (hq : k.pausedByQueue = n.pausedByQueue) (hs : k.systemState = n.systemState) :
    Owned s p m k := by
  refine h.trans ⟨fun ha => ⟨?_, ?_⟩, hq, fun hf => hs.trans hf, fun hf => ?_⟩
  · rw [hc]
    exact ha.own
  · rw [hc]
    exact ha.others
  · unfold Failed PhysicalLine.product?
    rw [hl]
    exact hf

theorem Owned.undisturbed (h : Owned s p m n) (g : Undisturbed n k) : Owned s p m k := by
  refine h.trans ⟨fun ha => ⟨?_, ?_⟩, g.pausedByQueue, g.faulted, fun hf => ?_⟩
  · rw [g.line]
    exact ha.own
  · rw [g.line]
    exact ha.others
  · unfold Failed
    rw [g.line]
    exact hf

theorem Owned.setStationCycle (next : StationCycle) (h : Owned s p m n)
    (hstation : next.stationId = s) (hid : next.productId = p) :
    Owned s p m (n.setStationCycle next) := by
  refine h.trans ⟨fun ha => ⟨fun cycle hcycle => ?_, fun t cycle hne hcycle => ?_⟩, rfl, id, id⟩
  · change (n.line.stationCycles.set next).get? s = some cycle at hcycle
    rw [StationCycles.get?_set, if_pos hstation.symm] at hcycle
    cases hcycle
    exact hid
  · change (n.line.stationCycles.set next).get? t = some cycle at hcycle
    rw [StationCycles.get?_set, if_neg (hstation ▸ hne)] at hcycle
    exact ha.others t cycle hne hcycle

theorem Owned.popStationCycle (h : Owned s p m n) : Owned s p m (n.popStationCycle s) := by
  refine h.trans ⟨fun ha => ⟨fun cycle hcycle => ?_, fun t cycle hne hcycle => ?_⟩, rfl, id, id⟩
  · change (n.line.stationCycles.pop s).get? s = some cycle at hcycle
    rw [StationCycles.get?_pop, if_pos rfl] at hcycle
    cases hcycle
  · change (n.line.stationCycles.pop s).get? t = some cycle at hcycle
    rw [StationCycles.get?_pop, if_neg hne] at hcycle
    exact ha.others t cycle hne hcycle

theorem Owned.operate (h : Owned s p m n) (op : ContextOp)
    (hop : ∀ c, (c.station s).failed = true → ((op.apply c).2.station s).failed = true) :
    Owned s p m (n.operate p op).2 := by
  refine h.trans ⟨fun ha => ⟨ha.own, ha.others⟩, rfl, id, fun ⟨c, hc, hf⟩ => ?_⟩
  refine ⟨(op.apply c).2, ?_, hop c hf⟩
  change (n.line.ledger.operate p op).2.byId.get? p = _
  rw [ProductLedger.get?_operate, if_pos rfl]
  exact congrArg (Option.map _) hc

/-- What follows a failed capture leaves the record of the station as it is. -/
theorem failed_kept (c : ProductContext) (reason : String) (s : StationId) :
    ((ContextOp.requestStationBSkip reason).apply c).2.stations = c.stations ∧
      ((ContextOp.markConveyorResumedAfterCapture s).apply c).2.stations = c.stations ∧
      ((ContextOp.bypassStationB reason).apply c).2.station .a = c.station .a := by
  refine ⟨(ContextOp.request_skip_effect c reason).2.2.1, ?_, ?_⟩
  · simp only [ContextOp.apply, ContextOp.reply, ProductContext.markConveyorResumedAfterCapture]
    split
    · rfl
    · cases s <;> rfl
  · obtain ⟨skip, why, rev, hasked⟩ := c.request_skip_frame reason
    simp only [ContextOp.apply, ContextOp.reply, ProductContext.bypassStationB, hasked]
    (repeat' split) <;> rfl

section Own

variable (hs : Calm stopped) (hq : m.pausedByQueue = false)

include hs hq

theorem Owned.faultStop (h : Owned s p m n) (reason : String) :
    Owned s p m (n.faultStop stopped reason) :=
  h.undisturbed (hs.faultStop (h.pausedByQueue.trans hq) reason).1

theorem Owned.confirmConveyorResumed (h : Owned s p m n) :
    Owned s p m (n.confirmConveyorResumed stopped p s).2 := by
  simp only [Master.confirmConveyorResumed]
  split
  · exact h
  · rename_i cycle hget
    split
    · exact h
    · rename_i hid
      have hcycle : cycle.productId = p := by
        by_contra hne
        exact hid (.inl hne)
      rw [hcycle]
      split
      · rename_i j hj
        exact h.undisturbed (undisturbed_ignored hj)
      · split
        · exact h.faultStop hs hq _
        · have hoperated := h.operate (.markConveyorResumedAfterCapture s) fun c hf => by
            unfold ProductContext.station at hf ⊢
            rw [(failed_kept c "" s).2.1]
            exact hf
          split
          · rename_i exc j heq
            rw [heq] at hoperated
            exact hoperated.faultStop hs hq _
          · rename_i reply j heq
            rw [heq] at hoperated
            refine Owned.undisturbed ?_ (undisturbed_emitLogEvent _)
            exact hoperated.popStationCycle.elsewhere rfl rfl rfl rfl

theorem Owned.resumeConveyorAfterCapture (h : Owned s p m n) :
    Owned s p m (n.resumeConveyorAfterCapture stopped p s) := by
  simp only [Master.resumeConveyorAfterCapture]
  split
  · exact h.faultStop hs hq _
  · rename_i cycle hfound
    obtain ⟨hget, hid⟩ := Option.filter_eq_some_iff.mp hfound
    have hstation : cycle.stationId = s := n.line.stationCycles.keyed s cycle hget
    have hset := h.setStationCycle { cycle with
      phase := .resumePending
      deadlineNs := n.nowNs + fromMs n.config.conveyorResumeTimeoutMs } hstation
        (by simpa using hid)
    split
    · exact hset.elsewhere rfl rfl rfl rfl
    · split
      · refine Owned.confirmConveyorResumed hs hq ?_
        exact hset.elsewhere rfl rfl rfl rfl
      · exact hset.elsewhere rfl rfl rfl rfl

omit hs hq in
theorem Owned.cancelAfterStation (h : Owned s p m n) (ha : Apart s p n) (reason : String) :
    Owned s p m (n.cancelAfterStation stopped s p reason) := by
  simp only [Master.cancelAfterStation]
  split
  · rename_i hsa
    subst hsa
    simp only [Master.cancelStationBAfterATerminal]
    split
    · exact h.undisturbed (undisturbed_emitLogEvent n)
    · have hasked := h.operate (.requestStationBSkip reason) fun c hf => by
        unfold ProductContext.station at hf ⊢
        rw [(failed_kept c reason .a).1]
        exact hf
      have hsame : (n.operate p (.requestStationBSkip reason)).2.line.stationCycles =
          n.line.stationCycles := rfl
      generalize (n.operate p (.requestStationBSkip reason)).2 = j at hasked hsame
      split
      · exact hasked
      · rename_i context hcontext
        have hcanceled : Owned .a p m (j.publishInferenceCancellation context StationId.b.raw
            .stationATerminalNg reason) := hasked.elsewhere rfl rfl rfl rfl
        have hstations : (j.publishInferenceCancellation context StationId.b.raw
            .stationATerminalNg reason).line.stationCycles = n.line.stationCycles := hsame
        generalize j.publishInferenceCancellation context StationId.b.raw
            .stationATerminalNg reason = l at hcanceled hstations
        split
        · rename_i cycle hfound
          obtain ⟨hget, hid⟩ := Option.filter_eq_some_iff.mp hfound
          rw [hstations] at hget
          exact absurd (by simpa using hid) (ha.others .b cycle (by simp) hget)
        · split
          · exact hcanceled
          · have hbypassed := hcanceled.operate (.bypassStationB reason) fun c hf => by
              rw [(failed_kept c reason .a).2.2]
              exact hf
            split
            · rename_i i heq
              rw [heq] at hbypassed
              exact hbypassed.undisturbed (undisturbed_emitLogEvent _)
            · rename_i r i _ heq
              rw [heq] at hbypassed
              exact hbypassed
  · exact h

end Own
theorem failed_of_mark {c : ProductContext} {captureId reason : String} {reply : Reply}
    (h : ((ContextOp.markCaptureFailed s captureId reason).apply c).1 = .ok reply) :
    (((ContextOp.markCaptureFailed s captureId reason).apply c).2.station s).failed = true := by
  simp only [ContextOp.apply, ContextOp.reply, ProductContext.markCaptureFailed] at h ⊢
  split
  · rename_i hother
    rw [if_pos hother] at h
    cases h
  · simp [ProductContext.touch, ProductContext.setStation, ProductContext.station]

/-- The failure of a capture is recorded, or the line is stopped. -/
theorem finish_fails (cycle : StationCycle) (hs : Calm stopped) (hq : m.pausedByQueue = false)
    (ha : Apart s p m) (hget : m.line.stationCycles.get? s = some cycle) (hid : cycle.productId = p)
    {c : ProductContext} (hc : m.line.ledger.get cycle.productId cycle.fifoSequence = some c)
    (reason : String) :
    Owned s p m (m.finishCaptureFailure stopped s reason) ∧
      ((m.finishCaptureFailure stopped s reason).systemState = .faultStop ∨
        Failed s p (m.finishCaptureFailure stopped s reason)) := by
  have hproduct := PhysicalLine.product?_of_get hc
  subst hid
  simp only [Master.finishCaptureFailure, hget, hc]
  split
  · rename_i j hj
    refine ⟨(Owned.refl s cycle.productId m).undisturbed (undisturbed_ignored hj), .inl ?_⟩
    refine (undisturbed_ignored hj).faulted ?_
    unfold ignoreOperationWhileFaultStopped at hj
    split at hj
    · cases hj
    · rename_i hfault
      exact not_not.mp hfault
  · have hmarked : Owned s cycle.productId m
        (m.operate cycle.productId (.markCaptureFailed s cycle.captureId reason)).2 := by
      refine (Owned.refl s cycle.productId m).operate _ fun d hf => ?_
      simp only [ContextOp.apply, ContextOp.reply, ProductContext.markCaptureFailed]
      split
      · exact hf
      · simp [ProductContext.touch, ProductContext.setStation, ProductContext.station]
    split
    · rename_i exc j heq
      rw [heq] at hmarked
      have hj := hmarked.pausedByQueue.trans hq
      exact ⟨hmarked.faultStop hs hq _, .inl (hs.faultStop hj _).2⟩
    · rename_i reply j heq
      have hreply : ((ContextOp.markCaptureFailed s cycle.captureId reason).apply c).1 =
          .ok reply := by
        have hanswer := congrArg Prod.fst heq
        exact (ProductLedger.operate_outcome hproduct _).symm.trans hanswer
      have hfailed : Failed s cycle.productId j := by
        refine ⟨_, ?_, failed_of_mark hreply⟩
        have hline := congrArg (fun r => r.2.line.ledger.byId.get? cycle.productId) heq
        refine hline.symm.trans ?_
        change (m.line.ledger.operate cycle.productId _).2.byId.get? cycle.productId = _
        rw [ProductLedger.get?_operate, if_pos rfl]
        exact congrArg (Option.map _) hproduct
      rw [heq] at hmarked
      have hlogged := hmarked.undisturbed (undisturbed_emitLogEvent j)
      have hcanceled : Owned s cycle.productId m (j.emitLogEvent.cancelAfterStation stopped s
          cycle.productId ("Station A capture failure: " ++ reason)) :=
        hlogged.cancelAfterStation (hlogged.apart ha) _
      have hfailed' : Failed s cycle.productId (j.emitLogEvent.cancelAfterStation stopped s
          cycle.productId ("Station A capture failure: " ++ reason)) := by
        have hstep := ((Owned.refl s cycle.productId j).undisturbed (undisturbed_emitLogEvent j))
        exact (hstep.cancelAfterStation (hlogged.apart ha) _).failed hfailed
      generalize j.emitLogEvent.cancelAfterStation stopped s cycle.productId
        ("Station A capture failure: " ++ reason) = l at hcanceled hfailed'
      have hl : l.pausedByQueue = false := hcanceled.pausedByQueue.trans hq
      have hrest : Owned s cycle.productId l (((if 0 = ErrorCode.visionDiskStop.value then
          (l.requestRecoverableDevicePause stopped "Vision disk reached the 95% stop limit"
            .deviceRecoveryManual).2 else l).noteIf
          ((if 0 = ErrorCode.visionDiskStop.value then
          (l.requestRecoverableDevicePause stopped "Vision disk reached the 95% stop limit"
            .deviceRecoveryManual).2 else l).systemState = .faultStop)
            .captureResume).resumeConveyorAfterCapture stopped cycle.productId s) := by
        rw [if_neg (by decide)]
        exact Owned.resumeConveyorAfterCapture hs hl
          ((Owned.refl s cycle.productId l).undisturbed (undisturbed_noteIf _ _ _))
      exact ⟨hcanceled.trans hrest, .inr (hrest.failed hfailed')⟩

theorem expire_fails (hs : Calm stopped) (hq : m.pausedByQueue = false) (ha : Apart s p m)
    {cycle : StationCycle} (hget : m.line.stationCycles.get? s = some cycle)
    (hphase : cycle.phase = .captureGoal ∨ cycle.phase = .waitingCaptureResult)
    (hdue : deadlinePassed cycle.deadlineNs m.nowNs = true) {c : ProductContext}
    (hc : m.line.ledger.get cycle.productId cycle.fifoSequence = some c) :
    Owned s p m (m.expireStationCycle stopped s) ∧
      ((m.expireStationCycle stopped s).systemState = .faultStop ∨
        Failed s p (m.expireStationCycle stopped s)) := by
  have hid := ha.own cycle hget
  have hstation : cycle.stationId = s := m.line.stationCycles.keyed s cycle hget
  have hnoted := (Owned.refl s p m).undisturbed
    (undisturbed_noteIf m (m.systemState = .faultStop) .expiredCycle)
  have hset := hnoted.setStationCycle { cycle with deadlineNs := 0 } hstation hid
  have hledger : ((m.noteIf (m.systemState = .faultStop) .expiredCycle).setStationCycle
      { cycle with deadlineNs := 0 }).line.ledger = m.line.ledger := by
    change (m.noteIf (m.systemState = .faultStop) .expiredCycle).line.ledger = _
    rw [line_noteIf]
  have hnext : ((m.noteIf (m.systemState = .faultStop) .expiredCycle).setStationCycle
      { cycle with deadlineNs := 0 }).line.stationCycles.get? s =
        some { cycle with deadlineNs := 0 } := by
    change (StationCycles.set _ _).get? s = _
    rw [StationCycles.get?_set, if_pos hstation.symm]
  simp only [Master.expireStationCycle, hget, hdue, Bool.not_true, Bool.false_eq_true, if_false]
  generalize (m.noteIf (m.systemState = .faultStop) .expiredCycle).setStationCycle
    { cycle with deadlineNs := 0 } = j at hset hledger hnext
  have hgone : Owned s p m (cycle.captureGoalHandle.elim j j.cancelGoal) ∧
      (cycle.captureGoalHandle.elim j j.cancelGoal).line = j.line := by
    cases cycle.captureGoalHandle with
    | none => exact ⟨hset, rfl⟩
    | some handle => exact ⟨hset.elsewhere rfl rfl rfl rfl, rfl⟩
  have hfinished := finish_fails { cycle with deadlineNs := 0 } hs
    (hgone.1.pausedByQueue.trans hq) (hgone.1.apart ha) (by rw [hgone.2]; exact hnext) hid (c := c)
    (by rw [hgone.2, hledger]; exact hc) "CaptureProduct timed out"
  have hcapture : Owned s p m (if j.pausedByQueue = true then j
        else (cycle.captureGoalHandle.elim j j.cancelGoal).finishCaptureFailure stopped s
          "CaptureProduct timed out") ∧
      ((if j.pausedByQueue = true then j
        else (cycle.captureGoalHandle.elim j j.cancelGoal).finishCaptureFailure stopped s
          "CaptureProduct timed out").systemState = .faultStop ∨
        Failed s p (if j.pausedByQueue = true then j
        else (cycle.captureGoalHandle.elim j j.cancelGoal).finishCaptureFailure stopped s
          "CaptureProduct timed out")) := by
    rw [if_neg (by rw [hset.pausedByQueue, hq]; simp)]
    exact ⟨hgone.1.trans hfinished.1, hfinished.2⟩
  rcases hphase with hphase | hphase <;> rw [hphase] <;> exact hcapture
theorem apart_of_occupied (hO : m.line.Occupied) {cycle : StationCycle}
    (hget : m.line.stationCycles.get? s = some cycle) : Apart s cycle.productId m := by
  refine ⟨fun other hother => ?_, fun t other hne hother hsame => ?_⟩
  · cases hget.symm.trans hother
    rfl
  · obtain ⟨c, hc, _, hat⟩ := hO.product hget
    obtain ⟨d, hd, _, hother⟩ := hO.product hother
    rw [hsame] at hd
    cases hc.symm.trans hd
    exact hne (hother.unique hat)

/-- The loop over the stations reaches every overdue capture. -/
theorem stations_expire (hs : Calm stopped) (hq : m.pausedByQueue = false)
    (hO : m.line.Occupied) {cycle : StationCycle}
    (hget : m.line.stationCycles.get? s = some cycle)
    (hphase : cycle.phase = .captureGoal ∨ cycle.phase = .waitingCaptureResult)
    (hdue : deadlinePassed cycle.deadlineNs m.nowNs = true) :
    let n := (m.line.stationCycles.items.map Prod.fst).foldl
      (Master.expireStationCycle stopped) m
    n.pausedByQueue = false ∧ (n.systemState = .faultStop ∨ Failed s cycle.productId n) := by
  intro n
  have ha := apart_of_occupied hO hget
  have hmem : s ∈ m.line.stationCycles.items.map Prod.fst :=
    OrderedDict.mem_keys.mpr ⟨cycle, hget⟩
  have hnodup : (m.line.stationCycles.items.map Prod.fst).Nodup :=
    m.line.stationCycles.entries.nodup
  obtain ⟨before, after, hsplit⟩ := List.append_of_mem hmem
  have hn : n = after.foldl (Master.expireStationCycle stopped)
      ((before.foldl (Master.expireStationCycle stopped) m).expireStationCycle stopped s) := by
    change (m.line.stationCycles.items.map Prod.fst).foldl _ m = _
    rw [hsplit, List.foldl_append, List.foldl_cons]
  rw [hsplit, List.nodup_append, List.nodup_cons] at hnodup
  have hbefore : s ∉ before := fun h => hnodup.2.2 s h s List.mem_cons_self rfl
  have hspared := (Spared.refl s cycle.productId m).expireStationCycles hs hq before
    ha hbefore
  obtain ⟨c, hc, _⟩ := hO.stations s cycle hget
  have hproduct : (before.foldl (Master.expireStationCycle stopped) m).line.ledger.get
      cycle.productId cycle.fifoSequence = some c := by
    have hsame : (before.foldl (Master.expireStationCycle stopped) m).line.ledger.byId.get?
        cycle.productId = m.line.ledger.byId.get? cycle.productId := hspared.product
    unfold ProductLedger.get at hc ⊢
    rw [hsame]
    exact hc
  have hj := hspared.pausedByQueue.trans hq
  have hexpired := expire_fails hs hj (hspared.apart ha) (hspared.cycle.trans hget) hphase
    (by rw [Master.nowNs, hspared.around]; exact hdue) hproduct
  have hlater := (Spared.refl s cycle.productId ((before.foldl (Master.expireStationCycle stopped)
    m).expireStationCycle stopped s)).expireStationCycles hs
      (hexpired.1.pausedByQueue.trans hj) after (hexpired.1.apart (hspared.apart ha)) hnodup.2.1.1
  rw [hn]
  refine ⟨hlater.pausedByQueue.trans (hexpired.1.pausedByQueue.trans hj), ?_⟩
  rcases hexpired.2 with hfault | ⟨d, hd, hf⟩
  · exact .inl (hlater.faulted hfault)
  · exact .inr ⟨d, hlater.product.trans hd, hf⟩

/-- In a running line without a queue pause the timer fails every overdue capture, if it does
not have to stop the line. -/
theorem overdue_capture_fails (hs : Calm stopped) (hO : m.line.Occupied)
    (hrun : m.systemState = .runSys) (hidle : m.pendingRunConfirmation = false)
    (hq : m.pausedByQueue = false) {cycle : StationCycle}
    (hget : m.line.stationCycles.get? s = some cycle)
    (hphase : cycle.phase = .captureGoal ∨ cycle.phase = .waitingCaptureResult)
    (hdue : deadlinePassed cycle.deadlineNs m.nowNs = true) :
    (m.checkOperationDeadlines stopped).systemState = .faultStop ∨
      Failed s cycle.productId (m.checkOperationDeadlines stopped) := by
  have hpruned : ∃ j, m.pruneContexts = j ∧ j.line.Occupied ∧
      j.line.stationCycles = m.line.stationCycles ∧ j.systemState = m.systemState ∧
      j.pendingRunConfirmation = m.pendingRunConfirmation ∧
      j.pausedByQueue = m.pausedByQueue ∧ j.around = m.around := by
    refine ⟨_, rfl, ?_⟩
    simp only [pruneContexts]
    split
    · exact ⟨hO, rfl, rfl, rfl, rfl, rfl⟩
    · exact ⟨PhysicalLine.occupied_prune hO _, rfl, rfl, rfl, rfl, rfl⟩
  obtain ⟨j, hj, hjO, hjc, hjs, hji, hjq, hja⟩ := hpruned
  have hpause : j.checkPauseDeadline stopped = j := by
    rw [checkPauseDeadline, if_neg (by rw [hjs, hrun]; simp)]
  have hrunning : j.checkRunDeadline = j := by
    rw [checkRunDeadline, if_neg (by rw [hji, hidle]; simp)]
  have hshutdown : Undisturbed j (j.checkShutdownDeadline stopped) := by
    simp only [checkShutdownDeadline]
    split
    · refine Undisturbed.behind (hs.reportCriticalFault ?_ _ _).1 rfl rfl rfl rfl
      exact hjq.trans hq
    · exact .refl j
  simp only [checkOperationDeadlines, hj, hpause, hrunning]
  generalize j.checkShutdownDeadline stopped = k at hshutdown
  split
  · rename_i hfault
    exact .inl hfault
  · have hk := (hshutdown.pausedByQueue.trans hjq).trans hq
    have hkget : k.line.stationCycles.get? s = some cycle := by
      rw [hshutdown.line, hjc]
      exact hget
    have hexpired := stations_expire hs hk (hshutdown.line ▸ hjO) hkget hphase
      (by rw [Master.nowNs, hshutdown.around, hja]; exact hdue)
    obtain ⟨hpaused, houtcome⟩ := hexpired
    have hsorted := (Spared.refl s cycle.productId _).expireActuationCycles
      hs hpaused ((k.line.stationCycles.items.map Prod.fst).foldl
        (Master.expireStationCycle stopped) k).line.actuationCycles.keys
    rcases houtcome with hfault | ⟨c, hc, hf⟩
    · exact .inl (hsorted.faulted hfault)
    · exact .inr ⟨c, hsorted.product.trans hc, hf⟩

end Master

end InspectionLine
