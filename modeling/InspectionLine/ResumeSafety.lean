import InspectionLine.LineSupervision

/-! # No belt restart under a capture -/
namespace InspectionLine

namespace Supervision

/-- The capture of a station is over: it succeeded, failed or was skipped. -/
def captureFinished (i : StationInspection) : Bool :=
  i.processState = .captureCompleted || i.processState = .failed || i.processState = .skipped

/-- A cycle that needs its conveyor at rest: it waits for the position to settle, or its
capture is not finished. -/
def NeedsRest (line : PhysicalLine) (cycle : StationCycle) : Bool :=
  let station := (line.ledger.get cycle.productId cycle.fifoSequence).map
    (·.station cycle.stationId)
  match cycle.phase with
  | .waitingPosition => !(station.any (·.positionSettled))
  | .captureGoal | .waitingCaptureResult => !(station.any captureFinished)
  | .resumePending => false

def AtRest (line : PhysicalLine) : Prop :=
  ∀ s cycle, line.stationCycles.get? s = some cycle → NeedsRest line cycle = false

instance (line : PhysicalLine) : Decidable (AtRest line) :=
  decidable_of_iff (∀ s, (line.stationCycles.get? s).all fun cycle => !NeedsRest line cycle) <| by
    simp [AtRest, Option.all_eq_true]

def Covers (command : SystemCommand) (conveyor : ConveyorId) : Prop :=
  command.targetConveyorId = allConveyors ∨ command.targetConveyorId = conveyor.raw

/-- A published RESUME finds every cycle on the conveyors it covers without need of rest. -/
def RestartsSafely (r : CommandRecord) : Prop :=
  r.command.commandType = CommandType.raw .resume →
    ∀ s cycle, r.line.stationCycles.get? s = some cycle → Covers r.command cycle.conveyorId →
      NeedsRest r.line cycle = false

structure ResumeLog (v : Supervision) : Prop where
  empty : BeforeRun v.systemState = true → ∀ s, v.line.stationCycles.get? s = none
  published : ∀ r ∈ v.commands, RestartsSafely r ∨
    ∃ request ∈ v.history.resumeRequests, request.line = r.line
  requested : ∀ request ∈ v.history.resumeRequests, ∃ r ∈ v.commands,
    r.line = request.line ∧ RunsAll r.command

theorem before_run_after {before after : SystemState} {event : SystemEvent}
    (h : before.after event = some after) (hplain : event ≠ .resetSucceededEmptyLine)
    (hafter : BeforeRun after = true) : BeforeRun before = true := by
  cases before <;> cases event <;>
    simp_all [SystemState.after, faultRule, transitionRule, BeforeRun] <;>
    subst h <;> simp_all

theorem restarts_of_empty {r : CommandRecord} (h : ∀ s, r.line.stationCycles.get? s = none) :
    RestartsSafely r := by
  intro _ s cycle hcycle
  rw [h s] at hcycle
  cases hcycle

theorem raw_injective {c d : ConveyorId} (h : c.raw = d.raw) : c = d := by
  cases c <;> cases d <;> first | rfl | cases h

/-- A RESUME for the conveyor of a finished capture. -/
theorem restarts_of_pending {r : CommandRecord} {s : StationId} {cycle : StationCycle}
    (hcycle : r.line.stationCycles.get? s = some cycle) (hphase : cycle.phase = .resumePending)
    (htarget : r.command.targetConveyorId = s.conveyor.raw) : RestartsSafely r := by
  intro _ t other hother hcovers
  have hconveyor : other.conveyorId = s.conveyor := by
    rcases hcovers with h | h
    · exact absurd (htarget.symm.trans h) (conveyor_is_not_all _)
    · exact raw_injective (h.symm.trans htarget)
  rw [StationCycles.conveyor_of_get? hother] at hconveyor
  cases StationId.conveyor_injective hconveyor
  rw [hcycle] at hother
  cases hother
  simp [NeedsRest, hphase]

theorem ResumeLog.enter {v : Supervision} {t : SystemTransition} (guards : GuardReport)
    (hv : ResumeLog v) (accepted : Accepts v t) (hevent : t.event ≠ .resetSucceededEmptyLine) :
    ResumeLog (v.enter t guards) where
  empty h := hv.empty (before_run_after accepted.2 hevent h)
  published := hv.published
  requested := hv.requested

theorem ResumeLog.of_same {v w : Supervision} (hv : ResumeLog v)
    (hs : w.systemState = v.systemState) (hl : w.line = v.line) (hc : w.commands = v.commands)
    (hr : w.history.resumeRequests = v.history.resumeRequests) : ResumeLog w :=
  ⟨by rw [hs, hl]; exact hv.empty, by rw [hc, hr]; exact hv.published,
    by rw [hc, hr]; exact hv.requested⟩

theorem ResumeLog.publish {v : Supervision} (hv : ResumeLog v) {command : SystemCommand}
    {reason : String} (hr : RestartsSafely ⟨command, reason, v.line⟩) :
    ResumeLog (v.publish command reason) where
  empty := hv.empty
  published other hother := by
    rcases List.mem_cons.mp hother with rfl | hother
    · exact .inl hr
    · exact hv.published other hother
  requested request hrequest := by
    obtain ⟨other, hother, h⟩ := hv.requested request hrequest
    exact ⟨other, List.mem_cons_of_mem _ hother, h⟩

theorem restarts_of_stop {command : SystemCommand} {reason : String} {line : PhysicalLine}
    (h : StopsAll command) : RestartsSafely ⟨command, reason, line⟩ := by
  intro hresume
  rw [h.1] at hresume
  cases hresume

theorem resume_log_move {x y : Supervision × Debt} (hv : ResumeLog x.1) (h : Move x y) :
    ResumeLog y.1 := by
  cases h with
  | transit accepted plain =>
    refine hv.enter _ accepted ?_
    rintro he
    simp [he, Plain] at plain
  | @grantRun v d t guards command reason accepted event =>
    have hentered := hv.enter guards accepted (by simp [event])
    have hready : v.systemState = .ready := by
      have hafter := accepted.2
      rw [event] at hafter
      cases hstate : v.systemState <;>
        simp_all [SystemState.after, faultRule, transitionRule]
    have hempty : ∀ s, v.line.stationCycles.get? s = none := hv.empty (by simp [hready, BeforeRun])
    have hpending : ResumeLog { v.enter t guards with pendingRunConfirmation := true } :=
      hentered.of_same rfl rfl rfl rfl
    exact hpending.publish (restarts_of_empty hempty)
  | @grantResume v d t guards command reason automatic accepted event granted guarded runs =>
    refine ⟨?_, fun r hr => ?_, fun request hrequest => ?_⟩
    · refine (hv.enter guards accepted ?_).empty
      rcases event with he | he <;> simp [he]
    · rcases List.mem_cons.mp hr with rfl | hr
      · exact .inr ⟨_, List.mem_cons_self, rfl⟩
      · rcases hv.published r hr with h | ⟨request, hrequest, hline⟩
        · exact .inl h
        · exact .inr ⟨request, List.mem_cons_of_mem _ hrequest, hline⟩
    · rcases List.mem_cons.mp hrequest with rfl | hrequest
      · exact ⟨_, List.mem_cons_self, rfl, runs⟩
      · obtain ⟨r, hr, h⟩ := hv.requested request hrequest
        exact ⟨r, List.mem_cons_of_mem _ hr, h⟩
  | @abandonRun v d t guards accepted event =>
    refine (hv.enter guards accepted ?_).of_same rfl rfl rfl rfl
    rcases event with he | he <;> simp [he]
  | @run v d t guards equipment accepted event =>
    exact (hv.enter guards accepted (by simp [event])).of_same rfl rfl rfl rfl
  | @pause v d t guards command reason accepted event stops =>
    have hentered := hv.enter guards accepted (by rcases event with he | he <;> simp [he])
    have hpaused : ResumeLog { v.enter t guards with pendingRunConfirmation := false } :=
      hentered.of_same rfl rfl rfl rfl
    exact hpaused.publish (restarts_of_stop stops)
  | @lineClearFault v d t guards command reason e accepted event stops =>
    have hfault : ResumeLog { v with
        recoveryPolicy := .lineClearRequired, pendingRunConfirmation := false } :=
      hv.of_same rfl rfl rfl rfl
    exact (hfault.enter guards accepted (by simp [event])).publish (restarts_of_stop stops)
  | @equipmentFault v d t guards command reason equipment accepted event _ _ stops =>
    have hfault : ResumeLog { v with
        equipment, recoveryPolicy := .equipmentCheckRequired, pendingRunConfirmation := false } :=
      hv.of_same rfl rfl rfl rfl
    refine (hfault.enter guards accepted ?_).publish (restarts_of_stop stops)
    rcases event with he | he <;> simp [he]
  | @pauseFault v d t guards command reason accepted state event stops =>
    have hfault : ResumeLog { v with recoveryPolicy := .equipmentCheckRequired } :=
      hv.of_same rfl rfl rfl rfl
    refine (hfault.enter guards accepted ?_).publish (restarts_of_stop stops)
    rcases event with he | he <;> simp [he]
  | lineClear nowNs accepted event policy => exact ⟨fun _ _ => rfl, hv.published, hv.requested⟩
  | @resetInPlace v d t guards accepted event policy =>
    exact (hv.enter guards accepted (by simp [event])).of_same rfl rfl rfl rfl
  | work working started =>
    refine ⟨fun h s => ?_, hv.published, hv.requested⟩
    rcases started with hrun | hkept
    · rw [hrun] at h
      cases h
    · exact hkept.cycles s (hv.empty h s)
  | prune cutoffNs => exact ⟨hv.empty, hv.published, hv.requested⟩
  | publish reason safe =>
    refine hv.publish ?_
    rcases safe with htype | ⟨s, cycle, hcycle, hphase, htarget⟩
    · exact fun h => absurd h htype
    · exact restarts_of_pending hcycle hphase htarget
  | _ => exact hv.of_same rfl rfl rfl rfl

theorem resume_log_moves {x y : Supervision × Debt} (hv : ResumeLog x.1) (h : Moves x y) :
    ResumeLog y.1 := by
  induction h with
  | refl => exact hv
  | tail _ hmove ih => exact resume_log_move ih hmove

/-- All restarts are safe exactly when every granted resume request found the line at rest. -/
theorem restarts_safely_iff {v : Supervision} (hv : ResumeLog v) :
    (∀ r ∈ v.commands, RestartsSafely r) ↔
      ∀ request ∈ v.history.resumeRequests, AtRest request.line := by
  constructor
  · intro h request hrequest s cycle hcycle
    obtain ⟨r, hr, hline, htype, htarget⟩ := hv.requested request hrequest
    rw [← hline] at hcycle ⊢
    exact h r hr htype s cycle hcycle (.inl htarget)
  · intro h r hr
    rcases hv.published r hr with hsafe | ⟨request, hrequest, hline⟩
    · exact hsafe
    · intro _ s cycle hcycle _
      rw [← hline] at hcycle ⊢
      exact h request hrequest s cycle hcycle

end Supervision

end InspectionLine
