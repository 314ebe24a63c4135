import InspectionLine.FaultRuns
import InspectionLine.ResumeRequests
import InspectionLine.RunRequests

/-! # What Master tells the conveyors in all runs -/
namespace InspectionLine

open Supervision

namespace Master

variable {m : Master}

/-- Control reports whether both conveyors run. Nothing else speaks against a start. -/
def reported (running : Bool) (nowNs : ℕ) : MasterEvent :=
  called (.equipmentState {
    sessionId := numberedUuid 0
    upperRunning := running, upperStopped := !running
    lowerRunning := running, lowerStopped := !running
    sensorClear := fun _ => true
    actuatorSafe := true }) nowNs

/-! ### No belt restart under a capture -/

theorem resume_log_of_reachable (h : Reachable m) : ResumeLog m.toSupervision := by
  refine reachable_invariant (P := ResumeLog) (fun config around => ?_)
    (fun v w _ hv hmoves => resume_log_moves (x := (v, {})) hv hmoves)
    (fun v operatorId hv _ => hv.of_same rfl rfl rfl rfl) h
  refine ⟨fun _ _ => rfl, fun r hr => ?_, fun request hrequest => ?_⟩
  · cases hr
  · cases hrequest

/-- An event that asks for a run of a paused line finds no capture that needs its conveyor at
rest. -/
def ResumesAtRest (m : Master) (e : MasterEvent) : Prop := m.AsksToResume e → AtRest m.line

instance (m : Master) (e : MasterEvent) : Decidable (m.ResumesAtRest e) :=
  inferInstanceAs (Decidable (_ → _))

variable {config : MasterConfig} {around : Surroundings}

theorem requests_at_rest (h : InputRuns.Execution next ResumesAtRest (initial config around) m) :
    ∀ request ∈ m.history.resumeRequests, AtRest request.line := by
  refine h.invariant (P := fun m => ∀ request ∈ m.history.resumeRequests, AtRest request.line)
    (fun k e hk he => ?_) fun request hrequest => by cases hrequest
  rcases handle_requests (sparing_whenStopped stopDepth) (sparing_whenStopped stopDepth)
    (settles_whenStopped stopDepth) k e with hspared | ⟨hasks, request, hlogged, hrest⟩
  · intro request hrequest
    exact hk request (hspared ▸ hrequest)
  · intro other hother
    rcases List.mem_cons.mp (hlogged ▸ hother) with rfl | hother
    · exact hrest (he hasks)
    · exact hk other hother

/-- If the line is resumed at rest, every published RESUME is safe: neither a START nor the end of
a capture restarts a belt under another capture. -/
theorem restarts_safe_of_resumed_at_rest
    (h : InputRuns.Execution next ResumesAtRest (initial config around) m) :
    ∀ r ∈ m.commands, RestartsSafely r := by
  have hreachable : Reachable m := ⟨config, around, h.mono fun _ _ _ => trivial⟩
  exact (restarts_safely_iff (resume_log_of_reachable hreachable)).mpr (requests_at_rest h)

example : (runLine .sim false [commanded 2 2, commanded 3 3, commanded 4 4]).systemState =
    .runSys := by decide +kernel

/-- The operator pauses and resumes while the goal of a capture is not answered yet. -/
def resumedUnderCapture : List MasterEvent :=
  [commanded 2 2, sensed "sensor1" 1, called (.positionSettled (numberedUuid 0) 1) 1000,
    commanded 3 3, commanded 4 4]

theorem belt_restarted_under_capture :
    ¬∀ m, Reachable m → ∀ r ∈ m.commands, RestartsSafely r := by
  intro h
  have hsafe := h _ (reachable_runLine .sim false resumedUnderCapture)
  have hresumed : ((runLine .sim false resumedUnderCapture).commands.head?.map fun r =>
      (r.command.commandType, r.command.targetConveyorId)) = some (2, allConveyors) := by
    decide +kernel
  have hcapturing : ((runLine .sim false resumedUnderCapture).commands.head?.map fun r =>
      (r.line.stationCycles.get? .a).map fun cycle => NeedsRest r.line cycle) =
      some (some true) := by decide +kernel
  obtain ⟨r, hr, hcommand⟩ := Option.map_eq_some_iff.mp hresumed
  rw [hr, Option.map_some] at hcapturing
  obtain ⟨cycle, hcycle, hneeds⟩ := Option.map_eq_some_iff.mp (Option.some.inj hcapturing)
  have hmoves := hsafe r (List.mem_of_mem_head? hr) (congrArg Prod.fst hcommand) .a cycle hcycle
    (.inl (congrArg Prod.snd hcommand))
  rw [hneeds] at hmoves
  cases hmoves

/-- The capture fails while the line is paused, and the product waits for the resume. -/
def resumedAtRest : List MasterEvent :=
  [commanded 2 2, sensed "sensor1" 1, called (.positionSettled (numberedUuid 0) 1) 1000,
    commanded 3 3, failedCapture .a "P-11111111-000001" (numberedUuid 9), commanded 4 4]

/-- The line is resumed with a product at Station A, whose capture has failed. -/
theorem restarts_safe_after_failed_capture :
    (runLine .sim false resumedAtRest).systemState = .runSys ∧
      (∃ request ∈ (runLine .sim false resumedAtRest).history.resumeRequests,
        (request.line.stationCycles.get? .a).isSome = true) ∧
      ∀ r ∈ (runLine .sim false resumedAtRest).commands, RestartsSafely r := by
  refine ⟨by decide +kernel, by decide +kernel, ?_⟩
  have htrace : InputRuns.ValidTrace next ResumesAtRest (initial (defaultConfig .sim false)
      { nowNs := 1, nowNs_nonneg := Int.one_nonneg }) (startUp ++ resumedAtRest) := by
    decide +kernel
  exact restarts_safe_of_resumed_at_rest (InputRuns.valid_trace_execution htrace)

/-! ### Conveyors are not left commanded to run -/

/-- In a run in which no request to run is given up unanswered, a line that neither runs nor
waits to run was last told to stop. -/
theorem conveyors_left_stopped (h : Reachable m)
    (hkept : ¬Noted m.toSupervision .abandonedRun) : LeftStopped m.toSupervision := by
  refine reachable_invariant (P := fun v => ¬Noted v .abandonedRun → LeftStopped v)
    (fun config around _ _ _ r hr => ?_) (fun v w _ hv hmoves hw => ?_)
    (fun v operatorId hv _ hw => ?_) h hkept
  · cases hr
  · exact left_stopped_moves (x := (v, {})) (hv fun hn => hw (noted_of_moves hmoves hn)) hmoves hw
  · exact (hv hw).of_same rfl rfl rfl

def unansweredRun : List MasterEvent :=
  [reported false 1000, commanded 2 6, commanded 3 2,
    called .checkOperationDeadlines 20000000000]

theorem conveyors_left_running : ¬∀ m, Reachable m → LeftStopped m.toSupervision := by
  intro h
  have hstopped := h _ (reachable_runLine .hardware false unansweredRun)
  have hready : (runLine .hardware false unansweredRun).systemState = .ready := by
    decide +kernel
  have hanswered : (runLine .hardware false unansweredRun).pendingRunConfirmation = false := by
    decide +kernel
  have hlast : (lastForAll (runLine .hardware false unansweredRun).commands).map
      (·.command.commandType) = some (CommandType.raw .resume) := by decide +kernel
  obtain ⟨r, hr, hresume⟩ := Option.map_eq_some_iff.mp hlast
  exact hstopped (by rw [hready]; decide) hanswered r hr hresume

/-- A line that has been started and paused was last told to stop. -/
theorem conveyors_left_stopped_after_pause :
    LeftStopped (runLine .sim false [commanded 2 2, commanded 3 3]).toSupervision := by
  refine conveyors_left_stopped (reachable_runLine .sim false _) ?_
  have hnone : (runLine .sim false [commanded 2 2, commanded 3 3]).history.lapses = [] := by
    decide +kernel
  rw [Noted, hnone]
  exact List.not_mem_nil

/-! ### RUN only when it was granted -/

theorem run_log_confirmed {v : Supervision} (hv : RunLog v) (operatorId : String) :
    RunLog (v.confirmedBy operatorId) := by
  refine ⟨hv.log, fun hpending => ?_⟩
  obtain ⟨hestop, hgranted⟩ := hv.pending hpending
  exact ⟨hestop, hgranted.imp_left fun ⟨hs, hg, hempty, _⟩ => ⟨hs, hg, hempty, rfl⟩⟩

theorem run_log_of_reachable (h : Reachable m) : RunLog m.toSupervision := by
  refine reachable_invariant (P := RunLog) (fun config around => ?_)
    (fun v w _ hv hmoves => run_log_moves (x := (v, {})) hv hmoves)
    (fun v operatorId hv _ => run_log_confirmed hv operatorId) h
  exact ⟨trivial, fun hpending => by cases hpending⟩

/-- Every transition into RUN_SYS follows its grant, with all guards met at the grant, and what
cannot wait still holds at the transition. -/
theorem runs_granted (h : Reachable m) : RunsGranted m.transitions :=
  (run_log_of_reachable h).log

def answeredRun : List MasterEvent :=
  [reported false 1000, commanded 2 6, commanded 3 2, reported true 1000]

theorem answered_run_granted :
    ∃ m : Master, Reachable m ∧ m.systemState = .runSys ∧ RunsGranted m.transitions := by
  obtain ⟨m, hm⟩ : ∃ m, m = runLine .hardware false answeredRun := ⟨_, rfl⟩
  have hreachable : Reachable m := hm ▸ reachable_runLine .hardware false answeredRun
  have hrunning : (runLine .hardware false answeredRun).systemState = .runSys := by
    decide +kernel
  exact ⟨m, hreachable, hm ▸ hrunning, runs_granted hreachable⟩

/-- At the transitions into RUN_SYS itself the guards hold that its request was granted for. -/
def RunsOnlyReady (transitions : List TransitionRecord) : Prop :=
  ∀ r ∈ transitions, r.transition.current = .runSys →
    (r.transition.previous = .ready → r.guards.start = true) ∧
      (r.transition.previous = .paused → r.guards.resume = true)

/-- A start asks for stopped conveyors, and RUN_SYS waits for running ones. -/
theorem started_conveyors_not_stopped : ¬∀ m, Reachable m → RunsOnlyReady m.transitions := by
  intro h
  have hready := h _ (reachable_runLine .hardware false answeredRun)
  have hrun : ((runLine .hardware false answeredRun).transitions.head?.map fun r =>
      (r.transition.previous, r.transition.current, r.guards.start)) =
      some (.ready, .runSys, false) := by decide +kernel
  obtain ⟨r, hr, hrecord⟩ := Option.map_eq_some_iff.mp hrun
  have hguards := (hready r (List.mem_of_mem_head? hr)
    (congrArg (·.2.1) hrecord)).1 (congrArg Prod.fst hrecord)
  rw [show r.guards.start = false from congrArg (·.2.2) hrecord] at hguards
  cases hguards

end Master

end InspectionLine
