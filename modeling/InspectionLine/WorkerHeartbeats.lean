import InspectionLine.WorkerSupervision
import Mathlib.Data.List.Basic

/-! # The heartbeats of an old and a new instance

Master keeps the instance and the sequence of the last heartbeat only. So the instance it
follows is that of the last arrival, and an instance it has given up looks like a new one. -/
namespace InspectionLine

structure HeartbeatArrival where
  nodeInstanceId : String
  sequence : ℕ
  healthState : NodeHealthState := .ready
  interfaceVersion : String := "1"
  sessionId : String := ""
  receivedNs : ℤ := 0
  deriving DecidableEq, Repr

namespace WorkerRuntimeState

variable {w : WorkerRuntimeState} {x : HeartbeatArrival} {old new : String}

def arrive (w : WorkerRuntimeState) (x : HeartbeatArrival) :
    HeartbeatUpdate × WorkerRuntimeState :=
  w.acceptHeartbeat x.nodeInstanceId x.sequence x.healthState x.interfaceVersion x.sessionId
    x.receivedNs

def verdicts (w : WorkerRuntimeState) :
    List HeartbeatArrival → List (HeartbeatArrival × HeartbeatUpdate)
  | [] => []
  | x :: xs => (x, (w.arrive x).1) :: (w.arrive x).2.verdicts xs

/-- Everything accept_heartbeat does: it drops a heartbeat, or follows its instance from now on
and gives up the evidence of another one. -/
theorem accept_heartbeat_cases (w : WorkerRuntimeState) (nodeInstanceId : String) (sequence : ℕ)
    (healthState : NodeHealthState) (interfaceVersion sessionId : String) (receivedNs : ℤ)
    {u : HeartbeatUpdate} {v : WorkerRuntimeState}
    (h : w.acceptHeartbeat nodeInstanceId sequence healthState interfaceVersion sessionId
      receivedNs = (u, v)) :
    (u.accepted = false ∧ u.restarted = false ∧ v = w ∧
      (nodeInstanceId = "" ∨ sequence = 0 ∨
        w.heartbeatNodeInstanceId = nodeInstanceId ∧ sequence ≤ w.heartbeatSequence)) ∨
    (u.accepted = true ∧ nodeInstanceId ≠ "" ∧ sequence ≠ 0 ∧
      (u.restarted = true ↔
        w.heartbeatNodeInstanceId ≠ "" ∧ w.heartbeatNodeInstanceId ≠ nodeInstanceId) ∧
      v = { (if u.restarted then
          { w with actionReady := false, statusVerified := false, ready := false } else w) with
        heartbeatNodeInstanceId := nodeInstanceId
        heartbeatSequence := sequence
        heartbeatHealthState := healthState
        interfaceVersion := interfaceVersion
        heartbeatSessionId := sessionId
        heartbeatReceivedNs := receivedNs }) := by
  simp only [acceptHeartbeat] at h
  split at h
  · rename_i hinvalid
    cases h
    exact .inl ⟨rfl, rfl, rfl, hinvalid.imp_right .inl⟩
  · rename_i hvalid
    obtain ⟨hid, hsequence⟩ := not_or.mp hvalid
    split at h
    · rename_i hstale
      cases h
      exact .inl ⟨rfl, rfl, rfl, .inr (.inr ⟨of_decide_eq_true hstale.1, hstale.2⟩)⟩
    · cases h
      refine .inr ⟨rfl, hid, hsequence, ?_, rfl⟩
      simp

/-- A heartbeat with identity and sequence: its instance is followed afterwards, another one is
always accepted, and a restart is the change from one instance to another. -/
theorem arrive_spec (hid : x.nodeInstanceId ≠ "") (hsequence : x.sequence ≠ 0) :
    (w.arrive x).2.heartbeatNodeInstanceId = x.nodeInstanceId ∧
      (w.heartbeatNodeInstanceId ≠ x.nodeInstanceId → (w.arrive x).1.accepted = true) ∧
      ((w.arrive x).1.restarted = true ↔
        w.heartbeatNodeInstanceId ≠ "" ∧ w.heartbeatNodeInstanceId ≠ x.nodeInstanceId) := by
  rcases accept_heartbeat_cases w x.nodeInstanceId x.sequence x.healthState x.interfaceVersion
    x.sessionId x.receivedNs (u := (w.arrive x).1) (v := (w.arrive x).2) rfl with
    ⟨_, hrestarted, hsame, hdropped⟩ | ⟨haccepted, _, _, hrestarted, hv⟩
  · have hstale : w.heartbeatNodeInstanceId = x.nodeInstanceId :=
      ((hdropped.resolve_left hid).resolve_left hsequence).1
    rw [hsame, hrestarted]
    exact ⟨hstale, fun hother => absurd hstale hother, by simp [hstale]⟩
  · exact ⟨by rw [hv], fun _ => haccepted, hrestarted⟩

theorem map_fst_verdicts (w : WorkerRuntimeState) (arrivals : List HeartbeatArrival) :
    (w.verdicts arrivals).map Prod.fst = arrivals := by
  induction arrivals generalizing w with
  | nil => rfl
  | cons x xs ih => exact congrArg (x :: ·) (ih _)

/-- Heartbeats of an instance and of its replacement, each one's in increasing sequence. -/
structure Interleaved (old new : String) (arrivals : List HeartbeatArrival) : Prop where
  distinct : old ≠ new
  named : old ≠ "" ∧ new ≠ ""
  both : ∀ x ∈ arrivals, x.nodeInstanceId = old ∨ x.nodeInstanceId = new
  numbered : ∀ x ∈ arrivals, x.sequence ≠ 0
  increasing : arrivals.Pairwise fun x y =>
    x.nodeInstanceId = y.nodeInstanceId → x.sequence < y.sequence

def RestartOnce (w : WorkerRuntimeState) (arrivals : List HeartbeatArrival) : Prop :=
  ((w.verdicts arrivals).filter fun v => v.2.restarted).length ≤ 1

/-- Once the new instance has been adopted, no heartbeat of the old one is accepted. -/
def OldStaysOut (old new : String) (w : WorkerRuntimeState) (arrivals : List HeartbeatArrival) :
    Prop :=
  (w.verdicts arrivals).Pairwise fun u v =>
    u.1.nodeInstanceId = new → u.2.accepted = true → v.1.nodeInstanceId = old →
      v.2.accepted = false

def OldFallsSilent (old new : String) (arrivals : List HeartbeatArrival) : Prop :=
  arrivals.Pairwise fun x y => x.nodeInstanceId = new → y.nodeInstanceId ≠ old

instance (w : WorkerRuntimeState) (arrivals : List HeartbeatArrival) :
    Decidable (RestartOnce w arrivals) :=
  inferInstanceAs (Decidable (_ ≤ _))

section Two

variable {xs : List HeartbeatArrival}

theorem Interleaved.tail (h : Interleaved old new (x :: xs)) : Interleaved old new xs where
  distinct := h.distinct
  named := h.named
  both y hy := h.both y (List.mem_cons_of_mem _ hy)
  numbered y hy := h.numbered y (List.mem_cons_of_mem _ hy)
  increasing := h.increasing.of_cons

theorem Interleaved.head_spec (h : Interleaved old new (x :: xs)) (w : WorkerRuntimeState) :
    (w.arrive x).2.heartbeatNodeInstanceId = x.nodeInstanceId ∧
      (w.heartbeatNodeInstanceId ≠ x.nodeInstanceId → (w.arrive x).1.accepted = true) ∧
      ((w.arrive x).1.restarted = true ↔
        w.heartbeatNodeInstanceId ≠ "" ∧ w.heartbeatNodeInstanceId ≠ x.nodeInstanceId) := by
  refine arrive_spec (fun hempty => ?_) (h.numbered x List.mem_cons_self)
  rcases h.both x List.mem_cons_self with hx | hx <;> rw [hempty] at hx
  · exact h.named.1 hx.symm
  · exact h.named.2 hx.symm

theorem no_restart_of_followed (h : Interleaved old new xs)
    (hw : w.heartbeatNodeInstanceId = new) (hnew : ∀ x ∈ xs, x.nodeInstanceId ≠ old) :
    (w.verdicts xs).filter (fun v => v.2.restarted) = [] := by
  induction xs generalizing w with
  | nil => rfl
  | cons x xs ih =>
    obtain ⟨hfollowed, _, hrestarted⟩ := h.head_spec w
    have hx : x.nodeInstanceId = new :=
      (h.both x List.mem_cons_self).resolve_left (hnew x List.mem_cons_self)
    have hquiet : ¬(w.arrive x).1.restarted = true := by
      rw [hrestarted, hw, hx]
      exact fun hother => hother.2 rfl
    rw [verdicts, List.filter_cons, if_neg hquiet]
    exact ih h.tail (hfollowed.trans hx) fun y hy => hnew y (List.mem_cons_of_mem _ hy)

theorem silent_of_rejected (h : Interleaved old new xs)
    (hw : w.heartbeatNodeInstanceId = new)
    (hrejected : ∀ v ∈ w.verdicts xs, v.1.nodeInstanceId = old → v.2.accepted = false) :
    ∀ x ∈ xs, x.nodeInstanceId ≠ old := by
  induction xs generalizing w with
  | nil =>
    intro x hx
    cases hx
  | cons x xs ih =>
    obtain ⟨hfollowed, haccepted, _⟩ := h.head_spec w
    have hx : x.nodeInstanceId ≠ old := by
      intro hold
      have hother : w.heartbeatNodeInstanceId ≠ x.nodeInstanceId := by
        rw [hw, hold]
        exact h.distinct.symm
      have hdropped := hrejected _ List.mem_cons_self hold
      rw [haccepted hother] at hdropped
      cases hdropped
    have hnew := (h.both x List.mem_cons_self).resolve_left hx
    have hrest := ih h.tail (hfollowed.trans hnew) fun v hv =>
      hrejected v (List.mem_cons_of_mem _ hv)
    intro y hy
    rcases List.mem_cons.mp hy with rfl | hy
    · exact hx
    · exact hrest y hy

theorem silent_of_old_out (h : Interleaved old new xs)
    (hw : w.heartbeatNodeInstanceId = "" ∨ w.heartbeatNodeInstanceId = old)
    (hout : OldStaysOut old new w xs) : OldFallsSilent old new xs := by
  induction xs generalizing w with
  | nil => exact .nil
  | cons x xs ih =>
    obtain ⟨hfollowed, haccepted, _⟩ := h.head_spec w
    obtain ⟨hhead, htail⟩ := List.pairwise_cons.mp hout
    rcases h.both x List.mem_cons_self with hold | hnew
    · refine List.pairwise_cons.mpr ⟨fun y _ hnew => ?_, ?_⟩
      · exact absurd (hold.symm.trans hnew) h.distinct
      · exact ih h.tail (.inr (hfollowed.trans hold)) htail
    · have hother : w.heartbeatNodeInstanceId ≠ x.nodeInstanceId := by
        rw [hnew]
        rcases hw with hw | hw <;> rw [hw]
        · exact h.named.2.symm
        · exact h.distinct
      have hsilent := silent_of_rejected h.tail (hfollowed.trans hnew) fun v hv =>
        hhead v hv hnew (haccepted hother)
      refine List.pairwise_cons.mpr ⟨fun y hy _ => hsilent y hy, ?_⟩
      exact List.pairwise_of_forall_mem_list fun _ _ y hy _ => hsilent y hy

theorem restart_once_of_silent (h : Interleaved old new xs)
    (hw : w.heartbeatNodeInstanceId = "" ∨ w.heartbeatNodeInstanceId = old)
    (hsilent : OldFallsSilent old new xs) : RestartOnce w xs := by
  induction xs generalizing w with
  | nil => exact Nat.zero_le 1
  | cons x xs ih =>
    obtain ⟨hfollowed, _, hrestarted⟩ := h.head_spec w
    obtain ⟨hhead, htail⟩ := List.pairwise_cons.mp hsilent
    unfold RestartOnce
    rcases h.both x List.mem_cons_self with hold | hnew
    · have hquiet : ¬(w.arrive x).1.restarted = true := by
        rw [hrestarted, hold]
        rintro ⟨hsome, hother⟩
        exact hw.elim hsome hother
      rw [verdicts, List.filter_cons, if_neg hquiet]
      exact ih h.tail (.inr (hfollowed.trans hold)) htail
    · have hrest := no_restart_of_followed h.tail (hfollowed.trans hnew)
        fun y hy => hhead y hy hnew
      rw [verdicts, List.filter_cons, hrest]
      split
      · exact le_rfl
      · exact Nat.zero_le 1

end Two

/-- One restart is reported once, and the old instance stays out, exactly when the old instance
is silent from the first heartbeat of the new one on. -/
theorem restart_reported_once {arrivals : List HeartbeatArrival}
    (h : Interleaved old new arrivals)
    (hw : w.heartbeatNodeInstanceId = "" ∨ w.heartbeatNodeInstanceId = old) :
    RestartOnce w arrivals ∧ OldStaysOut old new w arrivals ↔
      OldFallsSilent old new arrivals := by
  constructor
  · intro hclaim
    exact silent_of_old_out h hw hclaim.2
  · intro hsilent
    refine ⟨restart_once_of_silent h hw hsilent, ?_⟩
    have hpairs : ((w.verdicts arrivals).map Prod.fst).Pairwise fun x y =>
        x.nodeInstanceId = new → y.nodeInstanceId ≠ old := by
      rw [map_fst_verdicts]
      exact hsilent
    refine (List.pairwise_map.mp hpairs).imp ?_
    intro u v hkept hnew _ hold
    exact absurd hold (hkept hnew)

/-- A heartbeat of the old process that is delivered late. -/
def lateHeartbeat : List HeartbeatArrival :=
  [{ nodeInstanceId := "old", sequence := 5 }, { nodeInstanceId := "new", sequence := 1 },
    { nodeInstanceId := "old", sequence := 6 }]

theorem late_heartbeat_interleaved : Interleaved "old" "new" lateHeartbeat where
  distinct := by decide
  named := by decide
  both := by decide
  numbered := by decide
  increasing := by decide

theorem late_heartbeat_restarts_again :
    ¬∀ (old new : String) (w : WorkerRuntimeState) (arrivals : List HeartbeatArrival),
      Interleaved old new arrivals →
        w.heartbeatNodeInstanceId = "" ∨ w.heartbeatNodeInstanceId = old →
        RestartOnce w arrivals ∧ OldStaysOut old new w arrivals := by
  intro h
  have hclaim := h "old" "new" { workerId := .control } lateHeartbeat late_heartbeat_interleaved
    (.inl rfl)
  exact absurd hclaim.1 (by decide)

/-- The heartbeats before the late one report the restart once. -/
theorem restart_reported_once_in_order :
    RestartOnce { workerId := .control } (lateHeartbeat.take 2) ∧
      OldStaysOut "old" "new" { workerId := .control } (lateHeartbeat.take 2) := by
  refine (restart_reported_once ⟨by decide, by decide, by decide, by decide, by decide⟩
    (.inl rfl)).mpr ?_
  unfold OldFallsSilent
  decide

end WorkerRuntimeState

end InspectionLine
