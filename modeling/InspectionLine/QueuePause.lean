import InspectionLine.CycleConsistency
import InspectionLine.RunRequests

/-! # A queue pause ends with the resume -/
namespace InspectionLine

def PhysicalLine.DeadlinesRun (L : PhysicalLine) (expiring : List StationId) : Prop :=
  ∀ s cycle, L.stationCycles.get? s = some cycle → cycle.phase ≠ .resumePending →
    cycle.deadlineNs ≠ 0 ∨ s ∈ expiring

structure ResumeRequest.Clean (r : ResumeRequest) : Prop where
  flag : r.automatic = true ∨ r.pausedByQueue = false
  deadlines : r.line.DeadlinesRun []

namespace Supervision

open PhysicalLine (DeadlinesRun)

structure QueuePauseOver (v : Supervision) (d : Debt) : Prop where
  deadlines : DeadlinesRun v.line d.expiring
  flag : v.pausedByQueue = true → d.blocked = true

/-- A resume is under way, or has led to the present RUN_SYS. -/
def Resuming (v : Supervision) : Prop :=
  v.systemState = .paused ∧ v.pendingRunConfirmation = true ∨
    v.systemState = .runSys ∧ ∃ r ∈ v.transitions.head?, r.transition.previous = .paused

def QueueReleased (v : Supervision) (d : Debt) : Prop := Resuming v → QueuePauseOver v d

theorem deadlines_step {config : MasterConfig} {stale excused again : Prop} {x y : LineWatch}
    (h : DeadlinesRun x.line x.debt.expiring) (step : LineStep config stale excused again x y)
    (hstale : ¬stale) : DeadlinesRun y.line y.debt.expiring := by
  have hset : ∀ {L : PhysicalLine} {s : StationId} {cycle next : StationCycle}
      {expiring more : List StationId}, DeadlinesRun L expiring →
      L.stationCycles.get? s = some cycle → next.SameProduct cycle → expiring ⊆ more →
      (next.phase ≠ .resumePending → next.deadlineNs ≠ 0 ∨ s ∈ more) →
      ∀ t other, (L.stationCycles.set next).get? t = some other →
        other.phase ≠ .resumePending → other.deadlineNs ≠ 0 ∨ t ∈ more := by
    intro L s cycle next expiring more hL hcycle hsame hmore hnext t other hother hphase
    have hstation : next.stationId = s := hsame.1.trans (L.stationCycles.keyed s cycle hcycle)
    rw [StationCycles.get?_set] at hother
    split at hother
    · rename_i hts
      cases hother
      rw [hts, hstation]
      exact hnext hphase
    · exact (hL t other hother hphase).imp_right fun hm => hmore hm
  have hpop : ∀ {L : PhysicalLine} {s : StationId} {expiring : List StationId},
      DeadlinesRun L expiring → ∀ t other, (L.stationCycles.pop s).get? t = some other →
        other.phase ≠ .resumePending → other.deadlineNs ≠ 0 ∨ t ∈ expiring := by
    intro L s expiring hL t other hother
    rw [StationCycles.get?_pop] at hother
    split at hother
    · cases hother
    · exact hL t other hother
  cases step with
  | @endCapture L n d s p cycle ops =>
    intro t other hother
    rw [(L.operateAll_frame p ops).1] at hother
    exact h t other hother
  | pend resumes cycleAt same phase =>
    exact hset h cycleAt same (List.Subset.refl _) fun hp => absurd phase hp
  | @rewatch L n d s cycle next cycleAt same phase =>
    refine hset h cycleAt same (List.Subset.refl _) fun hp => ?_
    rcases phase with ⟨hphase, hdeadline⟩ | ⟨_, hcycle, hdeadline⟩
    · rw [hdeadline]
      exact h s cycle cycleAt (hphase ▸ hp)
    · rcases hdeadline with hdeadline | hdeadline
      · rw [hdeadline]
        exact h s cycle cycleAt (hcycle.resolve_right hstale)
      · exact .inl hdeadline
  | expire cycleAt =>
    exact hset h cycleAt ⟨rfl, rfl, rfl⟩ (List.subset_cons_self _ _) fun _ =>
      .inr List.mem_cons_self
  | resume | release => exact hpop h
  | @start L n d s p c cycle reply ledger issued free _ _ _ _ _ _ opened =>
    intro t other hother hphase
    change (L.stationCycles.set cycle).get? t = some other at hother
    rw [StationCycles.get?_set] at hother
    split at hother
    · cases hother
      exact .inl opened.2.2.2
    · exact h t other hother hphase
  | _ => exact h

theorem QueueReleased.of_same {v w : Supervision} {d e : Debt} (hv : QueueReleased v d)
    (hs : w.systemState = v.systemState) (hp : w.pendingRunConfirmation = v.pendingRunConfirmation)
    (ht : w.transitions = v.transitions) (hl : w.line.stationCycles = v.line.stationCycles)
    (hq : w.pausedByQueue = v.pausedByQueue) (he : d.expiring ⊆ e.expiring)
    (hb : d.blocked = true → e.blocked = true) : QueueReleased w e := by
  intro hresuming
  unfold Resuming at hresuming
  rw [hs, hp, ht] at hresuming
  have hover := hv hresuming
  refine ⟨fun s cycle hcycle hphase => ?_, fun h => hb (hover.flag (hq ▸ h))⟩
  rw [hl] at hcycle
  exact (hover.deadlines s cycle hcycle hphase).imp_right fun hm => he hm

/-- After a transition to neither PAUSED nor RUN_SYS nothing is claimed. -/
theorem released_elsewhere {v : Supervision} {d : Debt} (hp : v.systemState ≠ .paused)
    (hr : v.systemState ≠ .runSys) : QueueReleased v d := by
  rintro (⟨hs, _⟩ | ⟨hs, _⟩)
  · exact absurd hs hp
  · exact absurd hs hr

theorem released_idle {v : Supervision} {d : Debt} (hp : v.pendingRunConfirmation = false)
    (hr : v.systemState ≠ .runSys) : QueueReleased v d := by
  rintro (⟨_, hs⟩ | ⟨hs, _⟩)
  · exact absurd (hp.symm.trans hs) (by simp)
  · exact absurd hs hr

theorem queue_move {x y : Supervision × Debt} (hlog : RunLog x.1) (hv : QueueReleased x.1 x.2)
    (h : Move x y) (hclean : ∀ r ∈ y.1.history.resumeRequests, r.Clean)
    (hstale : ¬Noted y.1 .staleReply) (hblocked : ¬Noted y.1 .blockedResume) :
    QueueReleased y.1 y.2 := by
  cases h with
  | @transit v d t guards accepted plain =>
    have hrun : t.current ≠ .runSys := by
      refine only_run_enters accepted.2 ?_
      rintro he
      rw [he] at plain
      cases plain
    refine released_idle (v := v.enter t guards) ?_ hrun
    change v.pendingRunConfirmation = false
    have hafter := accepted.2
    refine hlog.quiet ?_ ?_ <;> intro hs <;> rw [show v.systemState = _ from hs] at hafter <;>
      cases he : t.event <;>
      simp_all [SystemState.after, faultRule, transitionRule, Plain]
  | @grantRun v d t guards command reason accepted event =>
    have hready : t.current = .ready := by
      have hafter := accepted.2
      rw [event] at hafter
      cases hs : v.systemState <;>
        simp_all [SystemState.after, faultRule, transitionRule]
    have hne : t.current ≠ .paused ∧ t.current ≠ .runSys := by simp [hready]
    exact released_elsewhere hne.1 hne.2
  | @grantResume v d t guards command reason automatic accepted event =>
    intro _
    have hrequest := hclean _ List.mem_cons_self
    refine ⟨fun s cycle hcycle hphase => ?_, fun hq => ?_⟩
    · exact .inl ((hrequest.deadlines s cycle hcycle hphase).resolve_right (by simp))
    · rcases hrequest.flag with ha | hf
      · change (d.blocked || automatic) = true
        rw [show automatic = true from ha, Bool.or_true]
      · exact absurd ((show v.pausedByQueue = true from hq).symm.trans hf) (by simp)
  | @abandonRun v d t guards accepted event =>
    refine released_idle rfl (only_run_enters accepted.2 ?_)
    rcases event with he | he <;> simp [he]
  | @run v d t guards equipment accepted event pending =>
    intro hresuming
    rcases (hresuming : Resuming _) with ⟨_, hp⟩ | ⟨_, r, hr, hprevious⟩
    · cases hp
    · cases hr
      have hpaused : v.systemState = .paused := accepted.1.symm.trans hprevious
      have hover := hv (.inl ⟨hpaused, pending⟩)
      exact ⟨hover.deadlines, hover.flag⟩
  | @pause v d t guards command reason accepted event =>
    refine released_idle rfl (only_run_enters accepted.2 ?_)
    rcases event with he | he <;> simp [he]
  | @lineClearFault v d t guards command reason e accepted event =>
    exact released_idle rfl (only_run_enters accepted.2 (by simp [event]))
  | @equipmentFault v d t guards command reason equipment accepted event =>
    refine released_idle rfl (only_run_enters accepted.2 ?_)
    rcases event with he | he <;> simp [he]
  | @pauseFault v d t guards command reason accepted state event =>
    refine released_idle ?_ (only_run_enters accepted.2 ?_)
    · exact hlog.quiet (by simp [state]) (by simp [state])
    · rcases event with he | he <;> simp [he]
  | @lineClear v d t guards nowNs accepted event =>
    refine released_elsewhere ?_ (only_run_enters accepted.2 (by simp [event]))
    have hafter := accepted.2
    rw [event] at hafter
    change t.current ≠ .paused
    cases hs : v.systemState <;>
      simp_all [SystemState.after, faultRule, transitionRule]
    simp [← hafter]
  | @resetInPlace v d t guards accepted event =>
    refine released_idle ?_ (only_run_enters accepted.2 (by simp [event]))
    have hafter := accepted.2
    rw [event] at hafter
    refine hlog.quiet ?_ ?_ <;> intro hs <;> rw [show v.systemState = _ from hs] at hafter <;>
      simp [SystemState.after, faultRule, transitionRule] at hafter
  | @work v d d' line issued working started step =>
    intro hresuming
    have hover := hv hresuming
    refine ⟨deadlines_step hover.deadlines step hstale, fun hq => ?_⟩
    have hb := hover.flag hq
    cases step <;> exact hb
  | @discharge v d d' paid =>
    intro hresuming
    have hover := hv hresuming
    cases paid with
    | unexpire rest owed renewed =>
      refine ⟨fun s cycle hcycle hphase => ?_, hover.flag⟩
      refine (hover.deadlines s cycle hcycle hphase).imp_right fun hm => ?_
      change s ∈ d.expiring at hm
      rw [owed] at hm
      rcases List.mem_cons.mp hm with rfl | hrest
      · exact absurd (renewed cycle hcycle).1 hphase
      · exact hrest
    | _ => exact ⟨hover.deadlines, hover.flag⟩
  | @unexpire v d s rest owed spared =>
    intro hresuming
    have hover := hv hresuming
    refine ⟨fun t cycle hcycle hphase => ?_, hover.flag⟩
    refine (hover.deadlines t cycle hcycle hphase).imp_right fun hm => ?_
    change t ∈ d.expiring at hm
    rw [owed] at hm
    rcases List.mem_cons.mp hm with rfl | hrest
    · rcases (spared cycle hcycle).2 with hs | ⟨hq, hb⟩
      · rcases hresuming with ⟨hp, _⟩ | ⟨hr, _⟩
        · exact absurd (hs.symm.trans hp) (by simp)
        · exact absurd (hs.symm.trans hr) (by simp)
      · exact absurd (hb.symm.trans (hover.flag hq)) (by simp)
    · exact hrest
  | @unblock v d stopped idle =>
    rintro (⟨hs, hp⟩ | ⟨hs, _⟩)
    · rcases idle hs with hidle | hnoted
      · exact absurd (hidle.symm.trans hp) (by simp)
      · exact absurd hnoted hblocked
    · exact absurd hs stopped
  | blockQueue =>
    intro hresuming
    exact ⟨(hv hresuming).deadlines, fun _ => rfl⟩
  | clearQueue =>
    intro hresuming
    exact ⟨(hv hresuming).deadlines, fun hq => by cases hq⟩
  | owe more => exact hv.of_same rfl rfl rfl rfl rfl more.expiring more.blocked
  | _ => exact hv.of_same rfl rfl rfl rfl rfl (List.Subset.refl _) id

theorem resume_requests_kept {x y : Supervision × Debt} (h : Move x y) :
    x.1.history.resumeRequests ⊆ y.1.history.resumeRequests := by
  cases h with
  | grantResume => exact List.subset_cons_self _ _
  | _ => exact List.Subset.refl _

theorem resume_requests_of_moves {x y : Supervision × Debt} (h : Moves x y) :
    x.1.history.resumeRequests ⊆ y.1.history.resumeRequests := by
  induction h with
  | refl => exact List.Subset.refl _
  | tail _ hmove ih => exact fun r hr => resume_requests_kept hmove (ih hr)

theorem queue_moves {x y : Supervision × Debt} (hlog : RunLog x.1) (hv : QueueReleased x.1 x.2)
    (h : Moves x y) (hclean : ∀ r ∈ y.1.history.resumeRequests, r.Clean)
    (hstale : ¬Noted y.1 .staleReply) (hblocked : ¬Noted y.1 .blockedResume) :
    QueueReleased y.1 y.2 := by
  induction h with
  | refl => exact hv
  | tail hbefore hmove ih =>
    have hreleased := ih (fun r hr => hclean r (resume_requests_kept hmove hr))
      (fun hn => hstale (noted_of_move hmove hn)) fun hn => hblocked (noted_of_move hmove hn)
    exact queue_move (run_log_moves hlog hbefore) hreleased hmove hclean hstale hblocked

end Supervision

end InspectionLine
