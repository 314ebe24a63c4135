import InspectionLine.SensorEvents
import InspectionLine.InputRuns
import Mathlib.Data.List.Chain

/-! # Sensor events are accepted once and without gaps

The registry is followed next to the log of what it has accepted since the last reset. -/
namespace InspectionLine

structure SensorCall where
  sensorId : String
  eventId : String
  sequence : ℕ
  digest : String
  deriving DecidableEq, Repr

structure SensorHistory where
  registry : SensorEventRegistry
  accepted : List SensorCall := []

namespace SensorHistory

def answer (h : SensorHistory) (call : SensorCall) : SensorEventOutcome × SensorEventRegistry :=
  h.registry.accept call.sensorId call.eventId call.sequence call.digest

def next (h : SensorHistory) (call : SensorCall) : SensorHistory where
  registry := (h.answer call).2
  accepted := if (h.answer call).1 = .accepted then h.accepted ++ [call] else h.accepted

/-- The calls that follow a reset. -/
def sinceReset (r : SensorEventRegistry) (calls : List SensorCall) : SensorHistory :=
  InputRuns.runTrace next { registry := r.reset } calls

def sequences (h : SensorHistory) (sensorId : String) : List ℕ :=
  (h.accepted.filter fun call => call.sensorId = sensorId).map (·.sequence)

/-- The accepted calls whose events are remembered. -/
def remembered (h : SensorHistory) : List SensorCall :=
  h.accepted.rtake h.registry.eventCapacity

/-- The registry knows the last number of each sensor and the last accepted events. -/
structure Tracks (h : SensorHistory) : Prop where
  digests : h.registry.eventDigests.entries = h.remembered.map fun call =>
    (call.eventId, call.digest)
  last : ∀ s, h.registry.lastSequence.get? s = (h.sequences s).getLast?
  consecutive : ∀ s, (h.sequences s).IsChain fun earlier later => later = earlier + 1

theorem answer_cases (h : SensorHistory) (call : SensorCall) :
    (h.answer call).1 ≠ .accepted ∧ h.next call = h ∨
      (h.answer call).1 = .accepted ∧ h.registry.eventDigests.get? call.eventId = none ∧
        (∀ previous, h.registry.lastSequence.get? call.sensorId = some previous →
          call.sequence = previous + 1) ∧
        h.next call = ⟨h.registry.record call.sensorId call.eventId call.sequence call.digest,
          h.accepted ++ [call]⟩ := by
  unfold next answer SensorEventRegistry.accept
  split
  · left
    split <;> exact ⟨by simp, rfl⟩
  · rename_i hnew
    split
    · exact .inl ⟨by simp, rfl⟩
    · split
      · rename_i hfirst
        exact .inr ⟨rfl, hnew, by simp [hfirst], rfl⟩
      · rename_i previous hprevious
        split
        · exact .inl ⟨by simp, rfl⟩
        · split
          · exact .inl ⟨by simp, rfl⟩
          · rename_i hsuccessor
            refine .inr ⟨rfl, hnew, fun p hp => ?_, rfl⟩
            rw [hprevious] at hp
            cases hp
            exact not_not.mp hsuccessor

theorem sequences_concat (r : SensorEventRegistry) (accepted : List SensorCall)
    (call : SensorCall) (s : String) :
    (⟨r, accepted ++ [call]⟩ : SensorHistory).sequences s =
      (⟨r, accepted⟩ : SensorHistory).sequences s ++
        if call.sensorId = s then [call.sequence] else [] := by
  unfold sequences
  rw [List.filter_append, List.map_append]
  by_cases hs : call.sensorId = s <;> simp [hs]

theorem tracks_next {h : SensorHistory} (ht : Tracks h) (call : SensorCall) :
    Tracks (h.next call) := by
  rcases answer_cases h call with ⟨_, hsame⟩ | ⟨_, hnew, hsuccessor, hnext⟩
  · exact hsame.symm ▸ ht
  · rw [hnext]
    refine ⟨?_, fun s => ?_, fun s => ?_⟩
    · have habsent : call.eventId ∉ h.registry.eventDigests.keys :=
        OrderedDict.get?_eq_none.mp hnew
      simp only [SensorEventRegistry.record, OrderedDict.insert, habsent, dite_false]
      change ((h.registry.eventDigests.entries ++ [(call.eventId, call.digest)]).rtake
        h.registry.eventCapacity) = _
      have hmap : (h.remembered.map fun call => (call.eventId, call.digest)) =
          (h.accepted.map fun call => (call.eventId, call.digest)).rtake
            h.registry.eventCapacity := by
        simp [remembered, List.rtake, List.map_drop]
      rw [ht.digests, hmap, OrderedDict.rtake_concat]
      simp [remembered, List.rtake, List.map_drop]
    · rw [sequences_concat]
      change (h.registry.lastSequence.insert call.sensorId call.sequence).get? s = _
      rw [OrderedDict.get?_insert]
      by_cases hs : s = call.sensorId
      · rw [if_pos hs, if_pos hs.symm, List.getLast?_concat]
      · rw [if_neg hs, if_neg (Ne.symm hs), List.append_nil]
        exact ht.last s
    · rw [sequences_concat]
      split
      · rename_i hs
        refine List.isChain_append.mpr ⟨ht.consecutive s, List.isChain_singleton _,
          fun previous hprevious following hfollowing => ?_⟩
        cases hfollowing
        subst hs
        exact hsuccessor previous ((ht.last call.sensorId).trans hprevious)
      · rw [List.append_nil]
        exact ht.consecutive s

theorem tracks_since_reset (r : SensorEventRegistry) (calls : List SensorCall) :
    Tracks (sinceReset r calls) := by
  have hrun : InputRuns.Execution next (fun _ _ => True) { registry := r.reset }
      (sinceReset r calls) :=
    InputRuns.valid_trace_execution (InputRuns.valid_trace_of_total _ calls)
  refine hrun.invariant (P := Tracks) (fun h call ht _ => tracks_next ht call)
    ⟨?_, fun s => rfl, fun s => ?_⟩
  · simp [remembered, SensorEventRegistry.reset, List.rtake]
  · exact List.isChain_nil

/-- Every event is accepted once and in the order of its sensor, whatever comes between; the
last events are recognised, and a refused call leaves no trace. -/
structure AcceptsOnce (h : SensorHistory) : Prop where
  consecutive : ∀ s, (h.sequences s).IsChain fun earlier later => later = earlier + 1
  once : (h.accepted.map fun call => (call.sensorId, call.sequence)).Nodup
  refused : ∀ call, (h.answer call).1 ≠ .accepted → (h.answer call).2 = h.registry
  bounded : h.registry.eventDigests.size ≤ h.registry.eventCapacity
  recognised : ∀ earlier ∈ h.remembered, ∀ call, call.eventId = earlier.eventId →
    (h.answer call).1 = if call.digest = earlier.digest then .duplicate else .conflict

theorem nodup_of_growing {l : List SensorCall}
    (h : ∀ s, ((l.filter fun call => call.sensorId = s).map (·.sequence)).Pairwise (· < ·)) :
    (l.map fun call => (call.sensorId, call.sequence)).Nodup := by
  induction l with
  | nil => exact List.nodup_nil
  | cons call l ih =>
    refine List.nodup_cons.mpr ⟨fun hmem => ?_, ih fun s => ?_⟩
    · obtain ⟨other, hother, hsame⟩ := List.mem_map.mp hmem
      obtain ⟨hsensor, hsequence⟩ := Prod.mk.inj hsame
      have hgrowing := h call.sensorId
      rw [List.filter_cons_of_pos (by simp), List.map_cons, List.pairwise_cons] at hgrowing
      have hless := hgrowing.1 other.sequence (List.mem_map.mpr
        ⟨other, List.mem_filter.mpr ⟨hother, by simpa using hsensor⟩, rfl⟩)
      omega
    · refine (h s).sublist (List.Sublist.map _ ?_)
      exact (List.sublist_cons_self call l).filter _

theorem answer_remembered {h : SensorHistory} (ht : Tracks h) {earlier : SensorCall}
    (hmem : earlier ∈ h.remembered) {call : SensorCall} (hid : call.eventId = earlier.eventId) :
    (h.answer call).1 = if call.digest = earlier.digest then .duplicate else .conflict := by
  have hdigest : h.registry.eventDigests.get? call.eventId = some earlier.digest := by
    rw [OrderedDict.get?_eq_some, ht.digests, hid]
    exact List.mem_map.mpr ⟨earlier, hmem, rfl⟩
  unfold answer SensorEventRegistry.accept
  rw [hdigest]
  by_cases hsame : call.digest = earlier.digest
  · simp [hsame]
  · simp [hsame, Ne.symm hsame]

/-- Between two resets, whatever the sensors report and in whatever order. -/
theorem sensor_events_accepted_once (r : SensorEventRegistry) (calls : List SensorCall) :
    AcceptsOnce (sinceReset r calls) := by
  have ht := tracks_since_reset r calls
  refine ⟨ht.consecutive, nodup_of_growing fun s => ?_, fun call hrefused => ?_, ?_,
    fun earlier hmem call hid => answer_remembered ht hmem hid⟩
  · have hgrowing := (ht.consecutive s).imp fun earlier later hsuccessor =>
      (show earlier < later by omega)
    exact List.isChain_iff_pairwise.mp hgrowing
  · rcases answer_cases (sinceReset r calls) call with ⟨_, hsame⟩ | ⟨haccepted, _⟩
    · exact congrArg SensorHistory.registry hsame
    · exact absurd haccepted hrefused
  · exact (sinceReset r calls).registry.bounded

end SensorHistory

end InspectionLine
