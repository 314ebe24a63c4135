import InspectionLine.SensorEvents
import InspectionLine.InputRuns

/-! # The reorder buffer lets the locks out in order

Whatever the order in which the locks come in, what has been let out is the run of sequence
numbers without a gap that starts at the first one. -/
namespace InspectionLine

namespace ProductResultReorderBuffer

variable {b : ProductResultReorderBuffer}

/-- Every pending lock is stored under its own number and is still due. -/
def Sorted (b : ProductResultReorderBuffer) : Prop :=
  ∀ n lock, b.pending.get? n = some lock → lock.fifoSequence = n ∧ b.nextSequence ≤ n

structure Drains (b : ProductResultReorderBuffer) (ready : List LockedProduct)
    (rest : ProductResultReorderBuffer) : Prop where
  next : rest.nextSequence = b.nextSequence + ready.length
  ready : ∀ i lock, ready[i]? = some lock → b.pending.get? (b.nextSequence + i) = some lock
  pending : ∀ n, rest.pending.get? n =
    if n < rest.nextSequence then none else b.pending.get? n
  drained : rest.pending.get? rest.nextSequence = none

theorem drains_release {steps : ℕ} (hb : b.Sorted) (hsteps : b.pending.size ≤ steps) :
    Drains b (release steps b).1 (release steps b).2 := by
  induction steps generalizing b with
  | zero =>
    have hempty : ∀ n, b.pending.get? n = none := by
      intro n
      rw [OrderedDict.get?_eq_none, OrderedDict.keys,
        List.eq_nil_of_length_eq_zero (Nat.le_zero.mp hsteps)]
      exact List.not_mem_nil
    refine ⟨rfl, fun i lock hlock => ?_, fun n => ?_, hempty _⟩
    · cases hlock
    · simp [release, hempty n]
  | succ steps ih =>
    unfold release
    split
    · rename_i hnone
      refine ⟨rfl, fun i lock hlock => ?_, fun n => ?_, hnone⟩
      · cases hlock
      · split
        · rename_i hn
          change n < b.nextSequence at hn
          change b.pending.get? n = none
          by_contra hsome
          obtain ⟨lock, hlock⟩ := Option.ne_none_iff_exists'.mp hsome
          exact absurd (hb n lock hlock).2 (by omega)
        · rfl
    · rename_i ready hready
      have hsize := OrderedDict.size_erase_of_some hready
      have hpending : ∀ n, (b.pending.erase b.nextSequence).get? n =
          if n = b.nextSequence then none else b.pending.get? n :=
        OrderedDict.get?_erase _ _
      have hsorted : Sorted { b with
          pending := b.pending.erase b.nextSequence
          nextSequence := b.nextSequence + 1
          next_pos := Nat.succ_pos _ } := by
        intro n lock hlock
        change (b.pending.erase b.nextSequence).get? n = some lock at hlock
        rw [hpending] at hlock
        split at hlock
        · cases hlock
        · obtain ⟨hown, hdue⟩ := hb n lock hlock
          exact ⟨hown, by change b.nextSequence + 1 ≤ n; omega⟩
      have hrest := ih hsorted (by change (b.pending.erase b.nextSequence).size ≤ steps; omega)
      generalize release steps { b with
          pending := b.pending.erase b.nextSequence
          nextSequence := b.nextSequence + 1
          next_pos := Nat.succ_pos _ } = released at hrest ⊢
      have hnext : released.2.nextSequence = b.nextSequence + 1 + released.1.length := hrest.next
      refine ⟨?_, fun i lock hlock => ?_, fun n => ?_, hrest.drained⟩
      · change released.2.nextSequence = b.nextSequence + (released.1.length + 1)
        omega
      · cases i with
        | zero =>
          cases hlock
          exact hready
        | succ i =>
          have hlater := hrest.ready i lock hlock
          change (b.pending.erase b.nextSequence).get? (b.nextSequence + 1 + i) = _ at hlater
          rw [hpending, if_neg (by omega)] at hlater
          rw [← hlater]
          congr 1
          omega
      · have hlater := hrest.pending n
        change _ = if n < released.2.nextSequence then none else
          (b.pending.erase b.nextSequence).get? n at hlater
        rw [hlater, hpending]
        split
        · rfl
        · rw [if_neg (by omega)]

theorem sorted_insert (hb : b.Sorted) {result : LockedProduct}
    (hdue : b.nextSequence ≤ result.fifoSequence) :
    Sorted { b with pending := b.pending.insert result.fifoSequence result } := by
  intro n lock hlock
  change (b.pending.insert result.fifoSequence result).get? n = some lock at hlock
  rw [OrderedDict.get?_insert] at hlock
  split at hlock
  · rename_i hn
    cases hlock
    exact ⟨hn.symm, hn ▸ hdue⟩
  · exact hb n lock hlock

theorem add_cases (hb : b.Sorted) (result : LockedProduct) :
    result.fifoSequence < b.nextSequence ∧ b.add result = (.ok [], b) ∨
      b.nextSequence ≤ result.fifoSequence ∧
        (∃ pending, b.pending.get? result.fifoSequence = some pending ∧ pending ≠ result) ∧
        b.add result = (.error (.valueError "conflicting lock for fifo_sequence"), b) ∨
      b.nextSequence ≤ result.fifoSequence ∧
        (∀ pending, b.pending.get? result.fifoSequence = some pending → pending = result) ∧
        ∃ ready rest, b.add result = (.ok ready, rest) ∧
          Drains { b with pending := b.pending.insert result.fifoSequence result } ready rest := by
  unfold add
  split
  · rename_i hpast
    exact .inl ⟨hpast, rfl⟩
  · rename_i hdue
    right
    split
    · rename_i hconflict
      rw [Option.any_eq_true] at hconflict
      obtain ⟨pending, hpending, hdiffers⟩ := hconflict
      exact .inl ⟨by omega, ⟨pending, hpending, by simpa using hdiffers⟩, rfl⟩
    · rename_i hconflict
      refine .inr ⟨by omega, fun pending hpending => ?_, _, _, rfl,
        drains_release (sorted_insert hb (by omega)) le_rfl⟩
      by_contra hdiffers
      exact hconflict (by simp [hpending, hdiffers])

theorem Drains.sorted {ready : List LockedProduct} {rest : ProductResultReorderBuffer}
    (h : Drains b ready rest) (hb : b.Sorted) : rest.Sorted := by
  intro n lock hlock
  rw [h.pending] at hlock
  split at hlock
  · cases hlock
  · exact ⟨(hb n lock hlock).1, by omega⟩

theorem add_past {result : LockedProduct} (hpast : result.fifoSequence < b.nextSequence) :
    b.add result = (.ok [], b) := if_pos hpast

/-- A buffer that holds nothing back lets the next lock out at once. -/
theorem add_due (hempty : ∀ n, b.pending.get? n = none) {result : LockedProduct}
    (hdue : result.fifoSequence = b.nextSequence) :
    ∃ rest, b.add result = (.ok [result], rest) ∧
      rest.nextSequence = b.nextSequence + 1 ∧ ∀ n, rest.pending.get? n = none := by
  have hsorted : b.Sorted := fun n lock hlock => by rw [hempty] at hlock; cases hlock
  have hinserted : ∀ n, (b.pending.insert result.fifoSequence result).get? n =
      if n = b.nextSequence then some result else none := by
    intro n
    rw [OrderedDict.get?_insert, hdue, hempty]
  rcases add_cases hsorted result with ⟨hpast, _⟩ | ⟨_, ⟨pending, hpending, _⟩, _⟩ |
    ⟨_, _, ready, rest, hadd, hdrains⟩
  · omega
  · rw [hempty] at hpending
    cases hpending
  · have hnext : rest.nextSequence = b.nextSequence + ready.length := hdrains.next
    have hready : ∀ i lock, ready[i]? = some lock → i = 0 ∧ lock = result := by
      intro i lock hlock
      have hstored := hdrains.ready i lock hlock
      change (b.pending.insert result.fifoSequence result).get? (b.nextSequence + i) = _ at hstored
      rw [hinserted] at hstored
      split at hstored
      · cases hstored
        exact ⟨by omega, rfl⟩
      · cases hstored
    have hrest : ∀ n, rest.pending.get? n = if n < rest.nextSequence then none else
        if n = b.nextSequence then some result else none := by
      intro n
      rw [← hinserted n]
      exact hdrains.pending n
    have hone : ready = [result] := by
      match ready, hready with
      | [], _ =>
        have hdrained := hdrains.drained
        rw [hrest, hnext, if_neg (by simp), if_pos (by simp)] at hdrained
        cases hdrained
      | [lock], hready => rw [(hready 0 lock rfl).2]
      | _ :: lock :: _, hready => exact absurd (hready 1 lock rfl).1 (by simp)
    rw [hone, List.length_singleton] at hnext
    refine ⟨rest, hone ▸ hadd, hnext, fun n => ?_⟩
    rw [hrest]
    split
    · rfl
    · rw [if_neg (by omega)]

end ProductResultReorderBuffer

/-- A buffer next to the locks it was given and those it has let out. -/
structure ReorderHistory where
  buffer : ProductResultReorderBuffer
  offered : List LockedProduct := []
  released : List LockedProduct := []

namespace ReorderHistory

open ProductResultReorderBuffer

def next (h : ReorderHistory) (result : LockedProduct) : ReorderHistory :=
  let offered := h.offered ++ [result]
  match h.buffer.add result with
  | (.error _, buffer) => { h with buffer, offered }
  | (.ok ready, buffer) => ⟨buffer, offered, h.released ++ ready⟩

def run (firstSequence : ℕ) (hfirst : 0 < firstSequence) (calls : List LockedProduct) :
    ReorderHistory :=
  InputRuns.runTrace next
    { buffer := { nextSequence := firstSequence, next_pos := hfirst } } calls

theorem offered_next (h : ReorderHistory) (result : LockedProduct) :
    (h.next result).offered = h.offered ++ [result] := by
  unfold next
  split <;> rfl

theorem offered_run (firstSequence : ℕ) (hfirst : 0 < firstSequence)
    (calls : List LockedProduct) : (run firstSequence hfirst calls).offered = calls := by
  have h : ∀ calls (h : ReorderHistory),
      (InputRuns.runTrace next h calls).offered = h.offered ++ calls := by
    intro calls
    induction calls with
    | nil => exact fun h => (List.append_nil _).symm
    | cons result calls ih =>
      intro h
      rw [InputRuns.runTrace, ih, offered_next, List.append_assoc, List.singleton_append]
  exact h calls _

theorem sorted_next {h : ReorderHistory} (hb : h.buffer.Sorted) (result : LockedProduct) :
    (h.next result).buffer.Sorted := by
  unfold next
  rcases add_cases hb result with ⟨_, hadd⟩ | ⟨_, _, hadd⟩ | ⟨hdue, _, ready, rest, hadd, hdrains⟩
  · rw [hadd]
    exact hb
  · rw [hadd]
    exact hb
  · rw [hadd]
    exact hdrains.sorted (sorted_insert hb hdue)

theorem sorted_run (firstSequence : ℕ) (hfirst : 0 < firstSequence)
    (calls : List LockedProduct) : (run firstSequence hfirst calls).buffer.Sorted := by
  have hrun : InputRuns.Execution next (fun _ _ => True)
      { buffer := { nextSequence := firstSequence, next_pos := hfirst } }
      (run firstSequence hfirst calls) :=
    InputRuns.valid_trace_execution (InputRuns.valid_trace_of_total _ calls)
  refine hrun.invariant (P := fun h => h.buffer.Sorted) (fun h result hb _ => sorted_next hb result)
    fun n lock hlock => ?_
  cases hlock

/-- No two locks with one number differ. -/
def Consistent (calls : List LockedProduct) : Prop :=
  ∀ a ∈ calls, ∀ b ∈ calls, a.fifoSequence = b.fifoSequence → a = b

/-- Every lock that came in is either out, or waits for the numbers before it. -/
structure Sorts (first : ℕ) (h : ReorderHistory) : Prop where
  sorted : h.buffer.Sorted
  next : h.buffer.nextSequence = first + h.released.length
  ascending : h.released.map (·.fifoSequence) = List.range' first h.released.length
  released : ∀ lock ∈ h.released, lock ∈ h.offered
  pending : ∀ n lock, h.buffer.pending.get? n = some lock → lock ∈ h.offered
  placed : ∀ lock ∈ h.offered, lock.fifoSequence < first ∨ lock ∈ h.released ∨
    h.buffer.pending.get? lock.fifoSequence = some lock
  due : h.buffer.pending.get? h.buffer.nextSequence = none

theorem mem_released_of_number {first : ℕ} {h : ReorderHistory} (hs : Sorts first h) {n : ℕ}
    (hfirst : first ≤ n) (hn : n < h.buffer.nextSequence) :
    ∃ lock ∈ h.released, lock.fifoSequence = n := by
  have hmem : n ∈ h.released.map (·.fifoSequence) := by
    rw [hs.ascending, List.mem_range'_1]
    have hnext := hs.next
    omega
  exact List.mem_map.mp hmem

theorem sorts_next {first : ℕ} {h : ReorderHistory} (hs : Sorts first h) {result : LockedProduct}
    (hc : ∀ lock ∈ h.offered, lock.fifoSequence = result.fifoSequence → lock = result) :
    Sorts first (h.next result) := by
  have hkept : ∀ lock ∈ h.offered, lock ∈ h.offered ++ [result] :=
    fun lock hlock => List.mem_append_left _ hlock
  rcases add_cases hs.sorted result with ⟨hpast, hadd⟩ | ⟨_, ⟨pending, hpending, hdiffers⟩, _⟩ |
    ⟨hdue, _, ready, rest, hadd, hdrains⟩
  · have hplaced : result.fifoSequence < first ∨ result ∈ h.released := by
      by_cases hbefore : result.fifoSequence < first
      · exact .inl hbefore
      · obtain ⟨lock, hlock, hnumber⟩ := mem_released_of_number hs (by omega) hpast
        exact .inr (hc lock (hs.released lock hlock) hnumber ▸ hlock)
    unfold next
    rw [hadd]
    simp only [List.append_nil]
    refine { hs with
      released := fun lock hlock => hkept lock (hs.released lock hlock)
      pending := fun n lock hlock => hkept lock (hs.pending n lock hlock)
      placed := fun lock hlock => ?_ }
    rcases List.mem_append.mp hlock with hlock | hlock
    · exact hs.placed lock hlock
    · rw [List.mem_singleton.mp hlock]
      exact hplaced.imp_right Or.inl
  · have hsame := hc pending (hs.pending _ pending hpending) (hs.sorted _ pending hpending).1
    exact absurd hsame hdiffers
  · have hpending : ∀ n, (h.buffer.pending.insert result.fifoSequence result).get? n =
        if n = result.fifoSequence then some result else h.buffer.pending.get? n :=
      fun n => OrderedDict.get?_insert _ _ _ _
    have hoffered : ∀ n lock, (h.buffer.pending.insert result.fifoSequence result).get? n =
        some lock → lock ∈ h.offered ++ [result] := by
      intro n lock hlock
      rw [hpending] at hlock
      split at hlock
      · cases hlock
        simp
      · exact hkept lock (hs.pending n lock hlock)
    have hsorted := sorted_insert hs.sorted hdue
    have hnumber : ∀ i lock, ready[i]? = some lock →
        lock.fifoSequence = h.buffer.nextSequence + i := by
      intro i lock hlock
      exact (hsorted _ lock (hdrains.ready i lock hlock)).1
    have hlength : rest.nextSequence = h.buffer.nextSequence + ready.length := hdrains.next
    unfold next
    rw [hadd]
    refine ⟨hdrains.sorted hsorted, ?_, ?_, fun lock hlock => ?_, fun n lock hlock => ?_,
      fun lock hlock => ?_, hdrains.drained⟩
    · have hnext := hs.next
      simp only [List.length_append]
      omega
    · have hready : ready.map (·.fifoSequence) =
          List.range' h.buffer.nextSequence ready.length := by
        refine List.ext_getElem? fun i => ?_
        rw [List.getElem?_map]
        rcases Nat.lt_or_ge i ready.length with hi | hi
        · rw [List.getElem?_eq_getElem hi, List.getElem?_range' hi, Option.map_some, Nat.one_mul]
          exact congrArg some (hnumber i _ (List.getElem?_eq_getElem hi))
        · rw [List.getElem?_eq_none hi, List.getElem?_eq_none (by simpa using hi), Option.map_none]
      rw [List.map_append, hs.ascending, hready, hs.next, List.length_append,
        List.range'_append_1]
    · rcases List.mem_append.mp hlock with hlock | hlock
      · exact hkept lock (hs.released lock hlock)
      · obtain ⟨i, hi⟩ := List.mem_iff_getElem?.mp hlock
        exact hoffered _ lock (hdrains.ready i lock hi)
    · rw [hdrains.pending] at hlock
      split at hlock
      · cases hlock
      · exact hoffered n lock hlock
    · have hstored : lock.fifoSequence < first ∨ lock ∈ h.released ∨
          (h.buffer.pending.insert result.fifoSequence result).get? lock.fifoSequence =
            some lock := by
        rcases List.mem_append.mp hlock with hlock | hlock
        · refine (hs.placed lock hlock).imp_right (Or.imp_right fun hwaits => ?_)
          rw [hpending, hwaits]
          split
          · rename_i hn
            rw [hc lock (hs.pending _ lock hwaits) hn]
          · rfl
        · rw [List.mem_singleton.mp hlock, hpending, if_pos rfl]
          exact .inr (.inr rfl)
      refine hstored.imp_right fun hstored => ?_
      rcases hstored with hout | hwaits
      · exact .inl (List.mem_append_left _ hout)
      · by_cases hdrained : lock.fifoSequence < rest.nextSequence
        · -- the loop has passed the number, and let out what was stored under it
          have hwaiting := (hsorted _ lock hwaits).2
          change h.buffer.nextSequence ≤ lock.fifoSequence at hwaiting
          have hi : lock.fifoSequence - h.buffer.nextSequence < ready.length := by omega
          have hready := hdrains.ready _ _ (List.getElem?_eq_getElem hi)
          change (h.buffer.pending.insert result.fifoSequence result).get?
            (h.buffer.nextSequence + (lock.fifoSequence - h.buffer.nextSequence)) = _ at hready
          rw [Nat.add_sub_cancel' hwaiting, hwaits] at hready
          refine .inl (List.mem_append_right _ ?_)
          rw [Option.some.inj hready]
          exact List.getElem_mem hi
        · refine .inr ?_
          rw [hdrains.pending, if_neg hdrained]
          exact hwaits

theorem sorts_run (firstSequence : ℕ) (hfirst : 0 < firstSequence) {calls : List LockedProduct}
    (hc : Consistent calls) : Sorts firstSequence (run firstSequence hfirst calls) := by
  have h : ∀ rest (h : ReorderHistory), Sorts firstSequence h → Consistent (h.offered ++ rest) →
      Sorts firstSequence (InputRuns.runTrace next h rest) := by
    intro rest
    induction rest with
    | nil => exact fun h hs _ => hs
    | cons result rest ih =>
      intro h hs hrest
      refine ih _ (sorts_next hs fun lock hlock hnumber => ?_) ?_
      · exact hrest lock (List.mem_append_left _ hlock) result
          (List.mem_append_right _ List.mem_cons_self) hnumber
      · rw [offered_next, List.append_assoc, List.singleton_append]
        exact hrest
  refine h calls _ ⟨fun n lock hlock => ?_, rfl, rfl, ?_, fun n lock hlock => ?_, ?_, rfl⟩ hc
  · cases hlock
  · simp
  · cases hlock
  · simp

/-- The locks whose numbers form the longest run without a gap from the first number on, each
once and in order. -/
structure LongestRun (first : ℕ) (calls released : List LockedProduct) : Prop where
  ascending : released.map (·.fifoSequence) = List.range' first released.length
  members : ∀ lock, lock ∈ released ↔
    lock ∈ calls ∧ first ≤ lock.fifoSequence ∧ lock.fifoSequence < first + released.length
  longest : ∀ lock ∈ calls, lock.fifoSequence ≠ first + released.length

theorem longest_run_of_sorts {first : ℕ} {h : ReorderHistory} (hs : Sorts first h) :
    LongestRun first h.offered h.released := by
  have hnumber : ∀ lock ∈ h.released, first ≤ lock.fifoSequence ∧
      lock.fifoSequence < first + h.released.length := by
    intro lock hlock
    have hmem : lock.fifoSequence ∈ h.released.map (·.fifoSequence) :=
      List.mem_map.mpr ⟨lock, hlock, rfl⟩
    rw [hs.ascending, List.mem_range'_1] at hmem
    exact hmem
  refine ⟨hs.ascending, fun lock => ?_, fun lock hlock hgap => ?_⟩
  · constructor
    · intro hlock
      exact ⟨hs.released lock hlock, hnumber lock hlock⟩
    · rintro ⟨hlock, hfirst, hless⟩
      rcases hs.placed lock hlock with hbefore | hout | hwaits
      · omega
      · exact hout
      · have hdue := (hs.sorted _ lock hwaits).2
        rw [hs.next] at hdue
        omega
  · rcases hs.placed lock hlock with hbefore | hout | hwaits
    · omega
    · have hless := (hnumber lock hout).2
      omega
    · rw [hgap, ← hs.next, hs.due] at hwaits
      cases hwaits

/-- What the buffer has let out is the longest run without a gap, whatever the order of the
calls; and a lock that contradicts a pending one is refused, whatever came before. -/
theorem reorder_buffer_sorts (firstSequence : ℕ) (hfirst : 0 < firstSequence)
    (calls : List LockedProduct) :
    (Consistent calls →
      LongestRun firstSequence calls (run firstSequence hfirst calls).released) ∧
    ∀ result pending,
      (run firstSequence hfirst calls).buffer.pending.get? result.fifoSequence = some pending →
        pending ≠ result → (run firstSequence hfirst calls).buffer.add result =
          (.error (.valueError "conflicting lock for fifo_sequence"),
            (run firstSequence hfirst calls).buffer) := by
  constructor
  · intro hc
    have hlongest := longest_run_of_sorts (sorts_run firstSequence hfirst hc)
    rwa [offered_run] at hlongest
  · intro result pending hpending hdiffers
    have hsorted := sorted_run firstSequence hfirst calls
    rcases add_cases hsorted result with ⟨hpast, _⟩ | ⟨_, _, hadd⟩ | ⟨_, hsame, _⟩
    · have hdue := (hsorted _ pending hpending).2
      omega
    · exact hadd
    · exact absurd (hsame pending hpending) hdiffers

def passedLock (fifoSequence : ℕ) : LockedProduct where
  productId := toString fifoSequence
  fifoSequence := fifoSequence
  verdict := .pass
  stationACompleted := true
  stationBCompleted := true
  reason := "both station results completed"

/-- Two locks come before the first one, one comes twice, and number four is missing. -/
theorem late_first_lock_sorted :
    (run 1 Nat.one_pos ([3, 2, 5, 2, 1].map passedLock)).released.map (·.fifoSequence) =
        [1, 2, 3] ∧
      LongestRun 1 ([3, 2, 5, 2, 1].map passedLock)
        (run 1 Nat.one_pos ([3, 2, 5, 2, 1].map passedLock)).released := by
  refine ⟨by decide +kernel, (reorder_buffer_sorts 1 Nat.one_pos _).1 ?_⟩
  unfold Consistent
  decide +kernel

end ReorderHistory

end InspectionLine
