import InspectionLine.ActiveFifo
import InspectionLine.ProductMoves
import InspectionLine.ResultOrder

/-! # Products are locked in line, and every lock is published at once

The ledger and the reorder buffer, as Master uses them: products get the next number, are
locked when they are the oldest one at Sensor 3, and a line clear restarts the buffer. -/
namespace InspectionLine

/-- One lock that was handed to the reorder buffer: the ledger and the product before the call,
the lock, and the answer of the buffer. -/
structure LockCall where
  ledger : ProductLedger
  context : ProductContext
  lock : LockedProduct
  answer : Except FlowError (List LockedProduct)

def LockCall.returned (r : LockCall) : List LockedProduct :=
  match r.answer with
  | .ok ready => ready
  | .error _ => []

/-- The product, its number and the command id that `begin_actuation` has set. -/
structure BegunActuation where
  productId : String
  fifoSequence : ℕ
  commandId : String

structure LockFlow where
  ledger : ProductLedger := .initial
  reorder : ProductResultReorderBuffer := {}
  begun : List BegunActuation := []
  calls : List LockCall := []

inductive FlowCall where
  | register (productId : String)
  | registerCapture (captureId productId : String) (stationId : StationId)
  | operate (productId : String) (op : ContextOp)
  | lock (sensor3EventId : String) (step : ℤ)
  | removeCompletedPrefix (nowNs : ℤ)
  | lineClear (nowNs : ℤ)
  | pruneRemoved (cutoffNs : ℤ)

namespace ContextOp

/-- The command id that an actuation method is called with. -/
def actuationCommand : ContextOp → Option String
  | markActuationAccepted commandId | markActuationCompleted commandId _ => some commandId
  | _ => none

def begins : ContextOp → Option String
  | beginActuation _ commandId => some commandId
  | _ => none

end ContextOp

namespace LockFlow

/-- What the lock calls have returned, the oldest first. -/
def published (f : LockFlow) : List LockedProduct := f.calls.flatMap LockCall.returned

def begunBy (f : LockFlow) (productId : String) (op : ContextOp) : List BegunActuation :=
  match f.ledger.byId.get? productId, op.begins, (f.ledger.operate productId op).1 with
  | some c, some commandId, .ok _ => [⟨productId, c.fifoSequence, commandId⟩]
  | _, _, _ => []

def next (f : LockFlow) : FlowCall → LockFlow
  | .register p => { f with ledger := (f.ledger.register p f.ledger.nextSequence).2 }
  | .registerCapture captureId p s =>
    { f with ledger := (f.ledger.registerCapture captureId p s).2 }
  | .operate p op => { f with
      ledger := (f.ledger.operate p op).2
      begun := f.begunBy p op ++ f.begun }
  | .lock eventId step =>
    match f.ledger.oldestInState .sensor3Wait with
    | .error _ => f
    | .ok c =>
      match f.ledger.operate c.productId (.lockAtSensor3 eventId step) with
      | (.ok (.locked lock), ledger) =>
        let added := f.reorder.add lock
        { f with
          ledger
          reorder := added.2
          calls := f.calls ++ [⟨f.ledger, c, lock, added.1⟩] }
      | (_, ledger) => { f with ledger }
  | .removeCompletedPrefix nowNs =>
    { f with ledger := (f.ledger.removeCompletedPrefix nowNs).2 }
  | .lineClear nowNs =>
    let ledger := (f.ledger.clearActive nowNs).2
    { f with ledger, reorder := f.reorder.reset ledger.nextSequence (Nat.succ_pos _) }
  | .pruneRemoved cutoffNs => { f with ledger := (f.ledger.pruneRemoved cutoffNs).2 }

/-- Locks are made by the lock call only, and the actuation methods get an id that
`begin_actuation` has set on their product. -/
def Admits (f : LockFlow) : FlowCall → Prop
  | .operate p op => op.locks = false ∧ ∀ commandId, op.actuationCommand = some commandId →
      ∀ c, f.ledger.byId.get? p = some c → ⟨p, c.fifoSequence, commandId⟩ ∈ f.begun
  | _ => True

abbrev Run : LockFlow → LockFlow → Prop := InputRuns.Execution next Admits

/-- What is past Sensor 3 is locked; what is in the FIFO is locked up to the number that the
buffer waits for, and the buffer holds nothing back. -/
structure InStep (f : LockFlow) : Prop where
  own : ∀ p c l, f.ledger.byId.get? p = some c → c.locked = some l →
    l.fifoSequence = c.fifoSequence ∧ l ∈ f.published
  beyond : ∀ p c, f.ledger.byId.get? p = some c →
    ProductPhysicalState.sensor3Wait.value < c.physicalState.value → c.locked.isSome = true
  begun : ∀ p c commandId, f.ledger.byId.get? p = some c →
    ⟨p, c.fifoSequence, commandId⟩ ∈ f.begun → c.locked.isSome = true
  begunBelow : ∀ x ∈ f.begun, x.fifoSequence ≤ f.ledger.lastSequence
  empty : ∀ n, f.reorder.pending.get? n = none
  due : f.reorder.nextSequence ≤ f.ledger.nextSequence
  consecutive : ∃ first, first ≤ f.reorder.nextSequence ∧
    first + f.ledger.activeContexts.length = f.ledger.nextSequence ∧
    f.ledger.activeContexts.map (·.fifoSequence) =
      List.range' first f.ledger.activeContexts.length
  lockedUpTo : ∀ c ∈ f.ledger.activeContexts,
    c.locked.isSome = true ↔ c.fifoSequence < f.reorder.nextSequence
  increasing : (f.published.map (·.fifoSequence)).Pairwise (· < ·)
  publishedBelow : ∀ l ∈ f.published, l.fifoSequence < f.reorder.nextSequence

end LockFlow

/-! ### What the methods do to a product -/

namespace ContextOp

variable {op : ContextOp} {c : ProductContext}

theorem locked_kept (h : op.locks = false) : (op.apply c).2.locked = c.locked := by
  rcases locked_effect op c with hsame | ⟨_, _, rfl, _⟩
  · exact hsame
  · cases h

/-- Only the lock and the actuator take a product past Sensor 3. -/
theorem beyond_before (hlocks : op.locks = false) (hactuates : op.actuationCommand = none)
    (h : ProductPhysicalState.sensor3Wait.value < (op.apply c).2.physicalState.value) :
    ProductPhysicalState.sensor3Wait.value < c.physicalState.value := by
  rcases arrives_or_stays op c with hsame | harrives
  · rwa [hsame] at h
  · generalize (op.apply c).2.physicalState = state at h harrives
    cases harrives with
    | @captured _ s =>
      cases s <;> simp [ProductContext.stationDone, ProductPhysicalState.value] at h
    | @resumed s => cases s <;> simp [stationPassed, ProductPhysicalState.value] at h
    | locked => cases hlocks
    | accepted | completed => cases hactuates
    | _ => simp [ProductPhysicalState.value] at h

/-- A lock call raises, finds the lock that the product has, or makes one. -/
theorem lock_cases (c : ProductContext) (e : String) (step : ℤ) :
    (∃ exc, ((lockAtSensor3 e step).apply c).1 = .error exc ∧
        ((lockAtSensor3 e step).apply c).2 = c) ∨
      (∃ lock, c.locked = some lock ∧ ((lockAtSensor3 e step).apply c).1 = .ok (.locked lock) ∧
        ((lockAtSensor3 e step).apply c).2 = c) ∨
      c.locked = none ∧
        ((lockAtSensor3 e step).apply c).1 = .ok (.locked (c.lockedProduct e)) ∧
        ((lockAtSensor3 e step).apply c).2.locked = some (c.lockedProduct e) := by
  obtain ⟨ids, steps, rev, hrec⟩ := c.record_sensor_frame 3 e step
  simp only [apply, reply, ProductContext.lockAtSensor3]
  split
  · rename_i lock hlock
    split
    · exact .inl ⟨_, rfl, rfl⟩
    · exact .inr (.inl ⟨lock, hlock, rfl, rfl⟩)
  · rename_i hnone
    split
    · exact .inl ⟨_, rfl, rfl⟩
    · rcases hr : c.recordSensor 3 e step with ⟨exc | _, d⟩
      · exact .inl ⟨exc, rfl, record_sensor_raises hr⟩
      · rw [hr] at hrec
        simp only at hrec
        subst hrec
        exact .inr (.inr ⟨hnone, rfl, rfl⟩)

theorem begin_actuation_locked {job command : String} {r : Reply}
    (h : ((beginActuation job command).apply c).1 = .ok r) : c.locked.isSome = true := by
  by_contra hnone
  have hlocked : c.locked.isNone = true ∨ c.physicalState ≠ .atSensor3 :=
    .inl (by simpa using hnone)
  simp only [apply, reply, ProductContext.beginActuation, if_pos hlocked] at h
  cases h

end ContextOp

namespace LockFlow

open ProductLedger

variable {f g : LockFlow}

/-- What the order of the locks depends on. -/
def view (c : ProductContext) : ℕ × Option LockedProduct := (c.fifoSequence, c.locked)

structure Follows (L M : ProductLedger) : Prop where
  lastSequence : M.lastSequence = L.lastSequence
  context : ∀ p d, M.byId.get? p = some d → ∃ c, L.byId.get? p = some c ∧ view d = view c ∧
    (ProductPhysicalState.sensor3Wait.value < d.physicalState.value →
      ProductPhysicalState.sensor3Wait.value < c.physicalState.value ∨ c.locked.isSome = true)
  active : ∃ gone rest, L.activeContexts = gone ++ rest ∧
    (∀ c ∈ gone, c.locked.isSome = true) ∧ M.activeContexts.map view = rest.map view

theorem in_step_of_follows (hf : InStep f) {M : ProductLedger} (hM : Follows f.ledger M)
    {begun : List BegunActuation}
    (hbegun : ∀ x ∈ begun, x ∈ f.begun ∨ x.fifoSequence ≤ f.ledger.lastSequence ∧
      ∀ c, f.ledger.byId.get? x.productId = some c → c.fifoSequence = x.fifoSequence →
        c.locked.isSome = true) : InStep { f with ledger := M, begun } := by
  have hcontext : ∀ p d, M.byId.get? p = some d → ∃ c, f.ledger.byId.get? p = some c ∧
      d.fifoSequence = c.fifoSequence ∧ d.locked = c.locked := by
    intro p d hd
    obtain ⟨c, hc, hview, _⟩ := hM.context p d hd
    exact ⟨c, hc, congrArg Prod.fst hview, congrArg Prod.snd hview⟩
  have hnext : M.nextSequence = f.ledger.nextSequence := congrArg (· + 1) hM.lastSequence
  obtain ⟨gone, rest, hsplit, hgone, hactive⟩ := hM.active
  have hmember : ∀ d ∈ M.activeContexts, ∃ c ∈ f.ledger.activeContexts, view d = view c := by
    intro d hd
    have hview : view d ∈ rest.map view := hactive ▸ List.mem_map_of_mem hd
    obtain ⟨c, hc, hsame⟩ := List.mem_map.mp hview
    exact ⟨c, hsplit ▸ List.mem_append_right gone hc, hsame.symm⟩
  refine ⟨fun p d l hd hl => ?_, fun p d hd hbeyond => ?_, fun p d commandId hd hx => ?_,
    fun x hx => ?_, hf.empty, hnext ▸ hf.due, ?_, fun d hd => ?_, hf.increasing,
    hf.publishedBelow⟩
  · obtain ⟨c, hc, hfifo, hlocked⟩ := hcontext p d hd
    rw [hfifo]
    exact hf.own p c l hc (hlocked ▸ hl)
  · obtain ⟨c, hc, hview, hbefore⟩ := hM.context p d hd
    rw [show d.locked = c.locked from congrArg Prod.snd hview]
    exact (hbefore hbeyond).elim (hf.beyond p c hc) id
  · obtain ⟨c, hc, hfifo, hlocked⟩ := hcontext p d hd
    rw [hlocked]
    rcases hbegun _ hx with hold | ⟨_, hnew⟩
    · exact hf.begun p c commandId hc (hfifo ▸ hold)
    · exact hnew c hc hfifo.symm
  · change x.fifoSequence ≤ M.lastSequence
    rw [hM.lastSequence]
    exact (hbegun x hx).elim (hf.begunBelow x) And.left
  · obtain ⟨first, hfirst, hlength, hfifo⟩ := hf.consecutive
    have hcount : M.activeContexts.length = rest.length := by
      simpa using congrArg List.length hactive
    have hfst : M.activeContexts.map (·.fifoSequence) = rest.map (·.fifoSequence) := by
      have hview := congrArg (List.map Prod.fst) hactive
      rwa [List.map_map, List.map_map] at hview
    rw [hsplit, List.map_append, List.length_append, ← List.range'_append_1] at hfifo
    obtain ⟨hfront, hrest⟩ := List.append_inj hfifo (by simp)
    rw [hsplit, List.length_append] at hlength
    refine ⟨first + gone.length, ?_, ?_, by rw [hfst, hrest, hcount]⟩
    · rcases Nat.eq_zero_or_pos gone.length with hzero | hpos
      · change first + gone.length ≤ f.reorder.nextSequence
        omega
      · have hlast : first + (gone.length - 1) ∈ gone.map (·.fifoSequence) := by
          rw [hfront, List.mem_range'_1]
          omega
        obtain ⟨c, hc, hnumber⟩ := List.mem_map.mp hlast
        have hbelow := (hf.lockedUpTo c (hsplit ▸ List.mem_append_left _ hc)).mp (hgone c hc)
        change first + gone.length ≤ f.reorder.nextSequence
        omega
    · change first + gone.length + M.activeContexts.length = M.nextSequence
      omega
  · obtain ⟨c, hc, hview⟩ := hmember d hd
    rw [show d.locked = c.locked from congrArg Prod.snd hview,
      show d.fifoSequence = c.fifoSequence from congrArg Prod.fst hview]
    exact hf.lockedUpTo c hc

/-! ### One call -/

theorem follows_operate {L : ProductLedger} {p : String} {op : ContextOp}
    (hlocks : op.locks = false)
    (hactuates : ∀ c, L.byId.get? p = some c → op.actuationCommand ≠ none →
      c.locked.isSome = true) : Follows L (L.operate p op).2 := by
  have hview : ∀ c, view (op.apply c).2 = view c := fun c =>
    Prod.ext (op.apply_same_identity c).fifoSequence (ContextOp.locked_kept hlocks)
  refine ⟨lastSequence_operate _ _ _, fun q d hd => ?_, [], L.activeContexts, rfl, by simp, ?_⟩
  · rw [get?_operate] at hd
    split at hd
    · rename_i hq
      subst hq
      obtain ⟨c, hc, rfl⟩ := Option.map_eq_some_iff.mp hd
      refine ⟨c, hc, hview c, fun hbeyond => ?_⟩
      by_cases hnone : op.actuationCommand = none
      · exact .inl (ContextOp.beyond_before hlocks hnone hbeyond)
      · exact .inr (hactuates c hc hnone)
    · exact ⟨d, hd, rfl, Or.inl⟩
  · rw [activeContexts_operate, List.map_map]
    refine List.map_congr_left fun c _ => ?_
    simp only [Function.comp_apply]
    split
    · exact hview c
    · rfl

theorem in_step_operate (hf : InStep f) {p : String} {op : ContextOp}
    (hadmits : Admits f (.operate p op)) : InStep (f.next (.operate p op)) := by
  refine in_step_of_follows hf (follows_operate hadmits.1 fun c hc hsome => ?_) fun x hx => ?_
  · obtain ⟨commandId, hcommand⟩ := Option.ne_none_iff_exists'.mp hsome
    exact hf.begun p c commandId hc (hadmits.2 commandId hcommand c hc)
  · refine (List.mem_append.mp hx).symm.imp_right fun hnew => ?_
    unfold begunBy at hnew
    split at hnew
    · rename_i c commandId reply hc hbegins hok
      rw [List.mem_singleton.mp hnew]
      refine ⟨(f.ledger.identified p c hc).2.2.1, fun d hd _ => ?_⟩
      cases hc.symm.trans hd
      rw [operate_outcome hc] at hok
      cases op with
      | beginActuation job command => exact ContextOp.begin_actuation_locked hok
      | _ => cases hbegins
    · cases hnew

theorem follows_remove (hf : InStep f) (nowNs : ℤ) :
    Follows f.ledger (f.ledger.removeCompletedPrefix nowNs).2 := by
  have hdone : ∀ c ∈ (f.ledger.active.takeWhile f.ledger.isDone).filterMap f.ledger.byId.get?,
      c.locked.isSome = true := by
    intro c hc
    obtain ⟨q, hq, hget⟩ := List.mem_filterMap.mp hc
    have hdone := List.mem_takeWhile_imp hq
    rw [isDone, hget, Option.any_some, Bool.and_eq_true, decide_eq_true_eq] at hdone
    refine hf.beyond q c hget ?_
    rw [hdone.2]
    decide
  refine ⟨rfl, fun q d hd => ?_, _, _,
    f.ledger.activeContexts_deactivate nowNs _ _ List.takeWhile_append_dropWhile, hdone, rfl⟩
  rw [show (f.ledger.removeCompletedPrefix nowNs).2.byId.get? q = _ from
    f.ledger.get?_deactivate nowNs _ _ List.takeWhile_append_dropWhile q] at hd
  split at hd
  · obtain ⟨c, hc, rfl⟩ := Option.map_eq_some_iff.mp hd
    exact ⟨c, hc, rfl, Or.inl⟩
  · exact ⟨d, hd, rfl, Or.inl⟩

theorem follows_prune (L : ProductLedger) (cutoffNs : ℤ) :
    Follows L (L.pruneRemoved cutoffNs).2 := by
  refine ⟨(prune_removed_carries L cutoffNs).lastSequence, fun q d hd => ?_, [],
    L.activeContexts, rfl, by simp, by rw [activeContexts_prune]⟩
  exact ⟨d, (prune_removed_retains L cutoffNs).context q d hd, rfl, Or.inl⟩

theorem follows_capture (L : ProductLedger) (captureId p : String) (s : StationId) :
    Follows L (L.registerCapture captureId p s).2 := by
  have hsame : ∃ owners, (L.registerCapture captureId p s).2 =
      { L with captureOwners := owners } := by
    unfold registerCapture
    split
    · split <;> exact ⟨_, rfl⟩
    · exact ⟨_, rfl⟩
  obtain ⟨owners, hsame⟩ := hsame
  rw [hsame]
  exact ⟨rfl, fun q d hd => ⟨d, hd, rfl, Or.inl⟩, [], L.activeContexts, rfl, by simp, rfl⟩

theorem in_step_register (hf : InStep f) (p : String) : InStep (f.next (.register p)) := by
  unfold next
  rcases f.ledger.register_cases p f.ledger.nextSequence with hsame | ⟨habsent, hfifo, hnew⟩
  · simp only [hsame]
    exact hf
  · simp only [hnew]
    have hcontext : ∀ q d, (f.ledger.enqueue p f.ledger.nextSequence habsent hfifo).byId.get? q =
        some d → d = { productId := p, fifoSequence := f.ledger.nextSequence } ∧ q = p ∨
          f.ledger.byId.get? q = some d := by
      intro q d hd
      change (f.ledger.byId.insert p _).get? q = some d at hd
      rw [OrderedDict.get?_insert] at hd
      split at hd
      · cases hd
        exact .inl ⟨rfl, ‹_›⟩
      · exact .inr hd
    have hdue := hf.due
    refine ⟨fun q d l hd hl => ?_, fun q d hd hbeyond => ?_, fun q d commandId hd hx => ?_,
      fun x hx => ?_, hf.empty, ?_, ?_, fun d hd => ?_, hf.increasing, hf.publishedBelow⟩
    · rcases hcontext q d hd with ⟨rfl, _⟩ | hold
      · cases hl
      · exact hf.own q d l hold hl
    · rcases hcontext q d hd with ⟨rfl, _⟩ | hold
      · exact absurd hbeyond (show ¬(6 < 1) by decide)
      · exact hf.beyond q d hold hbeyond
    · rcases hcontext q d hd with ⟨rfl, rfl⟩ | hold
      · have hbelow := hf.begunBelow _ hx
        exact absurd hbelow (by simp [nextSequence])
      · exact hf.begun q d commandId hold hx
    · have hbelow := hf.begunBelow x hx
      change x.fifoSequence ≤ f.ledger.lastSequence + 1
      omega
    · change f.reorder.nextSequence ≤ f.ledger.nextSequence + 1
      omega
    · obtain ⟨first, hfirst, hlength, hactive⟩ := hf.consecutive
      refine ⟨first, hfirst, ?_, ?_⟩
      · change first + (f.ledger.enqueue p _ habsent hfifo).activeContexts.length =
          f.ledger.nextSequence + 1
        rw [activeContexts_enqueue, List.length_append, List.length_singleton]
        omega
      · change (f.ledger.enqueue p _ habsent hfifo).activeContexts.map _ = List.range' first
          (f.ledger.enqueue p _ habsent hfifo).activeContexts.length
        rw [activeContexts_enqueue, List.map_append, List.length_append, List.length_singleton,
          ← List.range'_append_1, hactive, hlength]
        rfl
    · change d ∈ (f.ledger.enqueue p _ habsent hfifo).activeContexts at hd
      rw [activeContexts_enqueue] at hd
      rcases List.mem_append.mp hd with hd | hd
      · exact hf.lockedUpTo d hd
      · rw [List.mem_singleton.mp hd]
        refine ⟨fun h => (by cases h), fun h => ?_⟩
        change f.ledger.nextSequence < f.reorder.nextSequence at h
        omega

theorem in_step_clear (hf : InStep f) (nowNs : ℤ) : InStep (f.next (.lineClear nowNs)) := by
  have hcontext : ∀ q d, (f.ledger.clearActive nowNs).2.byId.get? q = some d →
      ∃ c, f.ledger.byId.get? q = some c ∧ view d = view c ∧ d.physicalState = c.physicalState := by
    intro q d hd
    rw [show (f.ledger.clearActive nowNs).2.byId.get? q = _ from
      f.ledger.get?_deactivate nowNs _ _ (List.append_nil _) q] at hd
    split at hd
    · obtain ⟨c, hc, rfl⟩ := Option.map_eq_some_iff.mp hd
      exact ⟨c, hc, rfl, rfl⟩
    · exact ⟨d, hd, rfl, rfl⟩
  have hbelow : ∀ l ∈ f.published, l.fifoSequence < f.ledger.nextSequence :=
    fun l hl => (hf.publishedBelow l hl).trans_le hf.due
  refine ⟨fun q d l hd hl => ?_, fun q d hd hbeyond => ?_, fun q d commandId hd hx => ?_,
    hf.begunBelow, fun n => rfl, le_rfl, ⟨f.ledger.nextSequence, le_rfl, rfl, rfl⟩,
    fun d hd => ?_, hf.increasing, hbelow⟩
  · obtain ⟨c, hc, hview, _⟩ := hcontext q d hd
    rw [show d.fifoSequence = c.fifoSequence from congrArg Prod.fst hview]
    exact hf.own q c l hc ((congrArg Prod.snd hview).symm.trans hl)
  · obtain ⟨c, hc, hview, hstate⟩ := hcontext q d hd
    rw [show d.locked = c.locked from congrArg Prod.snd hview]
    exact hf.beyond q c hc (hstate ▸ hbeyond)
  · obtain ⟨c, hc, hview, _⟩ := hcontext q d hd
    rw [show d.locked = c.locked from congrArg Prod.snd hview]
    rw [show d.fifoSequence = c.fifoSequence from congrArg Prod.fst hview] at hx
    exact hf.begun q c commandId hc hx
  · cases hd

/-- The oldest product at Sensor 3 has only locked products ahead of it. If it is not locked
yet, it is the one that the buffer waits for. -/
theorem oldest_is_due (hf : InStep f) {c : ProductContext}
    (h : f.ledger.oldestInState .sensor3Wait = .ok c) : c ∈ f.ledger.activeContexts ∧
      (∀ e ∈ f.ledger.activeContexts, e.fifoSequence < c.fifoSequence → e.locked.isSome = true) ∧
      (c.locked = none → c.fifoSequence = f.reorder.nextSequence) := by
  obtain ⟨front, back, hsplit, _, hfront⟩ := oldest_split h
  have hahead : ∀ e ∈ front, e.locked.isSome = true := by
    intro e he
    obtain ⟨hother, hvalue⟩ := hfront e he
    obtain ⟨hget, _⟩ := get?_of_active (hsplit ▸ List.mem_append_left _ he :
      e ∈ f.ledger.activeContexts)
    refine hf.beyond _ e hget (lt_of_le_of_ne hvalue fun heq => hother ?_)
    cases hs : e.physicalState <;> rw [hs] at heq <;> first | rfl | cases heq
  obtain ⟨first, hfirst, _, hnumbers⟩ := hf.consecutive
  rw [hsplit, List.map_append, List.map_cons, List.length_append, List.length_cons,
    ← List.range'_append_1, List.range'_succ] at hnumbers
  obtain ⟨hfrontNumbers, hrest⟩ := List.append_inj hnumbers (by simp)
  obtain ⟨hown, hbackNumbers⟩ := List.cons.inj hrest
  have hmem : c ∈ f.ledger.activeContexts := hsplit ▸ List.mem_append_right _ List.mem_cons_self
  refine ⟨hmem, fun e he hless => ?_, fun hnone => ?_⟩
  · rw [hsplit] at he
    rcases List.mem_append.mp he with he | he
    · exact hahead e he
    · rcases List.mem_cons.mp he with rfl | he
      · omega
      · have hnumber : e.fifoSequence ∈ back.map (·.fifoSequence) := List.mem_map_of_mem he
        rw [hbackNumbers, List.mem_range'_1] at hnumber
        omega
  · have hnot : ¬c.fifoSequence < f.reorder.nextSequence := by
      rw [← hf.lockedUpTo c hmem, hnone]
      simp
    rcases Nat.lt_or_ge f.reorder.nextSequence c.fifoSequence with hless | hge
    · have hin : f.reorder.nextSequence ∈ front.map (·.fifoSequence) := by
        rw [hfrontNumbers, List.mem_range'_1]
        omega
      obtain ⟨e, he, hnumber⟩ := List.mem_map.mp hin
      have hlocked := (hf.lockedUpTo e (hsplit ▸ List.mem_append_left _ he)).mp (hahead e he)
      omega
    · omega

/-- The locks come in line, and the buffer lets each one out in the call that brings it first. -/
structure LocksInOrder (f : LockFlow) : Prop where
  increasing : (f.published.map (·.fifoSequence)).Pairwise (· < ·)
  ahead : ∀ r ∈ f.calls, ∀ e ∈ r.ledger.activeContexts,
    e.fifoSequence < r.lock.fifoSequence → e.locked.isSome = true
  answered : ∀ r ∈ f.calls, r.answer = .ok (if r.context.locked = none then [r.lock] else [])
  published : ∀ r ∈ f.calls, r.lock ∈ f.published

/-- A lock call changes nothing, finds an old lock, or makes the lock that the buffer waits for. -/
inductive LockOutcome (f : LockFlow) : LockFlow → Prop where
  | refused : LockOutcome f f
  | again {c : ProductContext} {lock : LockedProduct}
      (oldest : f.ledger.oldestInState .sensor3Wait = .ok c) (locked : c.locked = some lock) :
      LockOutcome f { f with
        reorder := (f.reorder.add lock).2
        calls := f.calls ++ [⟨f.ledger, c, lock, (f.reorder.add lock).1⟩] }
  | first {c d : ProductContext} {lock : LockedProduct} {ledger : ProductLedger}
      (oldest : f.ledger.oldestInState .sensor3Wait = .ok c) (unlocked : c.locked = none)
      (own : lock.fifoSequence = c.fifoSequence) (locked : d.locked = some lock)
      (same : d.fifoSequence = c.fifoSequence)
      (byId : ∀ q, ledger.byId.get? q =
        if q = c.productId then some d else f.ledger.byId.get? q)
      (active : ledger.activeContexts =
        f.ledger.activeContexts.map fun e => if e.productId = c.productId then d else e)
      (lastSequence : ledger.lastSequence = f.ledger.lastSequence) :
      LockOutcome f { f with
        ledger
        reorder := (f.reorder.add lock).2
        calls := f.calls ++ [⟨f.ledger, c, lock, (f.reorder.add lock).1⟩] }

theorem lock_outcome (f : LockFlow) (eventId : String) (step : ℤ) :
    LockOutcome f (f.next (.lock eventId step)) := by
  simp only [next]
  split
  · exact .refused
  · rename_i c holdest
    obtain ⟨hc, _⟩ := oldest_waits holdest
    have hreply := operate_outcome hc (.lockAtSensor3 eventId step)
    rcases ContextOp.lock_cases c eventId step with ⟨exc, hraised, hsame⟩ |
      ⟨lock, hlocked, hfound, hsame⟩ | ⟨hnone, hmade, hlocked⟩
    · have hoperate : f.ledger.operate c.productId (.lockAtSensor3 eventId step) =
          (.error exc, f.ledger) := by
        refine Prod.ext (hreply.trans hraised) (operate_unchanged fun d hd => ?_)
        cases hc.symm.trans hd
        exact hsame
      rw [hoperate]
      exact .refused
    · have hoperate : f.ledger.operate c.productId (.lockAtSensor3 eventId step) =
          (.ok (.locked lock), f.ledger) := by
        refine Prod.ext (hreply.trans hfound) (operate_unchanged fun d hd => ?_)
        cases hc.symm.trans hd
        exact hsame
      rw [hoperate]
      exact .again holdest hlocked
    · have hoperate : f.ledger.operate c.productId (.lockAtSensor3 eventId step) =
          (.ok (.locked (c.lockedProduct eventId)),
            (f.ledger.operate c.productId (.lockAtSensor3 eventId step)).2) :=
        Prod.ext (hreply.trans hmade) rfl
      rw [hoperate]
      refine .first holdest hnone rfl hlocked
        ((ContextOp.lockAtSensor3 eventId step).apply_same_identity c).fifoSequence
        (fun q => ?_) ?_ (lastSequence_operate _ _ _)
      · rw [get?_operate]
        split
        · rename_i hq
          rw [hq, hc, Option.map_some]
        · rfl
      · rw [activeContexts_operate]
        refine List.map_congr_left fun e he => ?_
        split
        · rename_i hown
          obtain ⟨hget, _⟩ := get?_of_active he
          cases (hown ▸ hget).symm.trans hc
          rfl
        · rfl

structure Kept (f : LockFlow) : Prop where
  inStep : InStep f
  ordered : LocksInOrder f

theorem kept_of_same (hf : Kept f) (hg : InStep g) (hcalls : g.calls = f.calls) : Kept g := by
  have hpublished : g.published = f.published := by
    unfold LockFlow.published
    rw [hcalls]
  refine ⟨hg, hg.increasing, hcalls ▸ hf.ordered.ahead, hcalls ▸ hf.ordered.answered, ?_⟩
  rw [hcalls, hpublished]
  exact hf.ordered.published

theorem LocksInOrder.concat (hf : LocksInOrder f) {g : LockFlow} {r : LockCall}
    (hcalls : g.calls = f.calls ++ [r])
    (hincreasing : (g.published.map (·.fifoSequence)).Pairwise (· < ·))
    (hahead : ∀ e ∈ r.ledger.activeContexts, e.fifoSequence < r.lock.fifoSequence →
      e.locked.isSome = true)
    (hanswer : r.answer = .ok (if r.context.locked = none then [r.lock] else []))
    (hpublished : r.lock ∈ f.published ++ r.returned) : LocksInOrder g := by
  have hconcat : g.published = f.published ++ r.returned := by simp [LockFlow.published, hcalls]
  refine ⟨hincreasing, fun s hs => ?_, fun s hs => ?_, fun s hs => ?_⟩ <;> rw [hcalls] at hs <;>
    rcases List.mem_append.mp hs with hs | hs
  · exact hf.ahead s hs
  · exact List.mem_singleton.mp hs ▸ hahead
  · exact hf.answered s hs
  · exact List.mem_singleton.mp hs ▸ hanswer
  · exact hconcat ▸ List.mem_append_left _ (hf.published s hs)
  · exact List.mem_singleton.mp hs ▸ hconcat ▸ hpublished

theorem kept_lock (hf : Kept f) (hg : LockOutcome f g) : Kept g := by
  cases hg with
  | refused => exact hf
  | @again c lock holdest hlocked =>
    obtain ⟨hmem, hahead, _⟩ := oldest_is_due hf.inStep holdest
    obtain ⟨hget, _⟩ := get?_of_active hmem
    obtain ⟨hown, hout⟩ := hf.inStep.own _ c lock hget hlocked
    have hpast : lock.fifoSequence < f.reorder.nextSequence := by
      rw [hown]
      exact (hf.inStep.lockedUpTo c hmem).mp (by rw [hlocked]; rfl)
    rw [ProductResultReorderBuffer.add_past hpast]
    have hsame : ({ f with calls := f.calls ++ [⟨f.ledger, c, lock, .ok []⟩] } :
        LockFlow).published = f.published := by simp [LockFlow.published, LockCall.returned]
    refine { inStep := ?_, ordered := hf.ordered.concat rfl ?_ ?_ ?_ ?_ }
    · refine { hf.inStep with own := ?_, increasing := ?_, publishedBelow := ?_ } <;>
        rw [hsame]
      · exact hf.inStep.own
      · exact hf.inStep.increasing
      · exact hf.inStep.publishedBelow
    · rw [hsame]
      exact hf.inStep.increasing
    · exact hown.symm ▸ hahead
    · simp [hlocked]
    · exact List.mem_append_left _ hout
  | @first c d lock ledger holdest hnone hown hlocked hsame hbyId hactive hlast =>
    obtain ⟨hmem, hahead, hdue⟩ := oldest_is_due hf.inStep holdest
    obtain ⟨hget, _⟩ := get?_of_active hmem
    obtain ⟨rest, hadd, hnext, hempty⟩ :=
      ProductResultReorderBuffer.add_due hf.inStep.empty (hown.trans (hdue hnone))
    rw [hadd]
    have hpublished : ∀ M reorder, ({ f with
        ledger := M, reorder, calls := f.calls ++ [⟨f.ledger, c, lock, .ok [lock]⟩] } :
        LockFlow).published = f.published ++ [lock] := fun M reorder => by
      simp [LockFlow.published, LockCall.returned]
    have hincreasing : ((f.published ++ [lock]).map (·.fifoSequence)).Pairwise (· < ·) := by
      rw [List.map_append, List.pairwise_append]
      refine ⟨hf.inStep.increasing, List.pairwise_singleton _ _, fun n hn k hk => ?_⟩
      obtain ⟨l, hl, rfl⟩ := List.mem_map.mp hn
      rw [List.mem_singleton.mp hk]
      change l.fifoSequence < lock.fifoSequence
      rw [hown, hdue hnone]
      exact hf.inStep.publishedBelow l hl
    have hcases : ∀ q e, ledger.byId.get? q = some e →
        q = c.productId ∧ e = d ∨ f.ledger.byId.get? q = some e := by
      intro q e he
      rw [hbyId] at he
      split at he
      · cases he
        exact .inl ⟨‹_›, rfl⟩
      · exact .inr he
    have hview : ledger.activeContexts.map (·.fifoSequence) =
        f.ledger.activeContexts.map (·.fifoSequence) := by
      rw [hactive, List.map_map]
      refine List.map_congr_left fun e he => ?_
      simp only [Function.comp_apply]
      split
      · rename_i hid
        obtain ⟨hgetE, _⟩ := get?_of_active he
        cases (hid ▸ hgetE).symm.trans hget
        exact hsame
      · rfl
    have hlength : ledger.activeContexts.length = f.ledger.activeContexts.length := by
      rw [hactive, List.length_map]
    have hledger : ledger.nextSequence = f.ledger.nextSequence := congrArg (· + 1) hlast
    refine { inStep := ⟨?_, ?_, ?_, ?_, hempty, ?_, ?_, ?_, ?_, ?_⟩
             ordered := hf.ordered.concat rfl ?_ ?_ ?_ ?_ }
    · intro q e l he hl
      rw [hpublished]
      rcases hcases q e he with ⟨_, rfl⟩ | hold
      · cases hlocked.symm.trans hl
        exact ⟨hown.trans hsame.symm, by simp⟩
      · obtain ⟨hfifo, hout⟩ := hf.inStep.own q e l hold hl
        exact ⟨hfifo, List.mem_append_left _ hout⟩
    · intro q e he hbeyond
      rcases hcases q e he with ⟨_, rfl⟩ | hold
      · rw [hlocked]
        rfl
      · exact hf.inStep.beyond q e hold hbeyond
    · intro q e commandId he hx
      rcases hcases q e he with ⟨_, rfl⟩ | hold
      · rw [hlocked]
        rfl
      · exact hf.inStep.begun q e commandId hold hx
    · intro x hx
      exact (hf.inStep.begunBelow x hx).trans_eq hlast.symm
    · have hbelow := (f.ledger.identified _ c hget).2.2.1
      have hwaits := hdue hnone
      change rest.nextSequence ≤ ledger.lastSequence + 1
      omega
    · obtain ⟨first, hfirst, hcount, hnumbers⟩ := hf.inStep.consecutive
      refine ⟨first, ?_, ?_, ?_⟩
      · change first ≤ rest.nextSequence
        omega
      · change first + ledger.activeContexts.length = ledger.nextSequence
        omega
      · change ledger.activeContexts.map _ = List.range' first ledger.activeContexts.length
        rw [hview, hlength, hnumbers]
    · intro e he
      change e ∈ ledger.activeContexts at he
      change _ ↔ e.fifoSequence < rest.nextSequence
      rw [hactive] at he
      obtain ⟨b, hb, heq⟩ := List.mem_map.mp he
      by_cases hid : b.productId = c.productId
      · rw [if_pos hid] at heq
        subst heq
        rw [hlocked, hsame, hdue hnone]
        simp [hnext]
      · rw [if_neg hid] at heq
        subst heq
        have hbefore := hf.inStep.lockedUpTo b hb
        rw [hbefore, hnext]
        refine ⟨fun h => by omega, fun h => ?_⟩
        by_contra hnot
        have hsameNumber : b.fifoSequence = c.fifoSequence := by
          rw [hdue hnone]
          omega
        obtain ⟨hgetB, _⟩ := get?_of_active hb
        have hindexB := (f.ledger.identified _ b hgetB).2.2.2
        have hindexC := (f.ledger.identified _ c hget).2.2.2
        rw [hsameNumber, hindexC] at hindexB
        exact hid (Option.some.inj hindexB).symm
    · rw [hpublished]
      exact hincreasing
    · intro l hl
      rw [hpublished] at hl
      change l.fifoSequence < rest.nextSequence
      rw [hnext]
      rcases List.mem_append.mp hl with hl | hl
      · have hbelow := hf.inStep.publishedBelow l hl
        omega
      · rw [List.mem_singleton.mp hl, hown, hdue hnone]
        omega
    · rw [hpublished]
      exact hincreasing
    · exact hown.symm ▸ hahead
    · simp [hnone]
    · simp [LockCall.returned]

theorem kept_next (hf : Kept f) {call : FlowCall} (hadmits : Admits f call) :
    Kept (f.next call) := by
  cases call with
  | register p => exact kept_of_same hf (in_step_register hf.inStep p) rfl
  | registerCapture captureId p s =>
    exact kept_of_same hf (in_step_of_follows hf.inStep
      (follows_capture f.ledger captureId p s) fun x hx => .inl hx) rfl
  | operate p op => exact kept_of_same hf (in_step_operate hf.inStep hadmits) rfl
  | lock eventId step => exact kept_lock hf (lock_outcome f eventId step)
  | removeCompletedPrefix nowNs =>
    exact kept_of_same hf (in_step_of_follows hf.inStep (follows_remove hf.inStep nowNs)
      fun x hx => .inl hx) rfl
  | lineClear nowNs => exact kept_of_same hf (in_step_clear hf.inStep nowNs) rfl
  | pruneRemoved cutoffNs =>
    exact kept_of_same hf (in_step_of_follows hf.inStep (follows_prune f.ledger cutoffNs)
      fun x hx => .inl hx) rfl

/-! ### All runs -/

theorem kept_run (h : Run {} f) : Kept f := by
  refine h.invariant (P := Kept) (fun g call hg hadmits => kept_next hg hadmits) ?_
  refine ⟨⟨fun p c l hc => ?_, fun p c hc => ?_, fun p c k hc => ?_, fun x hx => ?_,
    fun n => rfl, le_rfl, ⟨1, le_rfl, rfl, rfl⟩, fun c hc => ?_, List.Pairwise.nil,
    fun l hl => ?_⟩, List.Pairwise.nil, fun r hr => ?_, fun r hr => ?_, fun r hr => ?_⟩
  · cases hc
  · cases hc
  · cases hc
  · cases hx
  · cases hc
  · cases hl
  · cases hr
  · cases hr
  · cases hr

/-- Products are locked in the order of their numbers, with nothing unlocked ahead. The first
call that brings a lock returns it alone, a later one returns nothing, and so every lock is let
out exactly once. -/
structure PublishedAtOnce (f : LockFlow) : Prop where
  increasing : (f.published.map (·.fifoSequence)).Pairwise (· < ·)
  locked : ∀ p c lock, f.ledger.byId.get? p = some c → c.locked = some lock →
    lock.fifoSequence = c.fifoSequence ∧ lock ∈ f.published
  ahead : ∀ r ∈ f.calls, ∀ e ∈ r.ledger.activeContexts,
    e.fifoSequence < r.lock.fifoSequence → e.locked.isSome = true
  answered : ∀ r ∈ f.calls, r.answer = .ok (if r.context.locked = none then [r.lock] else [])
  once : ∀ r ∈ f.calls, f.published.count r.lock = 1

theorem locks_published_at_once (h : Run {} f) : PublishedAtOnce f := by
  have hf := kept_run h
  refine ⟨hf.ordered.increasing, hf.inStep.own, hf.ordered.ahead, hf.ordered.answered,
    fun r hr => ?_⟩
  have hnodup : f.published.Nodup := by
    refine List.Nodup.of_map (·.fifoSequence) ?_
    exact hf.ordered.increasing.imp fun hless => hless.ne
  exact List.count_eq_one_of_mem hnodup (hf.ordered.published r hr)

/-- The calls that need nothing to have come before. -/
def plain : FlowCall → Bool
  | .operate _ op => !op.locks && op.actuationCommand.isNone
  | _ => true

theorem run_of_plain {calls : List FlowCall} (h : calls.all plain = true) :
    Run f (InputRuns.runTrace next f calls) := by
  refine InputRuns.valid_trace_execution ?_
  induction calls generalizing f with
  | nil => trivial
  | cons call calls ih =>
    rw [List.all_cons, Bool.and_eq_true] at h
    refine ⟨?_, ih h.2⟩
    cases call with
    | operate p op =>
      have hplain := h.1
      simp only [plain, Bool.and_eq_true, Bool.not_eq_true', Option.isNone_iff_eq_none] at hplain
      refine ⟨hplain.1, fun commandId hcommand => ?_⟩
      rw [hplain.2] at hcommand
      cases hcommand
    | _ => trivial

/-- A product passes both stations with failed captures and is locked at Sensor 3. -/
def failedProduct : List FlowCall :=
  [.register "product",
    .operate "product" (.beginStationCycle .a "positionA" "captureA"),
    .operate "product" (.markCaptureFailed .a "captureA" "camera failed"),
    .operate "product" (.markConveyorResumedAfterCapture .a),
    .operate "product" (.acceptSensor2 "event2" 20),
    .operate "product" (.beginStationCycle .b "positionB" "captureB"),
    .operate "product" (.markCaptureFailed .b "captureB" "camera failed"),
    .operate "product" (.markConveyorResumedAfterCapture .b),
    .lock "event3" 30]

/-- The failure of the capture at Station B is recorded once more. -/
def failedAgain : List FlowCall :=
  [.operate "product" (.markCaptureFailed .b "captureB" "camera failed"),
    .operate "product" (.markConveyorResumedAfterCapture .b),
    .lock "event3" 30]

theorem repeated_lock_withheld :
    ¬∀ f, Run {} f → ∀ r ∈ f.calls, r.answer = .ok [r.lock] := by
  intro h
  have hrun : Run {} (InputRuns.runTrace next {} (failedProduct ++ failedAgain)) :=
    run_of_plain (by decide)
  have hempty : ((InputRuns.runTrace next {} (failedProduct ++ failedAgain)).calls.any
      fun r => r.returned = []) = true := by decide +kernel
  obtain ⟨r, hr, hreturned⟩ := List.any_eq_true.mp hempty
  rw [decide_eq_true_eq, LockCall.returned, h _ hrun r hr] at hreturned
  cases hreturned

theorem failed_product_published :
    (InputRuns.runTrace next {} failedProduct).calls.length = 1 ∧
      PublishedAtOnce (InputRuns.runTrace next {} failedProduct) :=
  ⟨by decide +kernel, locks_published_at_once (run_of_plain (by decide))⟩

end LockFlow

end InspectionLine
