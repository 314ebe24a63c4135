import InspectionLine.ActiveFifo
import InspectionLine.InputRuns

/-! # The product ledger over whole runs

A ledger is followed next to the products that have entered its FIFO and those that have left
it. Between the calls the contexts change by any of their methods. -/
namespace InspectionLine

inductive LedgerCall where
  | register (productId : String) (fifoSequence : ℕ)
  | registerCapture (captureId productId : String) (stationId : StationId)
  | operate (productId : String) (op : ContextOp)
  | removeCompletedPrefix (nowNs : ℤ)
  | clearActive (nowNs : ℤ)
  | pruneRemoved (cutoffNs : ℤ)

/-- How a product leaves the FIFO. -/
inductive Departure where
  | completed | cleared
  deriving DecidableEq, Repr

/-- Both lists hold the oldest entry first. -/
structure LedgerHistory where
  ledger : ProductLedger := .initial
  registered : List (String × ℕ) := []
  departed : List (ProductContext × Departure) := []

namespace ProductLedger

def key (c : ProductContext) : String × ℕ := (c.productId, c.fifoSequence)

/-- The active products with their numbers. -/
def fifo (L : ProductLedger) : List (String × ℕ) := L.activeContexts.map key

def Indexed (L : ProductLedger) : Prop :=
  ∀ f p, L.idBySequence.get? f = some p → ∃ c, L.byId.get? p = some c ∧ c.fifoSequence = f

/-- The call of `register` that gives a number to a new product. -/
def admitsNew (L : ProductLedger) (productId : String) (fifoSequence : ℕ) : Bool :=
  (L.byId.get? productId).isNone && (L.register productId fifoSequence).1.isOk

end ProductLedger

namespace LedgerHistory

open ProductLedger

def next (h : LedgerHistory) : LedgerCall → LedgerHistory
  | .register p f => { h with
      ledger := (h.ledger.register p f).2
      registered := if h.ledger.admitsNew p f then h.registered ++ [(p, f)] else h.registered }
  | .registerCapture captureId p s =>
    { h with ledger := (h.ledger.registerCapture captureId p s).2 }
  | .operate p op => { h with ledger := (h.ledger.operate p op).2 }
  | .removeCompletedPrefix nowNs => { h with
      ledger := (h.ledger.removeCompletedPrefix nowNs).2
      departed := h.departed ++
        (h.ledger.removeCompletedPrefix nowNs).1.map fun c => (c, Departure.completed) }
  | .clearActive nowNs => { h with
      ledger := (h.ledger.clearActive nowNs).2
      departed := h.departed ++
        (h.ledger.clearActive nowNs).1.map fun c => (c, Departure.cleared) }
  | .pruneRemoved cutoffNs => { h with ledger := (h.ledger.pruneRemoved cutoffNs).2 }

/-- The tables fit together, and every product that was registered has left the FIFO or is
still in it, in the order of the numbers. -/
structure Sound (h : LedgerHistory) : Prop where
  indexed : h.ledger.Indexed
  flow : h.departed.map (fun d => key d.1) ++ h.ledger.fifo = h.registered
  growing : (h.registered.map Prod.snd).Pairwise (· < ·)
  below : ∀ r ∈ h.registered, r.2 ≤ h.ledger.lastSequence
  completed : ∀ c, (c, Departure.completed) ∈ h.departed →
    c.completed = true ∧ c.physicalState = .done

end LedgerHistory

namespace ProductLedger

variable {L : ProductLedger} {p : String}

theorem register_admits {f : ℕ} (L : ProductLedger) (p : String) :
    L.admitsNew p f = false ∧ (L.register p f).2 = L ∨
      L.admitsNew p f = true ∧
        ∃ habsent hfifo, (L.register p f).2 = L.enqueue p f habsent hfifo := by
  unfold admitsNew register
  split
  · exact .inl ⟨by simp [Except.isOk, Except.toBool], rfl⟩
  · split
    · rename_i existing hexisting
      left
      rw [hexisting]
      split <;> exact ⟨rfl, rfl⟩
    · rename_i habsent
      have hnew : (L.byId.get? p).isNone = true := by rw [habsent, Option.isNone_none]
      rw [hnew]
      split
      · exact .inl ⟨by simp [Except.isOk, Except.toBool], rfl⟩
      · split
        · exact .inl ⟨by simp [Except.isOk, Except.toBool], rfl⟩
        · rename_i hfifo
          exact .inr ⟨rfl, habsent, by omega, rfl⟩

theorem fifo_operate (L : ProductLedger) (p : String) (op : ContextOp) :
    (L.operate p op).2.fifo = L.fifo := by
  unfold fifo
  rw [activeContexts_operate, List.map_map]
  refine List.map_congr_left fun c _ => ?_
  simp only [Function.comp_apply]
  split
  · have hsame := op.apply_same_identity c
    exact Prod.ext hsame.productId hsame.fifoSequence
  · rfl

theorem fifo_deactivate (L : ProductLedger) (nowNs : ℤ) (gone keep : List String)
    (hsplit : gone ++ keep = L.active) :
    (gone.filterMap (L.deactivate nowNs gone keep hsplit).byId.get?).map key ++
      (L.deactivate nowNs gone keep hsplit).fifo = L.fifo := by
  unfold fifo
  rw [L.activeContexts_deactivate nowNs gone keep hsplit, List.map_append, gone_contexts,
    List.map_map]
  rfl

theorem idBySequence_operate (L : ProductLedger) (p : String) (op : ContextOp) :
    (L.operate p op).2.idBySequence = L.idBySequence := by
  unfold operate
  split <;> rfl

/-! ### The index -/

theorem indexed_enqueue (hL : L.Indexed) {f : ℕ} (habsent : L.byId.get? p = none)
    (hfifo : L.lastSequence < f) : (L.enqueue p f habsent hfifo).Indexed := by
  intro g q hg
  change (L.idBySequence.insert f p).get? g = some q at hg
  change ∃ c, (L.byId.insert p _).get? q = some c ∧ c.fifoSequence = g
  rw [OrderedDict.get?_insert] at hg
  split at hg
  · rename_i hgf
    cases hg
    exact ⟨_, OrderedDict.get?_insert_self _ _ _, hgf.symm⟩
  · obtain ⟨c, hc, hown⟩ := hL g q hg
    exact ⟨c, (OrderedDict.get?_insert_of_ne _ _ (fresh_of_above hc habsent)).trans hc, hown⟩

theorem indexed_operate (hL : L.Indexed) (p : String) (op : ContextOp) :
    (L.operate p op).2.Indexed := by
  intro f q hf
  rw [idBySequence_operate] at hf
  obtain ⟨c, hc, hown⟩ := hL f q hf
  rw [get?_operate]
  split
  · exact ⟨_, by rw [hc, Option.map_some], (op.apply_same_identity c).fifoSequence.trans hown⟩
  · exact ⟨c, hc, hown⟩

theorem indexed_deactivate (hL : L.Indexed) (nowNs : ℤ) (gone keep : List String)
    (hsplit : gone ++ keep = L.active) : (L.deactivate nowNs gone keep hsplit).Indexed := by
  intro f q hf
  obtain ⟨c, hc, hown⟩ := hL f q hf
  rw [get?_deactivate]
  split
  · exact ⟨markRemoved nowNs c, by rw [hc, Option.map_some], hown⟩
  · exact ⟨c, hc, hown⟩

theorem indexed_retire (hL : L.Indexed) {c : ProductContext} (hc : L.byId.get? p = some c)
    (hr : c.removed = true) : (L.retire p c hc hr).Indexed := by
  intro f q hf
  change (L.idBySequence.erase c.fifoSequence).get? f = some q at hf
  change ∃ d, (L.byId.erase p).get? q = some d ∧ d.fifoSequence = f
  rw [OrderedDict.get?_erase] at hf
  split at hf
  · cases hf
  · rename_i hother
    obtain ⟨d, hd, hown⟩ := hL f q hf
    refine ⟨d, ?_, hown⟩
    rw [OrderedDict.get?_erase, if_neg, hd]
    rintro rfl
    cases hd.symm.trans hc
    exact hother hown.symm

theorem indexed_prune (hL : L.Indexed) (cutoffNs : ℤ) : (L.pruneRemoved cutoffNs).2.Indexed := by
  have h : ∀ ids (acc : List String × ProductLedger), acc.2.Indexed →
      (List.foldl (pruneOne cutoffNs) acc ids).2.Indexed := by
    intro ids
    induction ids with
    | nil => exact fun acc hacc => hacc
    | cons p ids ih =>
      intro acc hacc
      refine ih _ ?_
      unfold pruneOne
      split
      · exact hacc
      · split
        · rename_i c hc hx
          exact indexed_retire hacc hc (removed_of_expired hx)
        · exact hacc
  exact h L.byId.keys ([], L) hL

theorem lastSequence_prune (L : ProductLedger) (cutoffNs : ℤ) :
    (L.pruneRemoved cutoffNs).2.lastSequence = L.lastSequence :=
  (prune_removed_carries L cutoffNs).lastSequence

end ProductLedger

namespace LedgerHistory

open ProductLedger

variable {h : LedgerHistory}

theorem done_of_completed {L : ProductLedger} {nowNs : ℤ} {c : ProductContext}
    (hc : c ∈ (L.removeCompletedPrefix nowNs).1) :
    c.completed = true ∧ c.physicalState = .done := by
  simp only [removeCompletedPrefix, gone_contexts] at hc
  obtain ⟨d, hd, rfl⟩ := List.mem_map.mp hc
  obtain ⟨q, hq, hget⟩ := List.mem_filterMap.mp hd
  have hdone := List.mem_takeWhile_imp hq
  rw [isDone, hget, Option.any_some, Bool.and_eq_true, decide_eq_true_eq] at hdone
  exact hdone

/-- The front of the FIFO leaves it, and nothing else happens. -/
theorem sound_deactivate (hs : Sound h) (nowNs : ℤ) (gone keep : List String)
    (hsplit : gone ++ keep = h.ledger.active) (cause : Departure)
    (hcause : cause = .completed → ∀ c ∈ gone.filterMap
      (h.ledger.deactivate nowNs gone keep hsplit).byId.get?,
        c.completed = true ∧ c.physicalState = .done) :
    Sound { h with
      ledger := h.ledger.deactivate nowNs gone keep hsplit
      departed := h.departed ++ (gone.filterMap
        (h.ledger.deactivate nowNs gone keep hsplit).byId.get?).map fun c => (c, cause) } where
  indexed := indexed_deactivate hs.indexed nowNs gone keep hsplit
  flow := by
    rw [List.map_append, List.map_map, List.append_assoc]
    change h.departed.map (fun d => key d.1) ++ ((gone.filterMap
      (h.ledger.deactivate nowNs gone keep hsplit).byId.get?).map key ++ _) = _
    rw [fifo_deactivate]
    exact hs.flow
  growing := hs.growing
  below := hs.below
  completed c hc := by
    rcases List.mem_append.mp hc with hc | hc
    · exact hs.completed c hc
    · obtain ⟨d, hd, heq⟩ := List.mem_map.mp hc
      cases heq
      exact hcause rfl c hd

theorem sound_next (hs : Sound h) (call : LedgerCall) : Sound (h.next call) := by
  cases call with
  | register p f =>
    unfold next
    rcases register_admits h.ledger p (f := f) with ⟨hold, hsame⟩ | ⟨hnew, habsent, hfifo, hL⟩
    · simp only [hold, hsame]
      exact hs
    · simp only [hnew, hL, if_true]
      refine ⟨indexed_enqueue hs.indexed habsent hfifo, ?_, ?_, fun r hr => ?_, hs.completed⟩
      · unfold fifo
        rw [activeContexts_enqueue, List.map_append, ← List.append_assoc]
        exact congrArg (· ++ [(p, f)]) hs.flow
      · rw [List.map_append, List.pairwise_append]
        refine ⟨hs.growing, List.pairwise_singleton _ _, fun n hn k hk => ?_⟩
        obtain ⟨r, hr, rfl⟩ := List.mem_map.mp hn
        rw [List.mem_singleton.mp hk]
        exact (hs.below r hr).trans_lt hfifo
      · rcases List.mem_append.mp hr with hr | hr
        · exact (hs.below r hr).trans hfifo.le
        · rw [List.mem_singleton.mp hr]
          exact le_refl f
  | registerCapture captureId p s =>
    have hsame : ∃ owners, (h.ledger.registerCapture captureId p s).2 =
        { h.ledger with captureOwners := owners } := by
      unfold registerCapture
      split
      · split <;> exact ⟨_, rfl⟩
      · exact ⟨_, rfl⟩
    obtain ⟨owners, hsame⟩ := hsame
    simp only [next, hsame]
    exact ⟨hs.indexed, hs.flow, hs.growing, hs.below, hs.completed⟩
  | operate p op =>
    refine ⟨indexed_operate hs.indexed p op, ?_, hs.growing, ?_, hs.completed⟩
    · change _ ++ (h.ledger.operate p op).2.fifo = _
      rw [fifo_operate]
      exact hs.flow
    · intro r hr
      exact (hs.below r hr).trans_eq (lastSequence_operate _ _ _).symm
  | removeCompletedPrefix nowNs =>
    exact sound_deactivate hs nowNs _ _ List.takeWhile_append_dropWhile .completed
      fun _ c hc => done_of_completed hc
  | clearActive nowNs =>
    refine sound_deactivate hs nowNs _ _ (List.append_nil _) .cleared fun hcause => ?_
    cases hcause
  | pruneRemoved cutoffNs =>
    refine ⟨indexed_prune hs.indexed cutoffNs, ?_, hs.growing, ?_, hs.completed⟩
    · change _ ++ (h.ledger.pruneRemoved cutoffNs).2.activeContexts.map key = _
      rw [activeContexts_prune]
      exact hs.flow
    · intro r hr
      exact (hs.below r hr).trans_eq (lastSequence_prune _ _).symm

/-! ### The owners of the captures -/

/-- A call lets a capture go, or leaves it to its owner. -/
theorem owner_next {k : String} {o o' : String × StationId} {call : LedgerCall}
    (ho : h.ledger.captureOwner k = some o)
    (hafter : (h.next call).ledger.captureOwner k = some o') : o' = o := by
  have hsame : (h.next call).ledger.captureOwner k = some o → o' = o := by
    intro hkept
    exact Option.some.inj (hafter.symm.trans hkept)
  cases call with
  | register p f =>
    refine hsame ?_
    change (h.ledger.register p f).2.captureOwner k = some o
    rcases h.ledger.register_cases p f with hL | ⟨_, _, hL⟩ <;> rw [hL] <;> exact ho
  | registerCapture captureId p s =>
    refine hsame ?_
    change (h.ledger.registerCapture captureId p s).2.captureOwner k = some o
    unfold registerCapture
    split
    · rename_i owner howner
      split
      · exact ho
      · rename_i hown
        change (h.ledger.captureOwners.insert captureId (p, s)).get? k = some o
        rw [OrderedDict.get?_insert]
        split
        · rename_i hk
          subst hk
          cases howner.symm.trans ho
          rw [not_not.mp hown]
        · exact ho
    · rename_i hnone
      change (h.ledger.captureOwners.insert captureId (p, s)).get? k = some o
      rw [OrderedDict.get?_insert, if_neg]
      · exact ho
      · rintro rfl
        cases hnone.symm.trans ho
  | operate p op =>
    refine hsame ?_
    change (h.ledger.operate p op).2.captureOwners.get? k = some o
    rw [captureOwners_operate]
    exact ho
  | removeCompletedPrefix nowNs => exact hsame ho
  | clearActive nowNs => exact hsame ho
  | pruneRemoved cutoffNs =>
    have hbefore := (prune_removed_carries h.ledger cutoffNs).owned k o' hafter
    exact Option.some.inj (hbefore.symm.trans ho)

theorem owner_kept {g : LedgerHistory} {k : String} {o : String × StationId}
    (hrun : InputRuns.Execution next
      (fun s call => ((s.next call).ledger.captureOwner k).isSome = true) h g)
    (ho : h.ledger.captureOwner k = some o) : g.ledger.captureOwner k = some o := by
  refine hrun.invariant (P := fun s => s.ledger.captureOwner k = some o)
    (fun s call hs hretained => ?_) ho
  obtain ⟨o', ho'⟩ := Option.isSome_iff_exists.mp hretained
  rw [ho', owner_next hs ho']

/-! ### All runs -/

def run (calls : List LedgerCall) : LedgerHistory := InputRuns.runTrace next {} calls

theorem sound_run (calls : List LedgerCall) : Sound (run calls) := by
  have hrun : InputRuns.Execution next (fun _ _ => True) {} (run calls) :=
    InputRuns.valid_trace_execution (InputRuns.valid_trace_of_total _ calls)
  refine hrun.invariant (P := Sound) (fun h call hs _ => sound_next hs call)
    ⟨fun f p hf => ?_, rfl, List.Pairwise.nil, fun r hr => ?_, fun c hc => ?_⟩
  · cases hf
  · cases hr
  · cases hc

/-- The representation of the products. The registered products are those that have left the
FIFO, in the order in which they left it, followed by the FIFO. -/
structure WellKept (h : LedgerHistory) : Prop where
  ascending : (h.ledger.activeContexts.map (·.fifoSequence)).Pairwise (· < ·)
  live : ∀ p ∈ h.ledger.active, ∃ c, h.ledger.byId.get? p = some c ∧ c.removed = false
  contexts : h.ledger.activeContexts.map (·.productId) = h.ledger.active
  inverse : ∀ f p, h.ledger.idBySequence.get? f = some p ↔
    ∃ c, h.ledger.byId.get? p = some c ∧ c.fifoSequence = f
  numbered : (h.registered.map Prod.snd).Pairwise (· < ·)
  owner : ∀ k o g, InputRuns.Execution next
    (fun s call => ((s.next call).ledger.captureOwner k).isSome = true) h g →
      h.ledger.captureOwner k = some o → g.ledger.captureOwner k = some o
  leaves : h.departed.map (fun d => key d.1) ++ h.ledger.activeContexts.map key = h.registered
  completed : ∀ c, (c, Departure.completed) ∈ h.departed →
    c.completed = true ∧ c.physicalState = .done

/-- Whatever is called, and however the methods of the contexts come between the calls. -/
theorem ledger_well_kept (calls : List LedgerCall) : WellKept (run calls) := by
  have hs := sound_run calls
  refine ⟨?_, (run calls).ledger.active_live, (run calls).ledger.active_contexts_ids,
    fun f p => ⟨hs.indexed f p, ?_⟩, hs.growing, fun k o g => owner_kept, hs.flow, hs.completed⟩
  · have hgrowing := hs.growing
    rw [← hs.flow, List.map_append, List.pairwise_append] at hgrowing
    have hactive := hgrowing.2.1
    rw [fifo, List.map_map] at hactive
    exact hactive
  · rintro ⟨c, hc, rfl⟩
    exact ((run calls).ledger.identified p c hc).2.2.2

end LedgerHistory

end InspectionLine
