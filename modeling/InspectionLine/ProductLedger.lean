import InspectionLine.ProductEffects
import Mathlib.Data.List.DropRight

/-! # The product ledger and the active FIFO

The ledger carries its own consistency: an active product is always present and not
removed, and the sequence index is the inverse of the products' sequence numbers. -/
namespace InspectionLine

structure ProductLedger where
  byId : OrderedDict String ProductContext := .empty
  idBySequence : OrderedDict ℕ String := .empty
  captureOwners : OrderedDict String (String × StationId) := .empty
  active : List String := []
  lastSequence : ℕ := 0
  retiredProducts : OrderedDict (String × ℕ) Unit := .empty
  retiredCaptures : OrderedDict String Unit := .empty
  active_nodup : active.Nodup := by exact List.nodup_nil
  active_live : ∀ p ∈ active, ∃ c, byId.get? p = some c ∧ c.removed = false := by simp
  identified : ∀ p c, byId.get? p = some c → c.productId = p ∧ 0 < c.fifoSequence ∧
    c.fifoSequence ≤ lastSequence ∧ idBySequence.get? c.fifoSequence = some p := by simp

namespace ProductLedger

def retiredCapacity : ℕ := 4096

def initial : ProductLedger := {}

def activeSize (L : ProductLedger) : ℕ := L.active.length

def nextSequence (L : ProductLedger) : ℕ := L.lastSequence + 1

theorem fresh_of_above {L : ProductLedger} {p q : String} {c : ProductContext}
    (h : L.byId.get? q = some c) (hp : L.byId.get? p = none) : q ≠ p := by
  rintro rfl
  rw [hp] at h
  exact absurd h (by simp)

def enqueue (L : ProductLedger) (productId : String) (fifoSequence : ℕ)
    (habsent : L.byId.get? productId = none) (hfifo : L.lastSequence < fifoSequence) :
    ProductLedger where
  byId := L.byId.insert productId { productId, fifoSequence }
  idBySequence := L.idBySequence.insert fifoSequence productId
  captureOwners := L.captureOwners
  active := L.active ++ [productId]
  lastSequence := fifoSequence
  retiredProducts := L.retiredProducts
  retiredCaptures := L.retiredCaptures
  active_nodup := by
    refine List.nodup_append.mpr ⟨L.active_nodup, List.nodup_singleton _, ?_⟩
    intro q hq p hp
    rw [List.mem_singleton] at hp
    subst hp
    obtain ⟨c, hc, _⟩ := L.active_live q hq
    exact fresh_of_above hc habsent
  active_live := by
    intro q hq
    rcases List.mem_append.mp hq with hq | hq
    · obtain ⟨c, hc, hr⟩ := L.active_live q hq
      exact ⟨c, by rw [OrderedDict.get?_insert_of_ne _ _ (fresh_of_above hc habsent), hc], hr⟩
    · rw [List.mem_singleton] at hq
      subst hq
      exact ⟨_, OrderedDict.get?_insert_self _ _ _, rfl⟩
  identified := by
    intro q c hq
    rw [OrderedDict.get?_insert] at hq
    split at hq
    · rename_i hqp
      cases hq
      exact ⟨hqp.symm, Nat.zero_lt_of_lt hfifo, le_refl _,
        by rw [OrderedDict.get?_insert_self, hqp]⟩
    · obtain ⟨hid, hpos, hle, hidx⟩ := L.identified q c hq
      refine ⟨hid, hpos, by omega, ?_⟩
      rw [OrderedDict.get?_insert_of_ne _ _ (by omega), hidx]

def register (L : ProductLedger) (productId : String) (fifoSequence : ℕ) :
    Except FlowError Unit × ProductLedger :=
  if productId = "" ∨ fifoSequence < 1 then
    (.error (.valueError "product_id and positive fifo_sequence are required"), L)
  else match habsent : L.byId.get? productId with
    | some existing =>
      if existing.fifoSequence ≠ fifoSequence then
        (.error (.productIdentityConflict "product_id already has another fifo_sequence"), L)
      else (.ok (), L)
    | none =>
      if L.idBySequence.contains fifoSequence then
        (.error (.productIdentityConflict "fifo_sequence already belongs to another product"), L)
      else if hfifo : fifoSequence ≤ L.lastSequence then
        (.error (.productFlowError "fifo_sequence must increase monotonically"), L)
      else (.ok (), L.enqueue productId fifoSequence habsent (by omega))

def get (L : ProductLedger) (productId : String) (fifoSequence : ℕ) : Option ProductContext :=
  (L.byId.get? productId).filter fun c => c.fifoSequence = fifoSequence

def getById (L : ProductLedger) (productId : String) : Option ProductContext :=
  L.byId.get? productId

def activeContexts (L : ProductLedger) : List ProductContext := L.active.filterMap L.byId.get?

/-- No active product is missing from the table, so the tuple of contexts is the FIFO. -/
theorem active_contexts_ids (L : ProductLedger) :
    L.activeContexts.map (·.productId) = L.active := by
  unfold activeContexts
  rw [List.map_filterMap]
  have h : ∀ p ∈ L.active, (L.byId.get? p).map (·.productId) = some p := by
    intro p hp
    obtain ⟨c, hc, _⟩ := L.active_live p hp
    rw [hc, Option.map_some, (L.identified p c hc).1]
  rw [List.filterMap_congr h]
  exact List.filterMap_some

/-- Runs one method on the context stored under an id, in place. -/
def operate (L : ProductLedger) (productId : String) (op : ContextOp) :
    Except FlowError Reply × ProductLedger :=
  match L.byId.get? productId with
  | none => (.error (.keyError productId), L)
  | some c => ((op.apply c).1, { L with
      byId := L.byId.modify productId fun c => (op.apply c).2
      active_live := by
        intro p hp
        obtain ⟨d, hd, hr⟩ := L.active_live p hp
        rw [OrderedDict.get?_modify]
        split
        · exact ⟨_, by rw [hd, Option.map_some], (op.apply_same_identity d).removed.trans hr⟩
        · exact ⟨d, hd, hr⟩
      identified := by
        intro p d hd
        rw [OrderedDict.get?_modify] at hd
        split at hd
        · obtain ⟨e, he, rfl⟩ := Option.map_eq_some_iff.mp hd
          have hsame := op.apply_same_identity e
          rw [hsame.productId, hsame.fifoSequence]
          exact L.identified p e he
        · exact L.identified p d hd })

def registerCapture (L : ProductLedger) (captureId productId : String) (stationId : StationId) :
    Except FlowError Unit × ProductLedger :=
  match L.captureOwners.get? captureId with
  | some owner =>
    if owner ≠ (productId, stationId) then
      (.error (.productIdentityConflict "capture_id belongs to another product/station"), L)
    else
      (.ok (), { L with captureOwners := L.captureOwners.insert captureId (productId, stationId) })
  | none =>
    (.ok (), { L with captureOwners := L.captureOwners.insert captureId (productId, stationId) })

def captureOwner (L : ProductLedger) (captureId : String) : Option (String × StationId) :=
  L.captureOwners.get? captureId

/-- The scan of `oldest_in_state`, with the contexts already passed in FIFO order. -/
def oldestFrom (state : ProductPhysicalState) (earlier : List ProductContext) :
    List ProductContext → Except FlowError ProductContext
  | [] => .error (.productFlowError ("no active product is waiting in " ++ state.name))
  | c :: rest =>
    if c.physicalState ≠ state then oldestFrom state (earlier ++ [c]) rest
    else match earlier.find? fun e => e.physicalState.value < state.value with
      | some e => .error (.productFlowError
          ("earlier product " ++ e.productId ++ " is behind " ++ state.name))
      | none => .ok c

def oldestInState (L : ProductLedger) (state : ProductPhysicalState) :
    Except FlowError ProductContext := oldestFrom state [] L.activeContexts

def validateAlignment (L : ProductLedger) : Bool :=
  let contexts := L.activeContexts
  let sequences : List ℕ := contexts.map (·.fifoSequence)
  decide (sequences.Pairwise (· ≤ ·)) && decide sequences.Nodup &&
    contexts.all (fun c => !c.removed) &&
    decide (contexts.IsChain fun earlier later =>
      later.physicalState.value ≤ earlier.physicalState.value)

def markRemoved (nowNs : ℤ) (c : ProductContext) : ProductContext :=
  { c with removed := true, removedMonotonicNs := nowNs }.touch

/-- Takes the front part of the FIFO out of it and marks those products removed. -/
def deactivate (L : ProductLedger) (nowNs : ℤ) (gone keep : List String)
    (hsplit : gone ++ keep = L.active) : ProductLedger :=
  { L with
    byId := gone.foldl (fun d p => d.modify p (markRemoved nowNs)) L.byId
    active := keep
    active_nodup := (hsplit ▸ L.active_nodup).of_append_right
    active_live := by
      have hnodup : (gone ++ keep).Nodup := hsplit ▸ L.active_nodup
      intro p hp
      have hnot : p ∉ gone := fun hg => (List.nodup_append.mp hnodup).2.2 p hg p hp rfl
      obtain ⟨c, hc, hr⟩ := L.active_live p (hsplit ▸ List.mem_append_right gone hp)
      rw [OrderedDict.get?_foldl_modify _ hnodup.of_append_left, if_neg hnot]
      exact ⟨c, hc, hr⟩
    identified := by
      have hnodup : (gone ++ keep).Nodup := hsplit ▸ L.active_nodup
      intro p c hc
      rw [OrderedDict.get?_foldl_modify _ hnodup.of_append_left] at hc
      split at hc
      · obtain ⟨d, hd, rfl⟩ := Option.map_eq_some_iff.mp hc
        exact L.identified p d hd
      · exact L.identified p c hc }

def isDone (L : ProductLedger) (productId : String) : Bool :=
  (L.byId.get? productId).any fun c => c.completed && decide (c.physicalState = .done)

def removeCompletedPrefix (L : ProductLedger) (nowNs : ℤ) : List ProductContext × ProductLedger :=
  let gone := L.active.takeWhile L.isDone
  let next := L.deactivate nowNs gone (L.active.dropWhile L.isDone) List.takeWhile_append_dropWhile
  (gone.filterMap next.byId.get?, next)

def clearActive (L : ProductLedger) (nowNs : ℤ) : List ProductContext × ProductLedger :=
  let next := L.deactivate nowNs L.active [] (List.append_nil _)
  (L.active.filterMap next.byId.get?, next)

/-- Past the retention time; a product whose removal time was never set stays. -/
def expired (cutoffNs : ℤ) (c : ProductContext) : Bool :=
  c.removed && decide (0 < c.removedMonotonicNs) && decide (c.removedMonotonicNs ≤ cutoffNs)

theorem removed_of_expired {cutoffNs : ℤ} {c : ProductContext} (h : expired cutoffNs c = true) :
    c.removed = true := by
  simp only [expired, Bool.and_eq_true] at h
  exact h.1.1

def capturesOf (L : ProductLedger) (productId : String) : List String :=
  (L.captureOwners.entries.filter fun e => e.2.1 = productId).map Prod.fst

def trimRetired (L : ProductLedger) : ProductLedger :=
  { L with
    retiredProducts := L.retiredProducts.trim retiredCapacity
    retiredCaptures := L.retiredCaptures.trim (retiredCapacity * 2) }

/-- Replaces an expired product and its captures by tombstones. -/
def retire (L : ProductLedger) (productId : String) (c : ProductContext)
    (hc : L.byId.get? productId = some c) (hr : c.removed = true) : ProductLedger :=
  trimRetired { L with
    byId := L.byId.erase productId
    idBySequence := L.idBySequence.erase c.fifoSequence
    retiredProducts := L.retiredProducts.touch (c.productId, c.fifoSequence) ()
    captureOwners := (L.capturesOf c.productId).foldl OrderedDict.erase L.captureOwners
    retiredCaptures := (L.capturesOf c.productId).foldl (fun d k => d.touch k ()) L.retiredCaptures
    active_live := by
      intro p hp
      obtain ⟨d, hd, hd'⟩ := L.active_live p hp
      refine ⟨d, ?_, hd'⟩
      rw [OrderedDict.get?_erase, if_neg, hd]
      rintro rfl
      rw [hc] at hd
      cases hd
      rw [hr] at hd'
      cases hd'
    identified := by
      intro p d hd
      rw [OrderedDict.get?_erase] at hd
      split at hd
      · cases hd
      · rename_i hne
        obtain ⟨hid, hpos, hle, hidx⟩ := L.identified p d hd
        refine ⟨hid, hpos, hle, ?_⟩
        rw [OrderedDict.get?_erase, if_neg, hidx]
        intro hfifo
        rw [hfifo, (L.identified productId c hc).2.2.2] at hidx
        exact hne (Option.some.inj hidx).symm }

def pruneOne (cutoffNs : ℤ) (acc : List String × ProductLedger) (productId : String) :
    List String × ProductLedger :=
  match hc : acc.2.byId.get? productId with
  | none => acc
  | some c =>
    if hx : expired cutoffNs c then
      (acc.1 ++ [productId], acc.2.retire productId c hc (removed_of_expired hx))
    else acc

def pruneRemoved (L : ProductLedger) (cutoffNs : ℤ) : List String × ProductLedger :=
  L.byId.keys.foldl (pruneOne cutoffNs) ([], L)

def isRetiredProduct (L : ProductLedger) (productId : String) (fifoSequence : ℕ) : Bool :=
  L.retiredProducts.contains (productId, fifoSequence)

def isRetiredCapture (L : ProductLedger) (captureId : String) : Bool :=
  L.retiredCaptures.contains captureId

theorem register_cases (L : ProductLedger) (p : String) (f : ℕ) :
    (L.register p f).2 = L ∨
      ∃ habsent hfifo, (L.register p f).2 = L.enqueue p f habsent hfifo := by
  unfold register
  split
  · exact .inl rfl
  · split
    · split <;> exact .inl rfl
    · rename_i habsent
      split
      · exact .inl rfl
      · split
        · exact .inl rfl
        · rename_i hfifo
          exact .inr ⟨habsent, by omega, rfl⟩

theorem get?_operate (L : ProductLedger) (p q : String) (op : ContextOp) :
    (L.operate p op).2.byId.get? q =
      if q = p then (L.byId.get? q).map fun c => (op.apply c).2 else L.byId.get? q := by
  unfold operate
  split
  · rename_i habsent
    split
    · rename_i hq
      rw [hq, habsent, Option.map_none]
    · rfl
  · exact OrderedDict.get?_modify _ _ _ _

@[simp] theorem captureOwners_operate (L : ProductLedger) (p : String) (op : ContextOp) :
    (L.operate p op).2.captureOwners = L.captureOwners := by
  unfold operate
  split <;> rfl

@[simp] theorem lastSequence_operate (L : ProductLedger) (p : String) (op : ContextOp) :
    (L.operate p op).2.lastSequence = L.lastSequence := by
  unfold operate
  split <;> rfl

theorem operate_outcome {L : ProductLedger} {p : String} {c : ProductContext}
    (h : L.byId.get? p = some c) (op : ContextOp) : (L.operate p op).1 = (op.apply c).1 := by
  unfold operate
  split <;> simp_all

structure Carries (L M : ProductLedger) : Prop where
  context : ∀ p d, M.byId.get? p = some d → ∃ c, L.byId.get? p = some c ∧
    d.stations = c.stations ∧ d.locked = c.locked ∧ d.physicalState = c.physicalState ∧
      d.fifoSequence = c.fifoSequence
  owner : ∀ p d k s, M.byId.get? p = some d → L.captureOwner k = some (p, s) →
    M.captureOwner k = some (p, s)
  owned : ∀ k o, M.captureOwner k = some o → L.captureOwner k = some o
  lastSequence : M.lastSequence = L.lastSequence

theorem Carries.refl (L : ProductLedger) : Carries L L where
  context _ d hd := ⟨d, hd, rfl, rfl, rfl, rfl⟩
  owner _ _ _ _ _ ho := ho
  owned _ _ ho := ho
  lastSequence := rfl

theorem Carries.trans {L M N : ProductLedger} (h : Carries L M) (g : Carries M N) :
    Carries L N where
  context p e he := by
    obtain ⟨d, hd, hs, hl, hp, hf⟩ := g.context p e he
    obtain ⟨c, hc, hs', hl', hp', hf'⟩ := h.context p d hd
    exact ⟨c, hc, hs.trans hs', hl.trans hl', hp.trans hp', hf.trans hf'⟩
  owner p e k s he ho := by
    obtain ⟨d, hd, _⟩ := g.context p e he
    exact g.owner p e k s he (h.owner p d k s hd ho)
  owned k o ho := h.owned k o (g.owned k o ho)
  lastSequence := g.lastSequence.trans h.lastSequence

theorem deactivate_carries (L : ProductLedger) (nowNs : ℤ) (gone keep : List String)
    (hsplit : gone ++ keep = L.active) : Carries L (L.deactivate nowNs gone keep hsplit) where
  context p d hd := by
    have hnodup : gone.Nodup := (hsplit ▸ L.active_nodup : (gone ++ keep).Nodup).of_append_left
    simp only [deactivate, OrderedDict.get?_foldl_modify _ hnodup] at hd
    split at hd
    · obtain ⟨c, hc, rfl⟩ := Option.map_eq_some_iff.mp hd
      exact ⟨c, hc, rfl, rfl, rfl, rfl⟩
    · exact ⟨d, hd, rfl, rfl, rfl, rfl⟩
  owner _ _ _ _ _ ho := ho
  owned _ _ ho := ho
  lastSequence := rfl

theorem remove_completed_prefix_carries (L : ProductLedger) (nowNs : ℤ) :
    Carries L (L.removeCompletedPrefix nowNs).2 :=
  deactivate_carries _ _ _ _ List.takeWhile_append_dropWhile

theorem clear_active_carries (L : ProductLedger) (nowNs : ℤ) :
    Carries L (L.clearActive nowNs).2 := deactivate_carries _ _ _ _ (List.append_nil _)

theorem mem_capturesOf {L : ProductLedger} {p k : String} :
    k ∈ L.capturesOf p ↔ ∃ s, L.captureOwner k = some (p, s) := by
  simp only [capturesOf, captureOwner, List.mem_map, List.mem_filter, OrderedDict.get?_eq_some]
  constructor
  · rintro ⟨⟨j, q, s⟩, ⟨hm, hq⟩, rfl⟩
    simp only [decide_eq_true_eq] at hq
    exact ⟨s, hq ▸ hm⟩
  · rintro ⟨s, hm⟩
    exact ⟨(k, p, s), ⟨hm, by simp⟩, rfl⟩

theorem captureOwner_retire {L : ProductLedger} {p : String} {c : ProductContext}
    (hc : L.byId.get? p = some c) (hr : c.removed = true) (k : String) :
    (L.retire p c hc hr).captureOwner k =
      if ∃ s, L.captureOwner k = some (p, s) then none else L.captureOwner k := by
  have hid : c.productId = p := (L.identified p c hc).1
  simp only [retire, trimRetired, captureOwner, OrderedDict.get?_foldl_erase]
  rw [hid]
  exact if_congr mem_capturesOf rfl rfl

theorem retire_carries {L : ProductLedger} {p : String} {c : ProductContext}
    (hc : L.byId.get? p = some c) (hr : c.removed = true) : Carries L (L.retire p c hc hr) where
  context q d hd := by
    simp only [retire, trimRetired, OrderedDict.get?_erase] at hd
    split at hd
    · cases hd
    · exact ⟨d, hd, rfl, rfl, rfl, rfl⟩
  owner q d k s hd ho := by
    have hne : q ≠ p := by
      rintro rfl
      simp [retire, trimRetired] at hd
    rw [captureOwner_retire, ho]
    simp [hne]
  owned k o ho := by
    rw [captureOwner_retire] at ho
    split at ho
    · cases ho
    · exact ho
  lastSequence := rfl

theorem prune_one_carries (cutoffNs : ℤ) (acc : List String × ProductLedger) (p : String) :
    Carries acc.2 (pruneOne cutoffNs acc p).2 := by
  unfold pruneOne
  split
  · exact .refl _
  · split
    · rename_i c hc hx
      exact retire_carries hc (removed_of_expired hx)
    · exact .refl _

theorem prune_removed_carries (L : ProductLedger) (cutoffNs : ℤ) :
    Carries L (L.pruneRemoved cutoffNs).2 := by
  have h : ∀ ids acc, Carries L acc.2 →
      Carries L (List.foldl (pruneOne cutoffNs) acc ids).2 := by
    intro ids
    induction ids with
    | nil => exact fun acc h => h
    | cons p ids ih => exact fun acc h => ih _ (h.trans (prune_one_carries cutoffNs acc p))
  exact h L.byId.keys ([], L) (.refl L)

structure Retains (L M : ProductLedger) : Prop where
  active : M.active = L.active
  context : ∀ p c, M.byId.get? p = some c → L.byId.get? p = some c

theorem Retains.refl (L : ProductLedger) : Retains L L := ⟨rfl, fun _ _ h => h⟩

theorem Retains.trans {L M N : ProductLedger} (h : Retains L M) (g : Retains M N) :
    Retains L N := ⟨g.active.trans h.active, fun p c hc => h.context p c (g.context p c hc)⟩

theorem prune_one_retains (cutoffNs : ℤ) (acc : List String × ProductLedger) (p : String) :
    Retains acc.2 (pruneOne cutoffNs acc p).2 := by
  unfold pruneOne
  split
  · exact .refl _
  · split
    · refine ⟨rfl, fun q c hc => ?_⟩
      simp only [retire, trimRetired, OrderedDict.get?_erase] at hc
      split at hc
      · cases hc
      · exact hc
    · exact .refl _

theorem prune_removed_retains (L : ProductLedger) (cutoffNs : ℤ) :
    Retains L (L.pruneRemoved cutoffNs).2 := by
  have h : ∀ ids acc, Retains L acc.2 →
      Retains L (List.foldl (pruneOne cutoffNs) acc ids).2 := by
    intro ids
    induction ids with
    | nil => exact fun acc h => h
    | cons p ids ih => exact fun acc h => ih _ (h.trans (prune_one_retains cutoffNs acc p))
  exact h L.byId.keys ([], L) (.refl L)

end ProductLedger

end InspectionLine
