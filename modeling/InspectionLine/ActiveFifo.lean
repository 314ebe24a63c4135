import InspectionLine.ProductLedger

/-! # The active FIFO

What the calls on the ledger do to the contexts of the active products. -/
namespace InspectionLine

namespace ProductLedger

variable {L : ProductLedger} {p : String} {c : ProductContext}

theorem get?_of_active {e : ProductContext} (h : e ∈ L.activeContexts) :
    L.byId.get? e.productId = some e ∧ e.productId ∈ L.active ∧ e.removed = false := by
  obtain ⟨q, hq, hget⟩ := List.mem_filterMap.mp h
  obtain ⟨d, hd, hlive⟩ := L.active_live q hq
  cases hget.symm.trans hd
  rw [(L.identified q e hget).1]
  exact ⟨hget, hq, hlive⟩

theorem active_of_get? (hp : p ∈ L.active) (hc : L.byId.get? p = some c) :
    c ∈ L.activeContexts := List.mem_filterMap.mpr ⟨p, hp, hc⟩

theorem activeContexts_operate (L : ProductLedger) (p : String) (op : ContextOp) :
    (L.operate p op).2.activeContexts =
      L.activeContexts.map fun c => if c.productId = p then (op.apply c).2 else c := by
  have hactive : (L.operate p op).2.active = L.active := by
    unfold operate
    split <;> rfl
  unfold activeContexts
  rw [hactive, List.map_filterMap]
  refine List.filterMap_congr fun q _ => ?_
  rw [get?_operate]
  cases hq : L.byId.get? q with
  | none => simp
  | some e =>
    rw [Option.map_some, Option.map_some, (L.identified q e hq).1]
    split <;> rfl

theorem activeContexts_enqueue {f : ℕ} (habsent : L.byId.get? p = none)
    (hfifo : L.lastSequence < f) : (L.enqueue p f habsent hfifo).activeContexts =
      L.activeContexts ++ [{ productId := p, fifoSequence := f }] := by
  unfold activeContexts
  change (L.active ++ [p]).filterMap _ = _
  rw [List.filterMap_append]
  congr 1
  · refine List.filterMap_congr fun q hq => ?_
    obtain ⟨c, hc, _⟩ := L.active_live q hq
    exact OrderedDict.get?_insert_of_ne _ _ (fresh_of_above hc habsent)
  · change [p].filterMap (L.byId.insert p _).get? = _
    rw [List.filterMap_cons, OrderedDict.get?_insert_self]
    rfl

theorem get?_deactivate (L : ProductLedger) (nowNs : ℤ) (gone keep : List String)
    (hsplit : gone ++ keep = L.active) (q : String) :
    (L.deactivate nowNs gone keep hsplit).byId.get? q =
      if q ∈ gone then (L.byId.get? q).map (markRemoved nowNs) else L.byId.get? q :=
  OrderedDict.get?_foldl_modify _
    (hsplit ▸ L.active_nodup : (gone ++ keep).Nodup).of_append_left _ _ _

/-- The front of the FIFO goes, and the rest stays as it is. -/
theorem activeContexts_deactivate (L : ProductLedger) (nowNs : ℤ) (gone keep : List String)
    (hsplit : gone ++ keep = L.active) : L.activeContexts =
      gone.filterMap L.byId.get? ++ (L.deactivate nowNs gone keep hsplit).activeContexts := by
  have hnodup : (gone ++ keep).Nodup := hsplit ▸ L.active_nodup
  have hkept : (L.deactivate nowNs gone keep hsplit).activeContexts =
      keep.filterMap L.byId.get? := by
    refine List.filterMap_congr fun q hq => ?_
    rw [get?_deactivate, if_neg]
    exact fun hgone => (List.nodup_append.mp hnodup).2.2 q hgone q hq rfl
  rw [hkept, ← List.filterMap_append, hsplit]
  rfl

theorem gone_contexts (L : ProductLedger) (nowNs : ℤ) (gone keep : List String)
    (hsplit : gone ++ keep = L.active) :
    gone.filterMap (L.deactivate nowNs gone keep hsplit).byId.get? =
      (gone.filterMap L.byId.get?).map (markRemoved nowNs) := by
  rw [List.map_filterMap]
  refine List.filterMap_congr fun q hq => ?_
  rw [get?_deactivate, if_pos hq]

theorem activeContexts_prune (L : ProductLedger) (cutoffNs : ℤ) :
    (L.pruneRemoved cutoffNs).2.activeContexts = L.activeContexts := by
  have hretains := prune_removed_retains L cutoffNs
  unfold activeContexts
  rw [hretains.active]
  refine List.filterMap_congr fun q hq => ?_
  obtain ⟨c, hc, _⟩ := (L.pruneRemoved cutoffNs).2.active_live q (hretains.active.symm ▸ hq)
  rw [hc, hretains.context q c hc]

/-! ### The scan for the oldest product -/

theorem oldest_split {state : ProductPhysicalState} (h : L.oldestInState state = .ok c) :
    ∃ front back, L.activeContexts = front ++ c :: back ∧ c.physicalState = state ∧
      ∀ e ∈ front, e.physicalState ≠ state ∧ state.value ≤ e.physicalState.value := by
  have hscan : ∀ (rest earlier : List ProductContext),
      (∀ e ∈ earlier, e.physicalState ≠ state) → oldestFrom state earlier rest = .ok c →
        ∃ front back, earlier ++ rest = front ++ c :: back ∧ c.physicalState = state ∧
          ∀ e ∈ front, e.physicalState ≠ state ∧ state.value ≤ e.physicalState.value := by
    intro rest
    induction rest with
    | nil =>
      intro earlier _ hc
      cases hc
    | cons e rest ih =>
      intro earlier hearlier hc
      unfold oldestFrom at hc
      split at hc
      · rename_i hother
        obtain ⟨front, back, hsplit, hrest⟩ := ih (earlier ++ [e]) (fun d hd => by
          rcases List.mem_append.mp hd with hd | hd
          · exact hearlier d hd
          · exact List.mem_singleton.mp hd ▸ hother) hc
        exact ⟨front, back, by rw [← hsplit, List.append_assoc, List.singleton_append], hrest⟩
      · rename_i hstate
        split at hc
        · cases hc
        · rename_i hnone
          cases hc
          refine ⟨earlier, rest, rfl, not_not.mp hstate, fun d hd => ⟨hearlier d hd, ?_⟩⟩
          have hbehind := List.find?_eq_none.mp hnone d hd
          simpa using hbehind
  exact hscan _ [] (fun e he => by cases he) h

end ProductLedger

end InspectionLine
