import InspectionLine.StationMessage
import InspectionLine.InputRuns
import Mathlib.Data.Fin.VecNotation

/-! # Replayed station terminals after pruning

The Log node replays every terminal of a session, while the ledger forgets a pruned product
except for a bounded number of tombstones. The history of all retirements of a session says
which terminals have fallen out of both. -/
namespace InspectionLine

open InputRuns

structure Retirement where
  product : String × ℕ
  captures : List String

namespace ProductLedger

/-- The retirements of one pruning pass over the given keys, in order. -/
def retirementsFrom (cutoffNs : ℤ) : ProductLedger → List String → List Retirement
  | _, [] => []
  | L, p :: ps =>
    let rest := retirementsFrom cutoffNs (pruneOne cutoffNs ([], L) p).2 ps
    match L.byId.get? p with
    | none => rest
    | some c =>
      if expired cutoffNs c then ⟨(p, c.fifoSequence), L.capturesOf p⟩ :: rest else rest

def retirements (L : ProductLedger) (cutoffNs : ℤ) : List Retirement :=
  retirementsFrom cutoffNs L L.byId.keys

theorem prune_one_ledger (cutoffNs : ℤ) (ids : List String) (L : ProductLedger) (p : String) :
    (pruneOne cutoffNs (ids, L) p).2 = (pruneOne cutoffNs ([], L) p).2 := by
  unfold pruneOne
  simp only
  split
  · rfl
  · split <;> rfl

theorem prune_one_expired {cutoffNs : ℤ} (ids : List String) {L : ProductLedger} {p : String}
    {c : ProductContext} (hc : L.byId.get? p = some c) (hx : expired cutoffNs c = true) :
    (pruneOne cutoffNs (ids, L) p).2 = L.retire p c hc (removed_of_expired hx) := by
  unfold pruneOne
  simp only
  split
  · simp_all
  · rename_i d hd
    rw [hc] at hd
    cases hd
    simp [hx]

theorem prune_one_kept {cutoffNs : ℤ} (ids : List String) {L : ProductLedger} {p : String}
    (h : ∀ c, L.byId.get? p = some c → expired cutoffNs c = false) :
    (pruneOne cutoffNs (ids, L) p).2 = L := by
  unfold pruneOne
  simp only
  split
  · rfl
  · rename_i d hd
    simp [h d hd]

/-- The pruning rule: what every single retirement keeps, a whole pass keeps. -/
theorem prune_rule {P : ProductLedger → List Retirement → Prop}
    (hretire : ∀ L log p c hc hr, P L log →
      P (L.retire p c hc hr) (log ++ [⟨(p, c.fifoSequence), L.capturesOf p⟩]))
    (cutoffNs : ℤ) {L : ProductLedger} {log : List Retirement} (h : P L log) :
    P (L.pruneRemoved cutoffNs).2 (log ++ L.retirements cutoffNs) := by
  have hfold : ∀ ps ids (L : ProductLedger) log, P L log →
      P (List.foldl (pruneOne cutoffNs) (ids, L) ps).2 (log ++ retirementsFrom cutoffNs L ps) := by
    intro ps
    induction ps with
    | nil =>
      intro ids L log h
      simpa [retirementsFrom] using h
    | cons p ps ih =>
      intro ids L log h
      rw [List.foldl_cons, retirementsFrom, ← prune_one_ledger cutoffNs ids L p]
      have hrest := fun log hP => ih (pruneOne cutoffNs (ids, L) p).1
        (pruneOne cutoffNs (ids, L) p).2 log hP
      cases hc : L.byId.get? p with
      | none =>
        have hsame : (pruneOne cutoffNs (ids, L) p).2 = L := prune_one_kept ids (by simp [hc])
        exact hrest log (hsame.symm ▸ h)
      | some c =>
        by_cases hx : expired cutoffNs c = true
        · have hnext := prune_one_expired ids hc hx
          have hdone := hrest _ (hnext.symm ▸ hretire L log p c hc (removed_of_expired hx) h)
          rw [List.append_assoc, List.singleton_append] at hdone
          simpa [hx] using hdone
        · have hsame : (pruneOne cutoffNs (ids, L) p).2 = L := prune_one_kept ids (by simp [hc, hx])
          simpa [hx] using hrest log (hsame.symm ▸ h)
  exact hfold L.byId.keys [] L log h

/-- The sequence number under which a product is in the table. -/
def fifoOf (L : ProductLedger) (p : String) : Option ℕ :=
  (L.byId.get? p).map (·.fifoSequence)

theorem get_isSome_iff {L : ProductLedger} {p : String} {f : ℕ} :
    (∃ c, L.get p f = some c) ↔ L.fifoOf p = some f := by
  simp only [get_eq_some, fifoOf, Option.map_eq_some_iff]

theorem get_eq_none_iff {L : ProductLedger} {p : String} {f : ℕ} :
    L.get p f = none ↔ L.fifoOf p ≠ some f := by
  rw [ne_eq, ← get_isSome_iff, Option.eq_none_iff_forall_ne_some]
  simp

/-- Steps that neither add nor drop a product, and keep every capture and tombstone. -/
structure Quiet (L M : ProductLedger) : Prop where
  fifo : ∀ p, M.fifoOf p = L.fifoOf p
  last : M.lastSequence = L.lastSequence
  products : M.retiredProducts = L.retiredProducts
  captures : M.retiredCaptures = L.retiredCaptures
  owner : ∀ k o, L.captureOwner k = some o → M.captureOwner k = some o

theorem operate_quiet (L : ProductLedger) (p : String) (op : ContextOp) :
    Quiet L (L.operate p op).2 where
  fifo q := by
    simp only [fifoOf, get?_operate]
    split
    · rw [Option.map_map]
      exact congrArg (Option.map · _) (funext fun c => (op.apply_same_identity c).fifoSequence)
    · rfl
  last := lastSequence_operate L p op
  products := by
    unfold operate
    split <;> rfl
  captures := by
    unfold operate
    split <;> rfl
  owner k o h := by
    simpa [captureOwner] using h

theorem register_capture_quiet (L : ProductLedger) (cap p : String) (s : StationId) :
    Quiet L (L.registerCapture cap p s).2 := by
  unfold registerCapture
  split
  · rename_i owner howner
    split
    · exact ⟨fun _ => rfl, rfl, rfl, rfl, fun _ _ h => h⟩
    · rename_i hsame
      refine ⟨fun _ => rfl, rfl, rfl, rfl, fun k o h => ?_⟩
      simp only [captureOwner, OrderedDict.get?_insert] at h ⊢
      split
      · rename_i hk
        rw [hk, howner] at h
        rw [← h, ← not_not.mp hsame]
      · exact h
  · rename_i hnone
    refine ⟨fun _ => rfl, rfl, rfl, rfl, fun k o h => ?_⟩
    simp only [captureOwner, OrderedDict.get?_insert] at h ⊢
    split
    · rename_i hk
      rw [hk, hnone] at h
      cases h
    · exact h

theorem deactivate_quiet (L : ProductLedger) (nowNs : ℤ) (gone keep : List String)
    (hsplit : gone ++ keep = L.active) : Quiet L (L.deactivate nowNs gone keep hsplit) where
  fifo p := by
    have hnodup : gone.Nodup := (hsplit ▸ L.active_nodup : (gone ++ keep).Nodup).of_append_left
    simp only [fifoOf, deactivate, OrderedDict.get?_foldl_modify _ hnodup]
    split
    · rw [Option.map_map]
      rfl
    · rfl
  last := rfl
  products := rfl
  captures := rfl
  owner _ _ h := h

theorem remove_completed_prefix_quiet (L : ProductLedger) (nowNs : ℤ) :
    Quiet L (L.removeCompletedPrefix nowNs).2 :=
  deactivate_quiet _ _ _ _ List.takeWhile_append_dropWhile

theorem clear_active_quiet (L : ProductLedger) (nowNs : ℤ) : Quiet L (L.clearActive nowNs).2 :=
  deactivate_quiet _ _ _ _ (List.append_nil _)

theorem fifoOf_enqueue {L : ProductLedger} {p : String} {f : ℕ} (habsent hfifo) (q : String) :
    (L.enqueue p f habsent hfifo).fifoOf q = if q = p then some f else L.fifoOf q := by
  simp only [fifoOf, enqueue, OrderedDict.get?_insert]
  split <;> rfl

theorem fifoOf_retire {L : ProductLedger} {p : String} {c : ProductContext} (hc hr) (q : String) :
    (L.retire p c hc hr).fifoOf q = if q = p then none else L.fifoOf q := by
  simp only [fifoOf, retire, trimRetired, OrderedDict.get?_erase]
  split <;> rfl

end ProductLedger

structure Session where
  ledger : ProductLedger
  retired : List Retirement

namespace Session

def initial : Session := ⟨.initial, []⟩

inductive Step where
  | register (productId : String) (fifoSequence : ℕ)
  | context (productId : String) (op : ContextOp)
  | registerCapture (captureId productId : String) (stationId : StationId)
  | removeCompletedPrefix (nowNs : ℤ)
  | clearActive (nowNs : ℤ)
  | pruneRemoved (cutoffNs : ℤ)

def next (S : Session) : Step → Session
  | .register p f => { S with ledger := (S.ledger.register p f).2 }
  | .context p op => { S with ledger := (S.ledger.operate p op).2 }
  | .registerCapture cap p s => { S with ledger := (S.ledger.registerCapture cap p s).2 }
  | .removeCompletedPrefix now => { S with ledger := (S.ledger.removeCompletedPrefix now).2 }
  | .clearActive now => { S with ledger := (S.ledger.clearActive now).2 }
  | .pruneRemoved cutoff => {
      ledger := (S.ledger.pruneRemoved cutoff).2
      retired := S.retired ++ S.ledger.retirements cutoff }

abbrev Run : Session → Session → Prop := Execution next fun _ _ => True

def Reachable (S : Session) : Prop := Run initial S

def productLog (S : Session) : List (String × ℕ) := S.retired.map (·.product)

def captureLog (S : Session) : List String := S.retired.flatMap (·.captures)

/-- The tables of tombstones are the most recent part of the session's retirements. -/
structure Invariant (S : Session) : Prop where
  products : S.ledger.retiredProducts.keys =
    OrderedDict.recent ProductLedger.retiredCapacity S.productLog
  captures : S.ledger.retiredCaptures.keys =
    OrderedDict.recent (ProductLedger.retiredCapacity * 2) S.captureLog
  nodup : S.productLog.Nodup
  gone : ∀ p f, (p, f) ∈ S.productLog →
    f ≤ S.ledger.lastSequence ∧ S.ledger.fifoOf p ≠ some f

/-- The product and the capture are both registered, under this sequence and station. -/
def Registered (S : Session) (p : String) (f : ℕ) (cap : String) (s : StationId) : Prop :=
  (∃ c, S.ledger.get p f = some c) ∧ S.ledger.captureOwner cap = some (p, s)

/-- Where a tuple registered before is now: still live, or retired for good. -/
structure Traced (p : String) (f : ℕ) (cap : String) (s : StationId) (S : Session) : Prop where
  past : f ≤ S.ledger.lastSequence
  placed : S.ledger.fifoOf p = some f ∨ (p, f) ∈ S.productLog
  owned : S.ledger.fifoOf p = some f → S.ledger.captureOwner cap = some (p, s)

private theorem initial_invariant : Invariant initial := by
  refine ⟨rfl, rfl, List.nodup_nil, ?_⟩
  intro p f h
  cases h

theorem quiet_preserves_invariant {S : Session} (h : Invariant S) {M : ProductLedger}
    (hq : ProductLedger.Quiet S.ledger M) : Invariant { S with ledger := M } where
  products := hq.products ▸ h.products
  captures := hq.captures ▸ h.captures
  nodup := h.nodup
  gone p f hm := by
    simp only [hq.fifo, hq.last]
    exact h.gone p f hm

theorem quiet_preserves_traced {p cap : String} {f : ℕ} {s : StationId} {S : Session}
    (h : Traced p f cap s S) {M : ProductLedger} (hq : ProductLedger.Quiet S.ledger M) :
    Traced p f cap s { S with ledger := M } where
  past := hq.last ▸ h.past
  placed := by
    rw [hq.fifo]
    exact h.placed
  owned hf := hq.owner _ _ (h.owned (hq.fifo p ▸ hf))

theorem register_preserves_invariant {S : Session} (h : Invariant S) (p : String) (f : ℕ) :
    Invariant { S with ledger := (S.ledger.register p f).2 } := by
  rcases S.ledger.register_cases p f with he | ⟨habsent, hfifo, he⟩
  · rw [he]
    exact h
  · rw [he]
    refine ⟨h.products, h.captures, h.nodup, ?_⟩
    intro q g hm
    obtain ⟨hle, hnot⟩ := h.gone q g hm
    refine ⟨hle.trans hfifo.le, ?_⟩
    rw [ProductLedger.fifoOf_enqueue]
    split
    · -- a new registration has a sequence above every retired one
      have hlt : g < f := Nat.lt_of_le_of_lt hle hfifo
      intro heq
      cases heq
      exact lt_irrefl _ hlt
    · exact hnot

theorem register_preserves_traced {p cap : String} {f : ℕ} {s : StationId} {S : Session}
    (h : Traced p f cap s S) (q : String) (g : ℕ) :
    Traced p f cap s { S with ledger := (S.ledger.register q g).2 } := by
  rcases S.ledger.register_cases q g with he | ⟨habsent, hfifo, he⟩
  · rw [he]
    exact h
  · rw [he]
    have hlt : f < g := Nat.lt_of_le_of_lt h.past hfifo
    refine ⟨hlt.le, ?_, ?_⟩
    · rcases h.placed with hlive | hlog
      · left
        rw [ProductLedger.fifoOf_enqueue, if_neg, hlive]
        rintro rfl
        rw [ProductLedger.fifoOf, habsent] at hlive
        cases hlive
      · exact .inr hlog
    · intro hlive
      rw [ProductLedger.fifoOf_enqueue] at hlive
      split at hlive
      · cases hlive
        exact absurd hlt (lt_irrefl _)
      · exact h.owned hlive

def retire (S : Session) (p : String) (c : ProductContext)
    (hc : S.ledger.byId.get? p = some c) (hr : c.removed = true) : Session :=
  ⟨S.ledger.retire p c hc hr, S.retired ++ [⟨(p, c.fifoSequence), S.ledger.capturesOf p⟩]⟩

theorem retire_preserves_invariant {S : Session} (h : Invariant S) {p : String}
    {c : ProductContext} (hc : S.ledger.byId.get? p = some c) (hr : c.removed = true) :
    Invariant (S.retire p c hc hr) := by
  have hid : c.productId = p := (S.ledger.identified p c hc).1
  have hlive : S.ledger.fifoOf p = some c.fifoSequence := by
    rw [ProductLedger.fifoOf, hc, Option.map_some]
  have hproducts : (S.retire p c hc hr).productLog = S.productLog ++ [(p, c.fifoSequence)] := by
    simp [productLog, retire]
  have hcaptures : (S.retire p c hc hr).captureLog = S.captureLog ++ S.ledger.capturesOf p := by
    simp [captureLog, retire]
  refine ⟨?_, ?_, ?_, ?_⟩
  · rw [hproducts, OrderedDict.recent_append, ← h.products]
    simp only [retire, ProductLedger.retire, ProductLedger.trimRetired, OrderedDict.keys_trim,
      OrderedDict.keys_touch, hid]
  · rw [hcaptures]
    simp only [retire, ProductLedger.retire, ProductLedger.trimRetired, hid]
    refine OrderedDict.keys_trim_touch_all ?_ _ _
    rw [h.captures]
    exact OrderedDict.rtake_recent _ _
  · rw [hproducts]
    refine List.nodup_append.mpr ⟨h.nodup, List.nodup_singleton _, ?_⟩
    rintro a ha b hb rfl
    rw [List.mem_singleton] at hb
    subst hb
    exact (h.gone _ _ ha).2 hlive
  · intro q g hm
    rw [hproducts, List.mem_append, List.mem_singleton] at hm
    simp only [retire, ProductLedger.fifoOf_retire]
    rcases hm with hm | hm
    · obtain ⟨hle, hnot⟩ := h.gone q g hm
      refine ⟨hle, ?_⟩
      split
      · simp
      · exact hnot
    · cases hm
      exact ⟨(S.ledger.identified p c hc).2.2.1, by simp⟩

theorem retire_preserves_traced {p cap : String} {f : ℕ} {s : StationId} {S : Session}
    (h : Traced p f cap s S) {q : String} {c : ProductContext}
    (hc : S.ledger.byId.get? q = some c) (hr : c.removed = true) :
    Traced p f cap s (S.retire q c hc hr) := by
  refine ⟨h.past, ?_, ?_⟩
  · rcases h.placed with hlive | hlog
    · by_cases hp : p = q
      · subst hp
        right
        rw [ProductLedger.fifoOf, hc, Option.map_some] at hlive
        simp [retire, productLog, Option.some.inj hlive]
      · left
        simp only [retire, ProductLedger.fifoOf_retire, if_neg hp]
        exact hlive
    · right
      simp only [productLog, retire, List.map_append, List.mem_append]
      exact .inl hlog
  · intro hlive
    simp only [retire, ProductLedger.fifoOf_retire] at hlive
    split at hlive
    · cases hlive
    · rename_i hne
      simp only [retire, ProductLedger.captureOwner_retire, h.owned hlive]
      rw [if_neg]
      rintro ⟨t, ht⟩
      exact hne (Prod.mk.inj (Option.some.inj ht)).1

theorem step_preserves_invariant {S : Session} (h : Invariant S) (e : Step) :
    Invariant (next S e) := by
  cases e with
  | register p f => exact register_preserves_invariant h p f
  | context p op => exact quiet_preserves_invariant h (ProductLedger.operate_quiet _ p op)
  | registerCapture cap p s =>
    exact quiet_preserves_invariant h (ProductLedger.register_capture_quiet _ cap p s)
  | removeCompletedPrefix now =>
    exact quiet_preserves_invariant h (ProductLedger.remove_completed_prefix_quiet _ now)
  | clearActive now => exact quiet_preserves_invariant h (ProductLedger.clear_active_quiet _ now)
  | pruneRemoved cutoff =>
    exact ProductLedger.prune_rule (P := fun L log => Invariant ⟨L, log⟩)
      (fun _ _ _ _ hc hr h => retire_preserves_invariant h hc hr) cutoff h

theorem reachable_invariant {S : Session} (h : Reachable S) : Invariant S :=
  h.invariant (P := Invariant) (fun _ e hi _ => step_preserves_invariant hi e) initial_invariant

theorem step_preserves_traced {p cap : String} {f : ℕ} {s : StationId} {S : Session}
    (h : Traced p f cap s S) (e : Step) : Traced p f cap s (next S e) := by
  cases e with
  | register q g => exact register_preserves_traced h q g
  | context q op => exact quiet_preserves_traced h (ProductLedger.operate_quiet _ q op)
  | registerCapture k q t =>
    exact quiet_preserves_traced h (ProductLedger.register_capture_quiet _ k q t)
  | removeCompletedPrefix now =>
    exact quiet_preserves_traced h (ProductLedger.remove_completed_prefix_quiet _ now)
  | clearActive now => exact quiet_preserves_traced h (ProductLedger.clear_active_quiet _ now)
  | pruneRemoved cutoff =>
    exact ProductLedger.prune_rule (P := fun L log => Traced p f cap s ⟨L, log⟩)
      (fun _ _ _ _ hc hr h => retire_preserves_traced h hc hr) cutoff h

theorem registered_traced {p cap : String} {f : ℕ} {s : StationId} {S T : Session}
    (h : Registered S p f cap s) (hrun : Run S T) : Traced p f cap s T := by
  obtain ⟨⟨c, hc⟩, howner⟩ := h
  have hlive : S.ledger.fifoOf p = some f := ProductLedger.get_isSome_iff.mp ⟨c, hc⟩
  have hbound : f ≤ S.ledger.lastSequence := by
    obtain ⟨hget, hf⟩ := get_eq_some.mp hc
    exact hf ▸ (S.ledger.identified p c hget).2.2.1
  exact hrun.invariant (P := Traced p f cap s) (fun _ e hi _ => step_preserves_traced hi e)
    ⟨hbound, .inl hlive, fun _ => howner⟩

structure Names (facts : StationMessageFacts) (p : String) (f : ℕ) (cap : String)
    (s : StationId) : Prop where
  productId : facts.productId = p
  fifoSequence : facts.fifoSequence = f
  captureId : facts.captureId = cap
  station : StationId.ofRaw? facts.stationIdRaw = some s

theorem fatal_iff {p cap : String} {f : ℕ} {s : StationId} {S : Session} (h : Invariant S)
    (ht : Traced p f cap s S) {facts : StationMessageFacts} (hn : Names facts p f cap s)
    (expectsVerdict : Bool) :
    (classifyStationMessage S.ledger facts expectsVerdict).outcome.Fatal ↔
      (p, f) ∈ S.productLog ∧
      (p, f) ∉ OrderedDict.recent ProductLedger.retiredCapacity S.productLog ∧
      cap ∉ OrderedDict.recent (ProductLedger.retiredCapacity * 2) S.captureLog := by
  rw [← h.products, ← h.captures, ← OrderedDict.contains_iff, ← OrderedDict.contains_iff]
  unfold classifyStationMessage
  simp only [hn.station, hn.productId, hn.fifoSequence, hn.captureId]
  cases hc : S.ledger.get p f with
  | none =>
    have hlog : (p, f) ∈ S.productLog :=
      ht.placed.resolve_left (ProductLedger.get_eq_none_iff.mp hc)
    simp only [ProductLedger.isRetiredProduct, ProductLedger.isRetiredCapture, Bool.or_eq_true]
    split
    · rename_i hretired
      simp only [StationMessageOutcome.Fatal, false_iff]
      rintro ⟨-, hp, hk⟩
      exact hretired.elim hp hk
    · rename_i hretired
      rw [not_or] at hretired
      split <;> simpa [StationMessageOutcome.Fatal, hlog] using hretired
  | some c =>
    have hlive : S.ledger.fifoOf p = some f := ProductLedger.get_isSome_iff.mp ⟨c, hc⟩
    have hnot : (p, f) ∉ S.productLog := fun hm => (h.gone p f hm).2 hlive
    have hid : c.productId = p := (S.ledger.identified p c (get_eq_some.mp hc).1).1
    simp only [hid, ht.owned hlive, hnot, false_and, iff_false, ne_eq, not_true_eq_false,
      if_false]
    split_ifs <;> simp [StationMessageOutcome.Fatal]

/-- A terminal registered earlier in the session stops the line exactly when its product is
pruned and both its tombstones have been pushed out. -/
theorem replayed_terminal_settles_iff {p cap : String} {f : ℕ} {s : StationId} {S T : Session}
    (hreach : Reachable S) (hreg : Registered S p f cap s) (hrun : Run S T)
    {facts : StationMessageFacts} (hn : Names facts p f cap s) (expectsVerdict : Bool) :
    ¬ (classifyStationMessage T.ledger facts expectsVerdict).outcome.Fatal ↔
      (p, f) ∉ T.productLog ∨
      (p, f) ∈ OrderedDict.recent ProductLedger.retiredCapacity T.productLog ∨
      cap ∈ OrderedDict.recent (ProductLedger.retiredCapacity * 2) T.captureLog := by
  rw [fatal_iff (reachable_invariant (hreach.trans hrun)) (registered_traced hreg hrun) hn,
    not_and_or, not_and_or, not_not, not_not]

theorem run_of_trace (S : Session) (es : List Step) : Run S (runTrace next S es) := by
  induction es generalizing S with
  | nil => exact .refl S
  | cons e es ih => exact (Execution.single trivial).trans (ih (next S e))

/-- A product captured once and pruned: its terminal is about an expired product. -/
theorem pruned_terminal_settles :
    let S := runTrace next initial
      [.register "product-1" 1, .registerCapture "capture-1" "product-1" .a]
    let T := runTrace next S [.clearActive 1, .pruneRemoved 1]
    let facts : StationMessageFacts := {
      productId := "product-1", fifoSequence := 1, stationIdRaw := 1, captureId := "capture-1",
      frameBatchId := "batch-1", inferenceJobId := "job-1", resultRevision := 1,
      verdictRaw := some 1, score := some 1 }
    ¬ (classifyStationMessage T.ledger facts true).outcome.Fatal ∧
      ("product-1", 1) ∈ T.productLog := by
  refine ⟨?_, by decide +kernel⟩
  refine (replayed_terminal_settles_iff (p := "product-1") (f := 1) (s := .a)
    (run_of_trace initial _) ?_ (run_of_trace _ _) ⟨rfl, rfl, rfl, rfl⟩ true).mpr ?_
  · exact ⟨Option.isSome_iff_exists.mp (by decide +kernel), by decide +kernel⟩
  · exact .inr (.inl (by decide +kernel))

/-- Distinct identifiers: the number of repeated letters tells them apart. -/
def letters (letter : Char) (i : ℕ) : String := String.ofList (List.replicate (i + 1) letter)

theorem letters_injective {c d : Char} {i j : ℕ} (h : letters c i = letters d j) :
    c = d ∧ i = j := by
  have hlist : List.replicate (i + 1) c = List.replicate (j + 1) d := String.ofList_injective h
  have hlen := congrArg List.length hlist
  simp only [List.length_replicate, Nat.add_right_cancel_iff] at hlen
  subst hlen
  exact ⟨List.replicate_right_injective (by omega) hlist, rfl⟩

theorem letters_ne_empty (c : Char) (i : ℕ) : letters c i ≠ "" := by
  intro h
  have : List.replicate (i + 1) c = [] := String.ofList_injective h
  cases this

/-- One product captured at both stations, taken off the line and pruned. -/
def shortLife (i : ℕ) : List Step := [
  .register (letters 'p' i) (i + 1),
  .registerCapture (letters 'a' i) (letters 'p' i) .a,
  .registerCapture (letters 'b' i) (letters 'p' i) .b,
  .clearActive 1,
  .pruneRemoved 1]

structure Idle (n : ℕ) (S : Session) : Prop where
  byId : S.ledger.byId = .empty
  idBySequence : S.ledger.idBySequence = .empty
  captureOwners : S.ledger.captureOwners = .empty
  active : S.ledger.active = []
  lastSequence : S.ledger.lastSequence = n
  retired : S.retired = (List.range n).map fun i =>
    ⟨(letters 'p' i, i + 1), [letters 'a' i, letters 'b' i]⟩

theorem register_new {L : ProductLedger} {p : String} {f : ℕ} (hp : p ≠ "")
    (habsent : L.byId.get? p = none) (hidx : L.idBySequence.get? f = none)
    (hfifo : L.lastSequence < f) :
    (L.register p f).2 = L.enqueue p f habsent hfifo := by
  unfold ProductLedger.register
  rw [if_neg (by rintro (h | h); exacts [hp h, by omega])]
  split
  · simp_all
  · rw [if_neg (by simp [OrderedDict.contains, hidx]), dif_neg (by omega)]

theorem register_capture_new {L : ProductLedger} {k p : String} {s : StationId}
    (h : L.captureOwners.get? k = none) :
    (L.registerCapture k p s).2 = { L with captureOwners := L.captureOwners.insert k (p, s) } := by
  unfold ProductLedger.registerCapture
  split
  · simp_all
  · rfl

theorem register_two_captures {L : ProductLedger} {a b p : String} {s t : StationId}
    (h : L.captureOwners = .empty) (hab : b ≠ a) :
    ((L.registerCapture a p s).2.registerCapture b p t).2 =
      { L with captureOwners := (L.captureOwners.insert a (p, s)).insert b (p, t) } := by
  have hfirst : (L.registerCapture a p s).2 =
      { L with captureOwners := L.captureOwners.insert a (p, s) } :=
    register_capture_new (by simp [h])
  rw [hfirst, register_capture_new (by simp [h, OrderedDict.get?_insert, hab])]

structure Single (n : ℕ) (c : ProductContext) (L : ProductLedger) : Prop where
  byId : L.byId.entries = [(letters 'p' n, c)]
  idBySequence : L.idBySequence.entries = [(n + 1, letters 'p' n)]
  captureOwners : L.captureOwners.entries =
    [(letters 'a' n, letters 'p' n, .a), (letters 'b' n, letters 'p' n, .b)]
  lastSequence : L.lastSequence = n + 1

def startLedger (L : ProductLedger) (n : ℕ) : ProductLedger :=
  (((L.register (letters 'p' n) (n + 1)).2.registerCapture (letters 'a' n)
    (letters 'p' n) .a).2.registerCapture (letters 'b' n) (letters 'p' n) .b).2

def started (n : ℕ) : ProductContext := { productId := letters 'p' n, fifoSequence := n + 1 }

theorem short_life_started {n : ℕ} {L : ProductLedger} (hbyId : L.byId = .empty)
    (hidx : L.idBySequence = .empty) (howners : L.captureOwners = .empty) (hactive : L.active = [])
    (hlast : L.lastSequence = n) :
    Single n (started n) (startLedger L n) ∧ (startLedger L n).active = [letters 'p' n] := by
  have hab : letters 'b' n ≠ letters 'a' n := by
    intro h
    exact absurd (letters_injective h).1 (by decide)
  have hnew := register_new (letters_ne_empty 'p' n) (by simp [hbyId]) (by simp [hidx])
    (show L.lastSequence < n + 1 by omega)
  rw [startLedger, hnew, register_two_captures (by simp [ProductLedger.enqueue, howners]) hab]
  refine ⟨⟨?_, ?_, ?_, rfl⟩, ?_⟩
  · simp [ProductLedger.enqueue, hbyId, OrderedDict.insert, OrderedDict.append, OrderedDict.keys,
      started]
  · simp [ProductLedger.enqueue, hidx, OrderedDict.insert, OrderedDict.append, OrderedDict.keys]
  · simp [ProductLedger.enqueue, howners, OrderedDict.insert, OrderedDict.append, OrderedDict.keys,
      hab]
  · simp [ProductLedger.enqueue, hactive]

theorem clear_single {n : ℕ} {c : ProductContext} {L : ProductLedger} (h : Single n c L)
    (hactive : L.active = [letters 'p' n]) :
    Single n (ProductLedger.markRemoved 1 c) (L.clearActive 1).2 ∧
      (L.clearActive 1).2.active = [] := by
  refine ⟨⟨?_, h.idBySequence, h.captureOwners, h.lastSequence⟩, rfl⟩
  simp [ProductLedger.clearActive, ProductLedger.deactivate, hactive, OrderedDict.modify, h.byId]

theorem prune_single {n : ℕ} {c : ProductContext} {L : ProductLedger} (h : Single n c L)
    (hfifo : c.fifoSequence = n + 1) (hx : ProductLedger.expired 1 c = true) :
    (L.pruneRemoved 1).2.byId = .empty ∧ (L.pruneRemoved 1).2.idBySequence = .empty ∧
      (L.pruneRemoved 1).2.captureOwners = .empty ∧
      (L.pruneRemoved 1).2.active = L.active ∧
      (L.pruneRemoved 1).2.lastSequence = n + 1 ∧
      L.retirements 1 = [⟨(letters 'p' n, n + 1), [letters 'a' n, letters 'b' n]⟩] := by
  have hget : L.byId.get? (letters 'p' n) = some c := by
    rw [OrderedDict.get?_eq_some, h.byId, List.mem_singleton]
  have hkeys : L.byId.keys = [letters 'p' n] := by simp [OrderedDict.keys, h.byId]
  have hid : c.productId = letters 'p' n := (L.identified _ _ hget).1
  have hcaptures : L.capturesOf (letters 'p' n) = [letters 'a' n, letters 'b' n] := by
    simp [ProductLedger.capturesOf, h.captureOwners]
  have hprune : (L.pruneRemoved 1).2 =
      L.retire (letters 'p' n) c hget (ProductLedger.removed_of_expired hx) := by
    simp only [ProductLedger.pruneRemoved, hkeys, List.foldl_cons, List.foldl_nil]
    exact ProductLedger.prune_one_expired [] hget hx
  rw [hprune]
  refine ⟨?_, ?_, ?_, rfl, h.lastSequence, ?_⟩
  · ext1
    simp [ProductLedger.retire, ProductLedger.trimRetired, OrderedDict.erase, h.byId]
  · ext1
    simp [ProductLedger.retire, ProductLedger.trimRetired, OrderedDict.erase, h.idBySequence, hfifo]
  · ext1
    simp [ProductLedger.retire, ProductLedger.trimRetired, OrderedDict.erase, hid, hcaptures,
      h.captureOwners]
  · simp [ProductLedger.retirements, ProductLedger.retirementsFrom, hkeys, hget, hx, hfifo,
      hcaptures]

theorem short_life_run (S : Session) (n : ℕ) :
    runTrace next S (shortLife n) = ⟨(((startLedger S.ledger n).clearActive 1).2.pruneRemoved 1).2,
      S.retired ++ ((startLedger S.ledger n).clearActive 1).2.retirements 1⟩ := by
  simp only [shortLife, runTrace, next, startLedger]

theorem short_life_idle {n : ℕ} {S : Session} (h : Idle n S) :
    Idle (n + 1) (runTrace next S (shortLife n)) := by
  obtain ⟨hsingle, hactive⟩ :=
    short_life_started h.byId h.idBySequence h.captureOwners h.active h.lastSequence
  obtain ⟨hcleared, hempty⟩ := clear_single hsingle hactive
  have hx : ProductLedger.expired 1 (ProductLedger.markRemoved 1 (started n)) = true := by
    simp [ProductLedger.expired, ProductLedger.markRemoved, ProductContext.touch]
  obtain ⟨hbyId, hidx, howners, hact, hlast, hret⟩ := prune_single hcleared rfl hx
  rw [short_life_run, hret]
  generalize (((startLedger S.ledger n).clearActive 1).2.pruneRemoved 1).2 = M at *
  refine ⟨hbyId, hidx, howners, hact.trans hempty, hlast, ?_⟩
  simp only
  rw [h.retired, List.range_succ, List.map_append, List.map_singleton]

theorem long_session_idle (n : ℕ) :
    Idle n (runTrace next initial ((List.range n).flatMap shortLife)) := by
  induction n with
  | zero => exact ⟨rfl, rfl, rfl, rfl, rfl, rfl⟩
  | succ n ih =>
    rw [List.range_succ, List.flatMap_append, run_trace_append, List.flatMap_singleton]
    exact short_life_idle ih

theorem long_session_products (n : ℕ) :
    (runTrace next initial ((List.range n).flatMap shortLife)).productLog =
      (List.range n).map fun i => (letters 'p' i, i + 1) := by
  rw [productLog, (long_session_idle n).retired, List.map_map]
  rfl

theorem long_session_captures (n : ℕ) :
    (runTrace next initial ((List.range n).flatMap shortLife)).captureLog =
      (List.range n).flatMap fun i => [letters 'a' i, letters 'b' i] := by
  rw [captureLog, (long_session_idle n).retired, List.flatMap_map]

theorem captures_nodup (n : ℕ) :
    ((List.range n).flatMap fun i => [letters 'a' i, letters 'b' i]).Nodup := by
  refine List.nodup_flatMap.mpr ⟨?_, ?_⟩
  · intro i _
    simp only [List.nodup_cons, List.mem_singleton, List.not_mem_nil, not_false_eq_true,
      List.nodup_nil, and_true]
    intro h
    exact absurd (letters_injective h).1 (by decide)
  · refine List.nodup_range.imp fun {i j} hne => ?_
    simp only [Function.onFun, List.Disjoint, List.mem_cons, List.not_mem_nil, or_false]
    rintro k (rfl | rfl) (h | h) <;> exact hne (letters_injective h).2

/-- Once 4096 further products have been pruned, the first one is taken for unknown. -/
theorem long_session_fatal {n : ℕ} (hn : ProductLedger.retiredCapacity ≤ n) :
    ∃ S T, Reachable S ∧ Registered S (letters 'p' 0) 1 (letters 'a' 0) .a ∧ Run S T ∧
      T = runTrace next initial ((List.range (n + 1)).flatMap shortLife) ∧
      ∀ facts, Names facts (letters 'p' 0) 1 (letters 'a' 0) .a → ∀ expectsVerdict,
        (classifyStationMessage T.ledger facts expectsVerdict).outcome.Fatal := by
  let first : List Step := [.register (letters 'p' 0) 1,
    .registerCapture (letters 'a' 0) (letters 'p' 0) .a]
  let rest : List Step := [.registerCapture (letters 'b' 0) (letters 'p' 0) .b, .clearActive 1,
    .pruneRemoved 1] ++ ((List.range n).map Nat.succ).flatMap shortLife
  have hall : (List.range (n + 1)).flatMap shortLife = first ++ rest := by
    rw [List.range_succ_eq_map]
    rfl
  have hrun : Run (runTrace next initial first)
      (runTrace next initial ((List.range (n + 1)).flatMap shortLife)) := by
    rw [hall, run_trace_append]
    exact run_of_trace _ rest
  have hreach : Reachable (runTrace next initial first) := run_of_trace initial first
  have hreg : Registered (runTrace next initial first) (letters 'p' 0) 1 (letters 'a' 0) .a :=
    ⟨Option.isSome_iff_exists.mp (by decide +kernel), by decide +kernel⟩
  have hproducts := long_session_products (n + 1)
  have hcaptures := long_session_captures (n + 1)
  have hnodup := captures_nodup (n + 1)
  generalize hT : runTrace next initial ((List.range (n + 1)).flatMap shortLife) = T at *
  have hinv : Invariant T := reachable_invariant (hreach.trans hrun)
  refine ⟨_, T, hreach, hreg, hrun, rfl, fun facts hnames expectsVerdict => ?_⟩
  rw [fatal_iff hinv (registered_traced hreg hrun) hnames]
  rw [← hcaptures] at hnodup
  rw [List.range_succ_eq_map, List.map_cons] at hproducts
  rw [List.range_succ_eq_map, List.flatMap_cons] at hcaptures
  refine ⟨?_, ?_, ?_⟩
  · rw [hproducts]
    exact List.mem_cons_self ..
  · refine OrderedDict.not_mem_recent (hproducts.trans (List.singleton_append).symm) hinv.nodup ?_
      (List.mem_singleton_self _)
    simpa using hn
  · refine OrderedDict.not_mem_recent hcaptures hnodup ?_ (List.mem_cons_self ..)
    simp only [List.length_flatMap, List.length_cons, List.length_nil, List.map_const',
      List.length_map, List.length_range, List.sum_replicate_nat]
    omega

/-- In a session of 4097 products, all pruned, the replayed result of the first one stops the
line. -/
theorem long_session_replay_is_fatal :
    ¬ ∀ (S T : Session) (p cap : String) (f : ℕ) (s : StationId), Reachable S →
      Registered S p f cap s → Run S T → ∀ facts, Names facts p f cap s → ∀ expectsVerdict,
      ¬ (classifyStationMessage T.ledger facts expectsVerdict).outcome.Fatal := by
  intro h
  obtain ⟨S, T, hreach, hreg, hrun, -, hfatal⟩ :=
    long_session_fatal (le_refl ProductLedger.retiredCapacity)
  let facts : StationMessageFacts := {
    productId := letters 'p' 0, fifoSequence := 1, stationIdRaw := 1, captureId := letters 'a' 0,
    frameBatchId := "batch", inferenceJobId := "job", resultRevision := 1,
    verdictRaw := some 1, score := some 1 }
  have hnames : Names facts (letters 'p' 0) 1 (letters 'a' 0) .a := ⟨rfl, rfl, rfl, rfl⟩
  exact h S T _ _ _ _ hreach hreg hrun facts hnames true (hfatal facts hnames true)

end Session

end InspectionLine
