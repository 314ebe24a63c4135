import InspectionLine.LogRepository
import InspectionLine.RankedRows

/-! # The report of a session

One row a locked product, with the terminal of either station that counts: the one of the
highest revision, a failure before a result. -/
namespace InspectionLine

open OffsetPaging RankedRows

abbrev ProductTerminalEntry := (String × String) × ProductTerminalRow

/-- `ORDER BY revision DESC, CASE terminal_kind WHEN 'FAILURE' THEN 0 ELSE 1 END`. -/
def TerminalEntry.rankOrder {F : Type} (entry : TerminalEntry F) : ℤᵒᵈ ×ₗ ℕ :=
  toLex (OrderDual.toDual entry.1.revision, if entry.1.terminalKind = .failure then 0 else 1)

def TerminalEntry.partition {F : Type} (entry : TerminalEntry F) : String × String × ℤ :=
  (entry.1.sessionId, entry.2.productId, entry.2.stationId)

structure StationColumns (F : Type) where
  terminalKind : Option TerminalKind := none
  verdict : Option ℤ := none
  errorCode : Option ℤ := none
  modelForwardMs : Option F := none
  enqueueToResultMs : Option F := none

structure SessionReportRow (F : Type) where
  fifoSequence : ℤ
  productId : String
  finalVerdict : String
  reason : String
  stationA : StationColumns F
  stationB : StationColumns F
  productTotalMs : Option F

namespace StationColumns

variable {F : Type}

def ofTerminal (entry : TerminalEntry F) : StationColumns F where
  terminalKind := some entry.1.terminalKind
  verdict := entry.2.verdict
  errorCode := entry.2.errorCode
  modelForwardMs := entry.2.modelForwardMs
  enqueueToResultMs := entry.2.enqueueToResultMs

def ofJoined (terminal : Option (TerminalEntry F)) : StationColumns F :=
  (terminal.map ofTerminal).getD {}

end StationColumns

abbrev ReportJoin (F : Type) :=
  (ProductTerminalEntry × Option (TerminalEntry F × ℕ)) × Option (TerminalEntry F × ℕ)

namespace LogTables

variable {F : Type}

/-- The common table expression `ranked`. -/
def ranked (t : LogTables F) (ties : TerminalEntry F → TerminalEntry F → Bool)
    (sessionId : String) : List (TerminalEntry F × ℕ) :=
  rowNumbers TerminalEntry.partition (keyBefore TerminalEntry.rankOrder ties)
    (t.visionStationTerminals.entries.filter fun entry => entry.1.sessionId = sessionId)

def onStation (stationId : ℤ) (product : ProductTerminalEntry) (r : TerminalEntry F × ℕ) : Bool :=
  decide (r.1.partition = (product.1.1, product.1.2, stationId)) && decide (r.2 = 1)

/-- `milliseconds b a` is `(b - a) / 1000000.0`. -/
def productTotalMs (milliseconds : ℤ → ℤ → F) (a b : Option (TerminalEntry F)) : Option F := do
  let captured ← (← a).2.captureCompletedMonotonicNs
  let completed ← (b.bind (·.2.completedMonotonicNs)).or (a.bind (·.2.completedMonotonicNs))
  return milliseconds completed captured

def reportRow (milliseconds : ℤ → ℤ → F) (joined : ReportJoin F) : SessionReportRow F :=
  let product := joined.1.1
  let a := joined.1.2.map (·.1)
  let b := joined.2.map (·.1)
  { fifoSequence := product.2.fifoSequence
    productId := product.1.2
    finalVerdict := product.2.finalVerdict
    reason := product.2.reason
    stationA := .ofJoined a
    stationB := .ofJoined b
    productTotalMs := productTotalMs milliseconds a b }

def reportJoins (t : LogTables F) (ties : TerminalEntry F → TerminalEntry F → Bool)
    (sessionId : String) : List (ReportJoin F) :=
  let ranked := t.ranked ties sessionId
  let withA := leftJoin (onStation 1) t.productTerminalResults.entries ranked
  let withB := leftJoin (fun row r => onStation 2 row.1 r) withA ranked
  withB.filter fun joined => joined.1.1.1.1 = sessionId

/-- The query leaves open how terminals of one rank order and how products of one sequence
number are arranged: `ties` and `rowTies` do. -/
def sessionReportRows (t : LogTables F) (ties : TerminalEntry F → TerminalEntry F → Bool)
    (rowTies : ReportJoin F → ReportJoin F → Bool) (milliseconds : ℤ → ℤ → F)
    (sessionId : String) : List (SessionReportRow F) :=
  (orderBy (keyBefore (fun joined => joined.1.1.2.fifoSequence) rowTies)
    (t.reportJoins ties sessionId)).map (reportRow milliseconds)

/-! ### The terminal that counts -/

def IsTerminalOf (sessionId productId : String) (stationId : ℤ) (entry : TerminalEntry F) : Prop :=
  entry.1.sessionId = sessionId ∧ entry.2.productId = productId ∧ entry.2.stationId = stationId

/-- The other has a lower revision, or the same one and is no failure against a result. -/
def Outranks (entry other : TerminalEntry F) : Prop :=
  other.1.revision < entry.1.revision ∨
    other.1.revision = entry.1.revision ∧
      (other.1.terminalKind = .failure → entry.1.terminalKind = .failure)

theorem outranks_of_le {entry other : TerminalEntry F} (h : entry.rankOrder ≤ other.rankOrder) :
    Outranks entry other := by
  rcases Prod.Lex.toLex_le_toLex.mp h with hlt | ⟨heq, hkind⟩
  · exact .inl (OrderDual.toDual_lt_toDual.mp hlt)
  · refine .inr ⟨(OrderDual.toDual.injective heq).symm, fun hother => ?_⟩
    by_contra hentry
    simp only [hother, hentry, if_true, if_false] at hkind
    omega

def leader (t : LogTables F) (ties : TerminalEntry F → TerminalEntry F → Bool)
    (sessionId : String) (partition : String × String × ℤ) : Option (TerminalEntry F) :=
  (orderBy (keyBefore TerminalEntry.rankOrder ties)
    (t.visionStationTerminals.entries.filter fun entry => entry.1.sessionId = sessionId)).find?
      fun entry => entry.partition = partition

theorem partition_eq_iff {sessionId productId : String} {stationId : ℤ} {entry : TerminalEntry F} :
    entry.partition = (sessionId, productId, stationId) ↔
      IsTerminalOf sessionId productId stationId entry := by
  simp only [TerminalEntry.partition, Prod.mk.injEq, IsTerminalOf]

theorem mem_window {t : LogTables F} {ties : TerminalEntry F → TerminalEntry F → Bool}
    {sessionId : String} {entry : TerminalEntry F} :
    entry ∈ orderBy (keyBefore TerminalEntry.rankOrder ties)
        (t.visionStationTerminals.entries.filter fun entry => entry.1.sessionId = sessionId) ↔
      entry ∈ t.visionStationTerminals.entries ∧ entry.1.sessionId = sessionId := by
  rw [(order_by_perm _ _).mem_iff, List.mem_filter, decide_eq_true_eq]

theorem leader_eq_none_iff (t : LogTables F) (ties : TerminalEntry F → TerminalEntry F → Bool)
    (sessionId productId : String) (stationId : ℤ) :
    t.leader ties sessionId (sessionId, productId, stationId) = none ↔
      ∀ entry ∈ t.visionStationTerminals.entries,
        ¬ IsTerminalOf sessionId productId stationId entry := by
  rw [leader, List.find?_eq_none]
  constructor
  · intro h entry hentry hof
    exact h entry (mem_window.mpr ⟨hentry, hof.1⟩) (decide_eq_true (partition_eq_iff.mpr hof))
  · intro h entry hentry hpart
    exact h entry (mem_window.mp hentry).1 (partition_eq_iff.mp (of_decide_eq_true hpart))

theorem leader_spec {t : LogTables F} {ties : TerminalEntry F → TerminalEntry F → Bool}
    {sessionId productId : String} {stationId : ℤ} {entry : TerminalEntry F}
    (h : t.leader ties sessionId (sessionId, productId, stationId) = some entry) :
    entry ∈ t.visionStationTerminals.entries ∧ IsTerminalOf sessionId productId stationId entry ∧
      ∀ other ∈ t.visionStationTerminals.entries,
        IsTerminalOf sessionId productId stationId other → Outranks entry other := by
  rw [leader] at h
  have hmem := (mem_window.mp (List.mem_of_find?_eq_some h)).1
  have hpart := List.find?_some h
  rw [decide_eq_true_eq] at hpart
  refine ⟨hmem, partition_eq_iff.mp hpart, fun other hother hof => outranks_of_le ?_⟩
  exact find_least (order_by_pairwise TerminalEntry.rankOrder ties _) h
    (mem_window.mpr ⟨hother, hof.1⟩) (decide_eq_true (partition_eq_iff.mpr hof))

/-! ### The joins keep every product once -/

def pick (t : LogTables F) (ties : TerminalEntry F → TerminalEntry F → Bool) (sessionId : String)
    (stationId : ℤ) (product : ProductTerminalEntry) : Option (TerminalEntry F × ℕ) :=
  (t.leader ties sessionId (product.1.1, product.1.2, stationId)).map (·, 1)

theorem ranked_filter (t : LogTables F) (ties : TerminalEntry F → TerminalEntry F → Bool)
    (sessionId : String) (stationId : ℤ) (product : ProductTerminalEntry) :
    (t.ranked ties sessionId).filter (onStation stationId product) =
      (t.pick ties sessionId stationId product).toList := by
  unfold ranked onStation pick leader
  rw [filter_first, Option.toList_map]

theorem report_joins_eq (t : LogTables F) (ties : TerminalEntry F → TerminalEntry F → Bool)
    (sessionId : String) :
    t.reportJoins ties sessionId =
      (t.productTerminalResults.entries.filter fun product => product.1.1 = sessionId).map
        fun product => ((product, t.pick ties sessionId 1 product),
          t.pick ties sessionId 2 product) := by
  have hA := left_join_eq_map (fun product => t.ranked_filter ties sessionId 1 product)
    t.productTerminalResults.entries
  have hB := left_join_eq_map
    (fun row : ProductTerminalEntry × Option (TerminalEntry F × ℕ) =>
      t.ranked_filter ties sessionId 2 row.1)
    (t.productTerminalResults.entries.map fun product =>
      (product, t.pick ties sessionId 1 product))
  unfold reportJoins
  dsimp only
  rw [hA, hB, List.map_map, List.filter_map]
  rfl

/-! ### The report -/

structure ColumnsOf (t : LogTables F) (sessionId productId : String) (stationId : ℤ)
    (columns : StationColumns F) : Prop where
  empty_iff : columns = {} ↔ ∀ entry ∈ t.visionStationTerminals.entries,
    ¬ IsTerminalOf sessionId productId stationId entry
  taken : columns ≠ {} → ∃ entry ∈ t.visionStationTerminals.entries,
    IsTerminalOf sessionId productId stationId entry ∧ columns = .ofTerminal entry ∧
      ∀ other ∈ t.visionStationTerminals.entries,
        IsTerminalOf sessionId productId stationId other → Outranks entry other

theorem columns_of_leader (t : LogTables F) (ties : TerminalEntry F → TerminalEntry F → Bool)
    (sessionId productId : String) (stationId : ℤ) :
    ColumnsOf t sessionId productId stationId
      (.ofJoined (t.leader ties sessionId (sessionId, productId, stationId))) := by
  have hnone := t.leader_eq_none_iff ties sessionId productId stationId
  cases hleader : t.leader ties sessionId (sessionId, productId, stationId) with
  | none =>
    refine ⟨?_, fun h => absurd rfl h⟩
    rw [hleader] at hnone
    exact ⟨fun _ => hnone.mp rfl, fun _ => rfl⟩
  | some entry =>
    rw [hleader] at hnone
    obtain ⟨hmem, hof, hbest⟩ := leader_spec hleader
    refine ⟨⟨fun h => ?_, fun h => absurd hof (h entry hmem)⟩,
      fun _ => ⟨entry, hmem, hof, rfl, hbest⟩⟩
    cases congrArg StationColumns.terminalKind h

def lockedColumns (product : ProductTerminalEntry) : ℤ × String × String × String :=
  (product.2.fifoSequence, product.1.2, product.2.finalVerdict, product.2.reason)

def lockedProducts (t : LogTables F) (sessionId : String) : List ProductTerminalEntry :=
  t.productTerminalResults.entries.filter fun product => product.1.1 = sessionId

theorem report_rows_perm (t : LogTables F) (ties : TerminalEntry F → TerminalEntry F → Bool)
    (rowTies : ReportJoin F → ReportJoin F → Bool) (milliseconds : ℤ → ℤ → F)
    (sessionId : String) :
    (t.sessionReportRows ties rowTies milliseconds sessionId).Perm
      ((t.lockedProducts sessionId).map fun product =>
        reportRow milliseconds ((product, t.pick ties sessionId 1 product),
          t.pick ties sessionId 2 product)) := by
  refine ((order_by_perm _ (t.reportJoins ties sessionId)).map (reportRow milliseconds)).trans ?_
  rw [report_joins_eq, List.map_map]
  exact .refl _

theorem locked_product_ids_nodup (t : LogTables F) (sessionId : String) :
    ((t.lockedProducts sessionId).map fun product => product.1.2).Nodup := by
  have hkeys : ((t.lockedProducts sessionId).map Prod.fst).Nodup :=
    t.productTerminalResults.nodup.sublist (List.filter_sublist.map _)
  have hids : (t.lockedProducts sessionId).map (fun product => product.1.2) =
      ((t.lockedProducts sessionId).map Prod.fst).map Prod.snd := by
    rw [List.map_map]
    rfl
  rw [hids]
  refine List.Nodup.map_on ?_ hkeys
  intro k hk l hl heq
  obtain ⟨p, hp, rfl⟩ := List.mem_map.mp hk
  obtain ⟨q, hq, rfl⟩ := List.mem_map.mp hl
  have hsame : ∀ product ∈ t.lockedProducts sessionId, product.1.1 = sessionId :=
    fun product h => of_decide_eq_true (List.mem_filter.mp h).2
  exact Prod.ext ((hsame p hp).trans (hsame q hq).symm) heq

/-- What the report of a session reads of the tables. -/
theorem report_of_session {t u : LogTables F} {sessionId : String}
    (hproducts : t.lockedProducts sessionId = u.lockedProducts sessionId)
    (hterminals : (t.visionStationTerminals.entries.filter fun e => e.1.sessionId = sessionId) =
      u.visionStationTerminals.entries.filter fun e => e.1.sessionId = sessionId)
    (ties : TerminalEntry F → TerminalEntry F → Bool)
    (rowTies : ReportJoin F → ReportJoin F → Bool) (milliseconds : ℤ → ℤ → F) :
    t.sessionReportRows ties rowTies milliseconds sessionId =
      u.sessionReportRows ties rowTies milliseconds sessionId := by
  have hpick : ∀ stationId product,
      t.pick ties sessionId stationId product = u.pick ties sessionId stationId product := by
    intro stationId product
    unfold pick leader
    rw [hterminals]
  have hjoins : t.reportJoins ties sessionId = u.reportJoins ties sessionId := by
    rw [report_joins_eq, report_joins_eq]
    change (t.lockedProducts sessionId).map _ = (u.lockedProducts sessionId).map _
    rw [hproducts]
    exact List.map_congr_left fun product _ => by rw [hpick, hpick]
  unfold sessionReportRows
  rw [hjoins]

/-- One row each locked product, in the order of their sequence numbers, each station with the
terminal that counts; and nothing in them is from another session. -/
theorem session_report_complete (t : LogTables F)
    (ties : TerminalEntry F → TerminalEntry F → Bool)
    (rowTies : ReportJoin F → ReportJoin F → Bool) (milliseconds : ℤ → ℤ → F)
    (sessionId : String) :
    let rows := t.sessionReportRows ties rowTies milliseconds sessionId
    (rows.map fun row => (row.fifoSequence, row.productId, row.finalVerdict, row.reason)).Perm
        ((t.lockedProducts sessionId).map lockedColumns) ∧
      (rows.map (·.productId)).Nodup ∧
      rows.Pairwise (fun row later => row.fifoSequence ≤ later.fifoSequence) ∧
      (∀ row ∈ rows, ColumnsOf t sessionId row.productId 1 row.stationA ∧
        ColumnsOf t sessionId row.productId 2 row.stationB) ∧
      ∀ u : LogTables F, u.lockedProducts sessionId = t.lockedProducts sessionId →
        ((u.visionStationTerminals.entries.filter fun e => e.1.sessionId = sessionId) =
          t.visionStationTerminals.entries.filter fun e => e.1.sessionId = sessionId) →
        u.sessionReportRows ties rowTies milliseconds sessionId = rows := by
  have hperm := t.report_rows_perm ties rowTies milliseconds sessionId
  refine ⟨?_, ?_, ?_, ?_, fun u hproducts hterminals =>
    report_of_session hproducts hterminals ties rowTies milliseconds⟩
  · have h := hperm.map fun row =>
      (row.fifoSequence, row.productId, row.finalVerdict, row.reason)
    rw [List.map_map] at h
    exact h
  · have h := hperm.map fun row => row.productId
    rw [List.map_map] at h
    exact h.nodup_iff.mpr (t.locked_product_ids_nodup sessionId)
  · exact List.pairwise_map.mpr (order_by_pairwise _ rowTies _)
  · intro row hrow
    obtain ⟨product, hproduct, rfl⟩ := List.mem_map.mp (hperm.mem_iff.mp hrow)
    have hsession : product.1.1 = sessionId := of_decide_eq_true (List.mem_filter.mp hproduct).2
    have hpicked : ∀ stationId, (t.pick ties sessionId stationId product).map (·.1) =
        t.leader ties sessionId (sessionId, product.1.2, stationId) := by
      intro stationId
      unfold pick
      rw [hsession, Option.map_map]
      exact Option.map_id_fun'.symm ▸ rfl
    have hA := t.columns_of_leader ties sessionId product.1.2 1
    have hB := t.columns_of_leader ties sessionId product.1.2 2
    rw [← hpicked] at hA hB
    exact ⟨hA, hB⟩

end LogTables

end InspectionLine
