import InspectionLine.OperationRuntime
import InspectionLine.MasterConfig

/-! # How work moves the line

The steps are the updates the handlers make to the products, to the cycles and to what they
put off. A step may leave a debt that the same handler pays by a later step. -/
namespace InspectionLine

abbrev Scope := String × StationId

/-- The products, the active FIFO, the cycles of the stations and the actuator, and the starts
and resumes that are put off. -/
structure PhysicalLine where
  ledger : ProductLedger := .initial
  stationCycles : StationCycles := {}
  actuationCycles : OrderedDict String ActuationCycle := .empty
  deferredStationStarts : List Scope := []
  deferredCaptureResumes : List Scope := []

/-- What a handler still owes before it returns: a station start for a product that has just
arrived, a resume after a capture, an actuation for a locked product, a new deadline for a
cycle that has expired, a Station B skip for a product found bad, and the end of a queue pause. -/
structure Debt where
  unplaced : List Scope := []
  unresumed : List StationId := []
  unscheduled : List String := []
  expiring : List StationId := []
  unskipped : List String := []
  blocked : Bool := false

/-- A larger debt to the line promises less. A resume that is owed says where the product
stands, so it cannot be made up. -/
structure Debt.LineWithin (d e : Debt) : Prop where
  unplaced : d.unplaced ⊆ e.unplaced
  unresumed : d.unresumed = e.unresumed
  unscheduled : d.unscheduled ⊆ e.unscheduled
  expiring : d.expiring ⊆ e.expiring

structure Debt.Within (d e : Debt) : Prop extends d.LineWithin e where
  unskipped : d.unskipped ⊆ e.unskipped
  blocked : d.blocked = true → e.blocked = true

structure LineWatch where
  line : PhysicalLine
  uuidsIssued : ℕ
  debt : Debt

namespace ProductContext

def stationABad (c : ProductContext) : Bool :=
  (c.station .a).failed || (c.station .a).conflicted ||
    (c.station .a).decision.any fun decision => decision.verdict ≠ .pass

/-- Bad at Station A and not locked yet, and still Station B is not to be skipped. -/
def condemned (c : ProductContext) : Bool :=
  c.locked.isNone && c.stationABad && !c.stationBSkipRequested

/-- What the bookkeeping of the line reads of a product is as before. -/
structure Unmoved (c e : ProductContext) : Prop where
  physicalState : e.physicalState = c.physicalState
  job : e.actuatorJobId = c.actuatorJobId
  skip : e.stationBSkipRequested = c.stationBSkipRequested
  skipped : (e.station .b).processState = .skipped → (c.station .b).processState = .skipped

structure Ended (s : StationId) (c e : ProductContext) : Prop where
  physicalState : e.physicalState = stationDone s
  job : e.actuatorJobId = c.actuatorJobId
  skip : e.stationBSkipRequested = true → c.stationBSkipRequested = true ∨ s = .b
  skipped : (e.station .b).processState = .skipped →
    (c.station .b).processState = .skipped ∨ s = .b

end ProductContext

namespace ContextOp

/-- The methods that record something about a product where it is. -/
def quiet : ContextOp → Bool
  | recordSensor .. | beginStationCycle .. | markPositionSettled .. | markCaptureRequested ..
  | applyStationResult .. | recordStationFailure .. | recordStationContractFailure .. => true
  | _ => false

def sorts : ContextOp → Bool
  | markActuationAccepted .. | markActuationCompleted .. => true
  | _ => false

def locks : ContextOp → Bool
  | lockAtSensor3 .. => true
  | _ => false

def applyAll (ops : List ContextOp) (c : ProductContext) : ProductContext :=
  ops.foldl (fun c op => (op.apply c).2) c

end ContextOp

namespace PhysicalLine

def operate (L : PhysicalLine) (p : String) (op : ContextOp) : PhysicalLine :=
  { L with ledger := (L.ledger.operate p op).2 }

def operateAll (L : PhysicalLine) (p : String) (ops : List ContextOp) : PhysicalLine :=
  ops.foldl (fun L op => L.operate p op) L

def product? (L : PhysicalLine) (p : String) : Option ProductContext := L.ledger.byId.get? p

def InCycle (L : PhysicalLine) (s : StationId) (p : String) : Prop :=
  ∃ cycle, L.stationCycles.get? s = some cycle ∧ cycle.productId = p

/-- The methods leave no product of the line condemned that was not condemned before. -/
def Spares (L : PhysicalLine) (config : MasterConfig) (excused : Prop) (p : String)
    (ops : List ContextOp) : Prop :=
  config.skipStationBAfterStationANg = true → ∀ c, L.product? p = some c →
    (ContextOp.applyAll ops c).condemned = true → c.condemned = true ∨ excused

end PhysicalLine

def StationCycle.SameProduct (next cycle : StationCycle) : Prop :=
  next.stationId = cycle.stationId ∧ next.productId = cycle.productId ∧
    next.fifoSequence = cycle.fifoSequence

open PhysicalLine ContextOp

/-- One update of the line. `stale` is whether a reply for a finished capture has been taken,
`excused` whether a skip that was due has been left out, and `again` whether a goal has been
accepted for a product that is done. -/
inductive LineStep (config : MasterConfig) (stale excused again : Prop) :
    LineWatch → LineWatch → Prop where
  | revise {L n d} (p : String) (op : ContextOp) (quiet : op.quiet = true)
      (spared : L.Spares config excused p [op]) :
      LineStep config stale excused again ⟨L, n, d⟩ ⟨L.operate p op, n, d⟩
  | condemn {L n d} (p : String) (op : ContextOp) (quiet : op.quiet = true) :
      LineStep config stale excused again ⟨L, n, d⟩
        ⟨L.operate p op, n, { d with unskipped := p :: d.unskipped }⟩
  | requestSkip {L n d} (p reason : String)
      (fits : ∀ cycle, L.stationCycles.get? .b = some cycle → cycle.productId = p →
        cycle.phase = .resumePending ∨
          ∃ c, L.product? p = some c ∧ (c.station .b).processState = .skipped) :
      LineStep config stale excused again ⟨L, n, d⟩
        ⟨L.operate p (.requestStationBSkip reason), n, d⟩
  | endCapture {L n d} {s : StationId} {p : String} {cycle : StationCycle} (ops : List ContextOp)
      (unskipped : List String) (cycleAt : L.stationCycles.get? s = some cycle)
      (product : cycle.productId = p)
      (ended : ∀ c, L.product? p = some c → c.Ended s (applyAll ops c))
      (owes : unskipped = d.unskipped ∧ L.Spares config excused p ops ∨
        unskipped = p :: d.unskipped) :
      LineStep config stale excused again ⟨L, n, d⟩
        ⟨L.operateAll p ops, n, { d with unresumed := s :: d.unresumed, unskipped }⟩
  | pend {L n d} {s : StationId} {cycle next : StationCycle} (resumes : List Scope)
      (cycleAt : L.stationCycles.get? s = some cycle) (same : next.SameProduct cycle)
      (phase : next.phase = .resumePending)
      (watched : next.deadlineNs ≠ 0 ∨ (next.productId, s) ∈ resumes)
      (kept : L.deferredCaptureResumes ⊆ resumes)
      (due : s ∈ d.unresumed ∨ cycle.phase = .resumePending ∨
        s = .b ∧ ∃ c, L.product? cycle.productId = some c ∧ c.stationBSkipRequested = true) :
      LineStep config stale excused again ⟨L, n, d⟩
        ⟨{ L with stationCycles := L.stationCycles.set next, deferredCaptureResumes := resumes },
          n, d⟩
  | rewatch {L n d} {s : StationId} {cycle next : StationCycle}
      (cycleAt : L.stationCycles.get? s = some cycle) (same : next.SameProduct cycle)
      (phase : next.phase = cycle.phase ∧ next.deadlineNs = cycle.deadlineNs ∨
        next.phase ≠ .resumePending ∧ (cycle.phase ≠ .resumePending ∨ stale) ∧
          (next.deadlineNs = cycle.deadlineNs ∨ next.deadlineNs ≠ 0)) :
      LineStep config stale excused again ⟨L, n, d⟩
        ⟨{ L with stationCycles := L.stationCycles.set next }, n, d⟩
  | expire {L n d} {s : StationId} {cycle : StationCycle}
      (cycleAt : L.stationCycles.get? s = some cycle) :
      LineStep config stale excused again ⟨L, n, d⟩
        ⟨{ L with stationCycles := L.stationCycles.set { cycle with deadlineNs := 0 } }, n,
          { d with expiring := s :: d.expiring }⟩
  | deferResume {L n d} (scope : Scope) :
      LineStep config stale excused again ⟨L, n, d⟩
        ⟨{ L with deferredCaptureResumes := L.deferredCaptureResumes.insert scope }, n, d⟩
  | resume {L n d} {s : StationId} {p : String} {cycle : StationCycle} {reply : Reply}
      (cycleAt : L.stationCycles.get? s = some cycle) (product : cycle.productId = p)
      (pending : cycle.phase = .resumePending) (paid : s ∉ d.unresumed)
      (resumed : (L.ledger.operate p (.markConveyorResumedAfterCapture s)).1 = .ok reply) :
      LineStep config stale excused again ⟨L, n, d⟩
        ⟨{ L.operate p (.markConveyorResumedAfterCapture s) with
            stationCycles := L.stationCycles.pop s
            deferredCaptureResumes := L.deferredCaptureResumes.erase (p, s) }, n, d⟩
  | release {L n d} {s : StationId} {p : String} {cycle : StationCycle} {reply : Reply}
      (cycleAt : L.stationCycles.get? s = some cycle) (product : cycle.productId = p)
      (unfinished : cycle.phase ≠ .resumePending ∨ stale) (paid : s ∉ d.unresumed)
      (reset : (L.ledger.operate p (.resetUnfinishedStationCycle s)).1 = .ok reply) :
      LineStep config stale excused again ⟨L, n, d⟩
        ⟨{ L.operate p (.resetUnfinishedStationCycle s) with
            stationCycles := L.stationCycles.pop s
            deferredStationStarts := L.deferredStationStarts.insert (p, s) }, n, d⟩
  | start {L n d} {s : StationId} {p : String} {c : ProductContext} {cycle : StationCycle}
      {reply : Reply} {ledger : ProductLedger} (uuidsIssued : ℕ)
      (free : L.stationCycles.get? s = none) (known : L.ledger.get p cycle.fifoSequence = some c)
      (live : c.removed = false) (wanted : s = .b → c.stationBSkipRequested = false)
      (paid : s ∉ d.unresumed)
      (begun : (L.ledger.operate p
        (.beginStationCycle s cycle.positionCommandId cycle.captureId)).1 = .ok reply)
      (registered : (L.ledger.operate p (.beginStationCycle s cycle.positionCommandId
        cycle.captureId)).2.registerCapture cycle.captureId p s = (.ok (), ledger))
      (opened : cycle.stationId = s ∧ cycle.productId = p ∧ cycle.phase = .waitingPosition ∧
        cycle.deadlineNs ≠ 0) (issued : n ≤ uuidsIssued) :
      LineStep config stale excused again ⟨L, n, d⟩
        ⟨{ L with
            ledger := ledger
            stationCycles := L.stationCycles.set cycle
            deferredStationStarts := L.deferredStationStarts.erase (p, s) }, uuidsIssued, d⟩
  | deferStart {L n d} (scope : Scope) :
      LineStep config stale excused again ⟨L, n, d⟩
        ⟨{ L with deferredStationStarts := L.deferredStationStarts.insert scope }, n, d⟩
  | dropStart {L n d} (scope : Scope)
      (gone : ∀ c, L.product? scope.1 = some c → c.removed = true) :
      LineStep config stale excused again ⟨L, n, d⟩
        ⟨{ L with deferredStationStarts := L.deferredStationStarts.erase scope }, n, d⟩
  | bypass {L n d} (p reason : String) (idle : ¬L.InCycle .b p) :
      LineStep config stale excused again ⟨L, n, d⟩
        ⟨L.operate p (.bypassStationB reason), n, d⟩
  | arrive {L n d} {p : String} {ledger : ProductLedger} (eventId : String) (step : ℤ)
      (registered : L.ledger.register p L.ledger.nextSequence = (.ok (), ledger)) :
      LineStep config stale excused again ⟨L, n, d⟩
        ⟨{ L with ledger := ledger }.operate p (.recordSensor 1 eventId step), n,
          { d with unplaced := (p, .a) :: d.unplaced }⟩
  | enterB {L n d} (p eventId : String) (step : ℤ) :
      LineStep config stale excused again ⟨L, n, d⟩
        ⟨L.operate p (.acceptSensor2 eventId step), n,
          { d with unplaced := (p, .b) :: d.unplaced }⟩
  | lock {L n d} (p eventId : String) (step : ℤ) :
      LineStep config stale excused again ⟨L, n, d⟩
        ⟨L.operate p (.lockAtSensor3 eventId step), n,
          { d with unscheduled := p :: d.unscheduled }⟩
  | schedule {L n d} {p : String} {u : ℕ} {cycle : ActuationCycle} {reply : Reply}
      (uuidsIssued : ℕ) (rest : List String) (owed : d.unscheduled = p :: rest)
      (live : ∃ c, L.product? p = some c ∧ c.removed = false) (product : cycle.productId = p)
      (fresh : n ≤ u ∧ u < uuidsIssued ∧ cycle.actuatorJobId = config.newUuid u)
      (begun : (L.ledger.operate p
        (.beginActuation cycle.actuatorJobId cycle.commandId)).1 = .ok reply) :
      LineStep config stale excused again ⟨L, n, d⟩
        ⟨{ L.operate p (.beginActuation cycle.actuatorJobId cycle.commandId) with
            actuationCycles := L.actuationCycles.insert cycle.actuatorJobId cycle },
          uuidsIssued, { d with unscheduled := rest }⟩
  | reactuate {L n d} {job : String} {cycle next : ActuationCycle}
      (cycleAt : L.actuationCycles.get? job = some cycle)
      (same : next.productId = cycle.productId ∧ next.actuatorJobId = cycle.actuatorJobId) :
      LineStep config stale excused again ⟨L, n, d⟩
        ⟨{ L with actuationCycles := L.actuationCycles.insert job next }, n, d⟩
  | sort {L n d} {job : String} {cycle : ActuationCycle} (op : ContextOp) (sorts : op.sorts = true)
      (cycleAt : L.actuationCycles.get? job = some cycle)
      (onward : ∀ commandId, op = .markActuationAccepted commandId →
        ∀ c, L.product? cycle.productId = some c → c.physicalState = .done → again) :
      LineStep config stale excused again ⟨L, n, d⟩ ⟨L.operate cycle.productId op, n, d⟩
  | depart {L n d} (nowNs : ℤ) (scheduled : d.unscheduled = []) :
      LineStep config stale excused again ⟨L, n, d⟩
        ⟨{ L with
            ledger := (L.ledger.removeCompletedPrefix nowNs).2
            actuationCycles := (L.ledger.removeCompletedPrefix nowNs).1.foldl
              (fun cycles c => cycles.erase c.actuatorJobId) L.actuationCycles }, n, d⟩

/-- Paying a debt changes nothing on the line. -/
inductive Discharge (config : MasterConfig) (excused : Prop) (L : PhysicalLine) :
    Debt → Debt → Prop where
  | place {d} {p : String} {s : StationId} (rest : List Scope)
      (owed : d.unplaced = (p, s) :: rest)
      (placed : (p, s) ∈ L.deferredStationStarts ∨ L.InCycle s p ∨
        ∀ c, L.product? p = some c → c.physicalState ≠ ProductContext.stationWait s) :
      Discharge config excused L d { d with unplaced := rest }
  | settle {d} {s : StationId} {cycle : StationCycle} (rest : List StationId)
      (owed : d.unresumed = s :: rest) (cycleAt : L.stationCycles.get? s = some cycle)
      (pending : cycle.phase = .resumePending)
      (watched : cycle.deadlineNs ≠ 0 ∨ (cycle.productId, s) ∈ L.deferredCaptureResumes) :
      Discharge config excused L d { d with unresumed := rest }
  | absolve {d} {p : String} (rest : List String) (owed : d.unskipped = p :: rest)
      (spared : config.skipStationBAfterStationANg = true → ∀ c, L.product? p = some c →
        c.removed = false → c.condemned = true → excused) :
      Discharge config excused L d { d with unskipped := rest }
  | unexpire {d} {s : StationId} (rest : List StationId) (owed : d.expiring = s :: rest)
      (renewed : ∀ cycle, L.stationCycles.get? s = some cycle → cycle.phase = .resumePending ∧
        (cycle.deadlineNs ≠ 0 ∨ (cycle.productId, s) ∈ L.deferredCaptureResumes)) :
      Discharge config excused L d { d with expiring := rest }

end InspectionLine
