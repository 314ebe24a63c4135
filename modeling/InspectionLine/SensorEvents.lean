import InspectionLine.ProductFlow

/-! # Sensor events in, locked results out

The registry accepts every sensor event once and without gaps. The reorder buffer lets the
locked results out in FIFO order. -/
namespace InspectionLine

inductive SensorEventOutcome where
  | accepted | duplicate | conflict | sequenceGap | outOfOrder
  deriving DecidableEq, Repr

def SensorEventOutcome.value : SensorEventOutcome → String
  | .accepted => "ACCEPTED"
  | .duplicate => "DUPLICATE"
  | .conflict => "CONFLICT"
  | .sequenceGap => "SEQUENCE_GAP"
  | .outOfOrder => "OUT_OF_ORDER"

structure SensorEventRegistry where
  eventCapacity : ℕ := 8192
  lastSequence : OrderedDict String ℕ := .empty
  eventDigests : OrderedDict String String := .empty
  capacity_pos : 0 < eventCapacity := by omega
  bounded : eventDigests.size ≤ eventCapacity := by exact Nat.zero_le _

namespace SensorEventRegistry

/-- Stores an accepted event and forgets the oldest ones beyond the capacity. -/
def record (r : SensorEventRegistry) (sensorId eventId : String) (sequence : ℕ)
    (digest : String) : SensorEventRegistry :=
  { r with
    lastSequence := r.lastSequence.insert sensorId sequence
    eventDigests := (r.eventDigests.insert eventId digest).trim r.eventCapacity
    bounded := OrderedDict.size_trim_le _ _ }

def accept (r : SensorEventRegistry) (sensorId eventId : String) (sequence : ℕ)
    (digest : String) : SensorEventOutcome × SensorEventRegistry :=
  match r.eventDigests.get? eventId with
  | some previousDigest => (if previousDigest = digest then .duplicate else .conflict, r)
  | none =>
    if eventId = "" ∨ sequence = 0 then (.outOfOrder, r)
    else match r.lastSequence.get? sensorId with
      | none => (.accepted, r.record sensorId eventId sequence digest)
      | some previousSequence =>
        if sequence ≤ previousSequence then (.outOfOrder, r)
        else if sequence ≠ previousSequence + 1 then (.sequenceGap, r)
        else (.accepted, r.record sensorId eventId sequence digest)

def reset (r : SensorEventRegistry) : SensorEventRegistry :=
  { r with lastSequence := .empty, eventDigests := .empty, bounded := Nat.zero_le _ }

end SensorEventRegistry

structure ProductResultReorderBuffer where
  nextSequence : ℕ := 1
  pending : OrderedDict ℕ LockedProduct := .empty
  next_pos : 0 < nextSequence := by omega

namespace ProductResultReorderBuffer

/-- Takes the pending results that are next in line. One is taken out a step, so as many
steps as there are pending results suffice. -/
def release : ℕ → ProductResultReorderBuffer → List LockedProduct × ProductResultReorderBuffer
  | 0, b => ([], b)
  | steps + 1, b =>
    match b.pending.get? b.nextSequence with
    | none => ([], b)
    | some ready =>
      let rest := release steps { b with
        pending := b.pending.erase b.nextSequence
        nextSequence := b.nextSequence + 1
        next_pos := Nat.succ_pos _ }
      (ready :: rest.1, rest.2)

def add (b : ProductResultReorderBuffer) (result : LockedProduct) :
    Except FlowError (List LockedProduct) × ProductResultReorderBuffer :=
  if result.fifoSequence < b.nextSequence then (.ok [], b)
  else if (b.pending.get? result.fifoSequence).any fun existing => existing ≠ result then
    (.error (.valueError "conflicting lock for fifo_sequence"), b)
  else
    let pending := b.pending.insert result.fifoSequence result
    let released := release pending.size { b with pending }
    (.ok released.1, released.2)

def reset (b : ProductResultReorderBuffer) (firstSequence : ℕ) (h : 0 < firstSequence) :
    ProductResultReorderBuffer :=
  { b with nextSequence := firstSequence, pending := .empty, next_pos := h }

end ProductResultReorderBuffer

end InspectionLine
