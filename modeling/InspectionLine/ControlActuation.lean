import InspectionLine.NodeBase
import InspectionLine.InputRuns
import Mathlib.Algebra.Group.Nat.Defs

/-! # ActuateProduct goals of the Control node

A goal is inspected, sends its frame and finishes in three separate steps, because other
goals run between them. Frames and replies are kept in order as the trace of the run. -/
namespace InspectionLine

open InputRuns

structure ActuateGoal where
  command : CommandHeader
  productId : String
  fifoSequence : ℕ
  sensor3EventId : String
  actuatorCommand : ℕ
  deriving DecidableEq, Repr

/-- The action result, with the values of an aborted goal that set none. -/
structure ActuateValues where
  success : Bool := false
  productId : String := ""
  actuationId : String := ""
  errorCode : ErrorCode := .none
  reason : String := ""
  deriving DecidableEq, Repr

inductive ActuatePhase where
  | inspected
  | waiting (sequence : ℕ)
  | sendFailed
  deriving DecidableEq, Repr

structure RunningGoal where
  goal : ActuateGoal
  phase : ActuatePhase := .inspected
  deriving DecidableEq, Repr

structure ActuateFrame where
  commandId : String
  sequence : ℕ
  actuatorCommand : ℕ
  deriving DecidableEq, Repr

structure ActuateReply where
  commandId : String
  values : ActuateValues
  deriving DecidableEq, Repr

structure Control where
  node : Worker
  hardware : Bool
  connected : Bool := false
  megaSequence : ℕ := 0
  actuationResults : IdempotencyStore ActuateValues :=
    .new 4096 IdempotencyStore.default_capacity_pos
  running : OrderedDict String RunningGoal := .empty
  frames : List ActuateFrame := []
  replies : List ActuateReply := []

namespace Control

def nextSequence (c : Control) : ℕ := (c.megaSequence + 1) % 2 ^ 31

def megaWaitFailure (status : Option String) : String :=
  match status with
  | none => "Mega actuation timeout"
  | some status => "Mega actuation rejected: " ++ status

def reply (c : Control) (goal : ActuateGoal) (values : ActuateValues) : Control :=
  { c with replies := c.replies ++ [⟨goal.command.commandId, values⟩] }

/-- Stores the values and answers; a raised ValueError aborts the goal without values. -/
def rememberAndReply (c : Control) (goal : ActuateGoal) (values : ActuateValues) : Control :=
  match c.actuationResults.remember goal.command.commandId goal.command.payloadDigest values with
  | none => c.reply goal {}
  | some store => { c with actuationResults := store }.reply goal values

def allowedStates : List SystemState := [.runSys, .pausing]

def validate (c : Control) (goal : ActuateGoal) : Except (ErrorCode × String) Unit :=
  c.node.validateCommandHeader goal.command allowedStates

/-- The header check and the look into the store, up to the decision to actuate. -/
def begin (c : Control) (goalId : String) (goal : ActuateGoal) : Control :=
  match c.validate goal with
  | .error (code, reason) => c.reply goal { errorCode := code, reason }
  | .ok _ =>
    let (replay, store) :=
      c.actuationResults.inspect goal.command.commandId goal.command.payloadDigest
    let c := { c with actuationResults := store }
    match replay.kind, replay.result with
    | .conflict, _ => c.reply goal {
        errorCode := .commandConflict, reason := "same command_id received with another digest" }
    | _, some values => c.rememberAndReply goal values
    | _, none => { c with running := c.running.insert goalId { goal } }

/-- Writes the ACTUATE frame. A write that raises may have sent it all the same. -/
def send (c : Control) (goalId : String) (raises : Bool) : Control :=
  match c.running.get? goalId with
  | none => c
  | some r =>
    if !c.connected then
      { c with running := c.running.insert goalId { r with phase := .sendFailed } }
    else { c with
      megaSequence := c.nextSequence
      frames := c.frames ++ [⟨r.goal.command.commandId, c.nextSequence, r.goal.actuatorCommand⟩]
      running := c.running.insert goalId { r with
        phase := if raises then .sendFailed else .waiting c.nextSequence } }

/-- The values of a goal that ran, from the status of the wait and a fresh actuation id. -/
def outcome (c : Control) (r : RunningGoal) (status : Option String) (actuationId : String) :
    ActuateValues :=
  if c.hardware then
    let status := if r.phase = .sendFailed then none else status
    let success := status = some "OK"
    { success := success
      productId := r.goal.productId
      actuationId := if success then actuationId else ""
      errorCode := if success then .none else .actuatorFailed
      reason := if success then "Mega actuation completed" else megaWaitFailure status }
  else
    { success := true, productId := r.goal.productId, actuationId
      reason := "sim actuation completed" }

def finish (c : Control) (goalId : String) (status : Option String) (actuationId : String) :
    Control :=
  match c.running.get? goalId with
  | none => c
  | some r =>
    { c with running := c.running.erase goalId }.rememberAndReply r.goal
      (c.outcome r status actuationId)

inductive Step where
  | node (e : NodeEvent)
  | link (connected : Bool)
  | begin (goalId : String) (goal : ActuateGoal)
  | send (goalId : String) (raises : Bool)
  | finish (goalId : String) (status : Option String) (actuationId : String)

def next (c : Control) : Step → Control
  | .node e => { c with node := c.node.handle e }
  | .link connected => { c with connected }
  | .begin goalId goal => c.begin goalId goal
  | .send goalId raises => c.send goalId raises
  | .finish goalId status actuationId => c.finish goalId status actuationId

/-- Goal handles are unique, a goal sends once and only on hardware, and finishes after
that. The store never drops a result: the capacity is not exceeded. -/
def Admits (c : Control) : Step → Prop
  | .begin goalId goal => c.running.get? goalId = none ∧
      c.actuationResults.HasRoom goal.command.commandId
  | .send goalId _ => c.hardware = true ∧
      (c.running.get? goalId).map (·.phase) = some .inspected
  | .finish goalId _ _ => (c.running.get? goalId).isSome ∧ ∀ r ∈ c.running.get? goalId,
      c.actuationResults.HasRoom r.goal.command.commandId ∧
      (r.phase = .inspected → c.hardware = false)
  | _ => True

/-- No goal that passes the header check starts while another one for the same command_id
is still on its way to its result. -/
def Sequential (c : Control) : Step → Prop
  | .begin _ goal => c.validate goal = .ok () →
      ∀ r ∈ c.running.values, r.goal.command.commandId ≠ goal.command.commandId
  | _ => True

instance (c : Control) (e : Step) : Decidable (Admits c e) := by
  cases e <;> dsimp only [Admits] <;> infer_instance

instance (c : Control) (e : Step) : Decidable (Sequential c e) := by
  cases e <;> dsimp only [Sequential] <;> infer_instance

def framesFor (c : Control) (commandId : String) : List ActuateFrame :=
  c.frames.filter (·.commandId = commandId)

/-- One ACTUATE frame at most for a command_id, and one successful answer. -/
structure ExactlyOnce (c : Control) (commandId : String) : Prop where
  once : (c.framesFor commandId).length ≤ 1
  same : ∀ r ∈ c.replies, ∀ s ∈ c.replies, r.commandId = commandId → s.commandId = commandId →
    r.values.success = true → s.values.success = true → r.values = s.values

def initial (node : Worker) (hardware : Bool) : Control := { node, hardware }

abbrev SequentialRun : Control → Control → Prop :=
  Execution next fun c e => Admits c e ∧ Sequential c e

structure Invariant (c : Control) : Prop where
  unique : ∀ j k r s, c.running.get? j = some r → c.running.get? k = some s →
    r.goal.command.commandId = s.goal.command.commandId → j = k
  fresh : ∀ k r, c.running.get? k = some r →
    c.actuationResults.get? r.goal.command.commandId = none
  silent : ∀ k r, c.running.get? k = some r → r.phase = .inspected →
    ∀ f ∈ c.frames, f.commandId ≠ r.goal.command.commandId
  sent : ∀ f ∈ c.frames, (c.actuationResults.get? f.commandId).isSome ∨
    ∃ k r, c.running.get? k = some r ∧ r.goal.command.commandId = f.commandId
  answered : ∀ a ∈ c.replies, a.values.success = true →
    ∃ d, c.actuationResults.get? a.commandId = some (d, a.values)
  once : ∀ commandId, (c.framesFor commandId).length ≤ 1

private theorem initial_invariant (node : Worker) (hardware : Bool) :
    Invariant (initial node hardware) := by
  constructor
  case once => exact fun _ => Nat.zero_le _
  all_goals simp [initial]

theorem mem_running_values {c : Control} {r : RunningGoal} :
    r ∈ c.running.values ↔ ∃ k, c.running.get? k = some r := by
  simp only [OrderedDict.values, List.mem_map, OrderedDict.get?_eq_some, Prod.exists,
    exists_eq_right]

theorem failed_reply_preserves_invariant {c : Control} (h : Invariant c) (goal : ActuateGoal)
    {values : ActuateValues} (hv : values.success = false) : Invariant (c.reply goal values) where
  unique := h.unique
  fresh := h.fresh
  silent := h.silent
  sent := h.sent
  answered a ha hs := by
    rcases List.mem_append.mp ha with ha | ha
    · exact h.answered a ha hs
    · rw [List.mem_singleton] at ha
      subst ha
      rw [hv] at hs
      cases hs
  once := h.once

theorem inspect_preserves_invariant {c : Control} (h : Invariant c) (commandId digest : String) :
    Invariant { c with
      actuationResults := (c.actuationResults.inspect commandId digest).2 } where
  unique := h.unique
  fresh k r hr := by simpa using h.fresh k r hr
  silent := h.silent
  sent f hf := by simpa using h.sent f hf
  answered a ha hs := by simpa using h.answered a ha hs
  once := h.once

/-- Storing a result that agrees with what is stored, for an id no running goal has. -/
theorem remember_preserves_invariant {c : Control} (h : Invariant c) {goal : ActuateGoal}
    {values : ActuateValues}
    (hstored : ∀ e, c.actuationResults.get? goal.command.commandId = some e →
      e = (goal.command.payloadDigest, values))
    (hidle : ∀ k r, c.running.get? k = some r →
      r.goal.command.commandId ≠ goal.command.commandId)
    (hroom : c.actuationResults.HasRoom goal.command.commandId) :
    Invariant (c.rememberAndReply goal values) := by
  obtain ⟨store, hstore⟩ : ∃ store, c.actuationResults.remember goal.command.commandId
      goal.command.payloadDigest values = some store := by
    cases hget : c.actuationResults.get? goal.command.commandId with
    | none => exact IdempotencyStore.remember_of_absent hget _ _
    | some e =>
      have he : c.actuationResults.entries.get? goal.command.commandId =
          some (goal.command.payloadDigest, values) := hstored e hget ▸ hget
      exact ⟨_, by simp [IdempotencyStore.remember, he]; rfl⟩
  have hget := IdempotencyStore.get?_remember hstore hroom
  have hgrow : ∀ other e, c.actuationResults.get? other = some e → store.get? other = some e := by
    intro other e he
    rw [hget]
    split
    · rename_i hid
      subst hid
      rw [hstored e he]
    · exact he
  simp only [rememberAndReply, hstore]
  constructor
  case unique => exact h.unique
  case silent => exact h.silent
  case once => exact h.once
  case fresh =>
    intro k r hr
    simp only [reply, hget, if_neg (hidle k r hr)]
    exact h.fresh k r hr
  case sent =>
    intro f hf
    refine (h.sent f hf).imp_left fun hsome => ?_
    obtain ⟨e, he⟩ := Option.isSome_iff_exists.mp hsome
    exact Option.isSome_iff_exists.mpr ⟨e, hgrow _ e he⟩
  case answered =>
    intro a ha hs
    rcases List.mem_append.mp ha with ha | ha
    · obtain ⟨d, hd⟩ := h.answered a ha hs
      exact ⟨d, hgrow _ _ hd⟩
    · rw [List.mem_singleton] at ha
      subst ha
      exact ⟨goal.command.payloadDigest, by simp [reply, hget]⟩

theorem begin_preserves_invariant {c : Control} (h : Invariant c) {goalId : String}
    {goal : ActuateGoal} (hnew : c.running.get? goalId = none)
    (hseq : Sequential c (.begin goalId goal)) : Invariant (c.begin goalId goal) := by
  unfold begin
  split
  · exact failed_reply_preserves_invariant h goal rfl
  · rename_i hvalid
    have hinv := inspect_preserves_invariant h goal.command.commandId goal.command.payloadDigest
    have hidle : ∀ k r, c.running.get? k = some r →
        r.goal.command.commandId ≠ goal.command.commandId := fun k r hr =>
      hseq hvalid r (mem_running_values.mpr ⟨k, hr⟩)
    rcases c.actuationResults.inspect_cases goal.command.commandId goal.command.payloadDigest with
      ⟨hnone, hkind⟩ | ⟨d, v, -, -, hkind⟩ | ⟨v, hstored, hkind⟩
    · simp only [hkind]
      constructor
      case answered => exact hinv.answered
      case once => exact hinv.once
      case unique =>
        intro j k r s hj hk hid
        simp only [OrderedDict.get?_insert] at hj hk
        split at hj <;> split at hk
        · rename_i hj' hk'
          rw [hj', hk']
        · cases hj
          exact absurd hid.symm (hidle k s hk)
        · cases hk
          exact absurd hid (hidle j r hj)
        · exact h.unique j k r s hj hk hid
      case fresh =>
        intro k r hr
        simp only [OrderedDict.get?_insert] at hr
        split at hr
        · cases hr
          simpa using hnone
        · exact hinv.fresh k r hr
      case silent =>
        intro k r hr hphase f hf
        simp only [OrderedDict.get?_insert] at hr
        split at hr
        · cases hr
          intro hid
          rcases h.sent f hf with hsome | ⟨j, s, hs, hsid⟩
          · rw [hid, hnone] at hsome
            cases hsome
          · exact hidle j s hs (hsid.trans hid)
        · exact h.silent k r hr hphase f hf
      case sent =>
        intro f hf
        refine (hinv.sent f hf).imp_right ?_
        rintro ⟨k, r, hr, hid⟩
        refine ⟨k, r, ?_, hid⟩
        have hne : k ≠ goalId := by
          rintro rfl
          rw [hnew] at hr
          cases hr
        exact (OrderedDict.get?_insert_of_ne _ _ hne).trans hr
    · simp only [hkind]
      exact failed_reply_preserves_invariant hinv goal rfl
    · simp only [hkind]
      refine remember_preserves_invariant hinv ?_ hidle (.inl ?_)
      · intro e he
        simp only [IdempotencyStore.get?_inspect, hstored] at he
        exact (Option.some.inj he).symm
      · simp [hstored]

/-- Changing the phase of a running goal to one past its sending. -/
theorem mark_sent_preserves_invariant {c : Control} (h : Invariant c) {goalId : String}
    {r : RunningGoal} (hr : c.running.get? goalId = some r) {phase : ActuatePhase}
    (hphase : phase ≠ .inspected) :
    Invariant { c with running := c.running.insert goalId { r with phase } } := by
  have hback : ∀ k s, (c.running.insert goalId { r with phase }).get? k = some s →
      ∃ s', c.running.get? k = some s' ∧ s'.goal = s.goal ∧ (s.phase = .inspected → s' = s) := by
    intro k s hs
    rw [OrderedDict.get?_insert] at hs
    split at hs
    · rename_i hk
      cases hs
      exact ⟨r, hk ▸ hr, rfl, fun hp => absurd hp hphase⟩
    · exact ⟨s, hs, rfl, fun _ => rfl⟩
  constructor
  case answered => exact h.answered
  case once => exact h.once
  case unique =>
    intro j k s t hs ht hid
    obtain ⟨s', hs', hgs, -⟩ := hback j s hs
    obtain ⟨t', ht', hgt, -⟩ := hback k t ht
    exact h.unique j k s' t' hs' ht' (by rw [hgs, hgt, hid])
  case fresh =>
    intro k s hs
    obtain ⟨s', hs', hgs, -⟩ := hback k s hs
    exact hgs ▸ h.fresh k s' hs'
  case silent =>
    intro k s hs hp
    obtain ⟨s', hs', -, hsame⟩ := hback k s hs
    exact h.silent k s (hsame hp ▸ hs') hp
  case sent =>
    intro f hf
    refine (h.sent f hf).imp_right ?_
    rintro ⟨k, s, hs, hid⟩
    by_cases hk : k = goalId
    · subst hk
      rw [hr] at hs
      cases hs
      exact ⟨k, _, OrderedDict.get?_insert_self _ _ _, hid⟩
    · exact ⟨k, s, (OrderedDict.get?_insert_of_ne _ _ hk).trans hs, hid⟩

theorem send_preserves_invariant {c : Control} (h : Invariant c) {goalId : String} {raises : Bool}
    (hadmits : (c.running.get? goalId).map (·.phase) = some .inspected) :
    Invariant (c.send goalId raises) := by
  obtain ⟨r, hr, hphase⟩ := Option.map_eq_some_iff.mp hadmits
  unfold send
  rw [hr]
  simp only
  split
  · exact mark_sent_preserves_invariant h hr (by simp)
  · have hmarked := mark_sent_preserves_invariant h hr
      (show (if raises then .sendFailed else .waiting c.nextSequence : ActuatePhase) ≠ .inspected by
        split <;> simp)
    have hsilent := h.silent goalId r hr hphase
    constructor
    case unique => exact hmarked.unique
    case fresh => exact hmarked.fresh
    case answered => exact hmarked.answered
    case silent =>
      intro k s hs hp f hf
      rcases List.mem_append.mp hf with hf | hf
      · exact hmarked.silent k s hs hp f hf
      · rw [List.mem_singleton] at hf
        subst hf
        intro hid
        have hk : goalId = k :=
          hmarked.unique goalId k _ s (OrderedDict.get?_insert_self _ _ _) hs hid
        subst hk
        simp only [OrderedDict.get?_insert_self] at hs
        cases hs
        revert hp
        simp only
        split <;> simp
    case sent =>
      intro f hf
      rcases List.mem_append.mp hf with hf | hf
      · exact hmarked.sent f hf
      · rw [List.mem_singleton] at hf
        subst hf
        exact .inr ⟨goalId, _, OrderedDict.get?_insert_self _ _ _, rfl⟩
    case once =>
      intro commandId
      simp only [framesFor, List.filter_append, List.length_append]
      by_cases hid : r.goal.command.commandId = commandId
      · -- the first frame of this command_id
        have hnone : c.frames.filter (·.commandId = commandId) = [] := by
          refine List.filter_eq_nil_iff.mpr fun f hf => ?_
          simpa [← hid] using hsilent f hf
        simp [hnone, hid]
      · have hold : (c.framesFor commandId).length ≤ 1 := h.once commandId
        simpa [hid, framesFor] using hold

theorem finish_preserves_invariant {c : Control} (h : Invariant c) {goalId : String}
    {status : Option String} {actuationId : String}
    (hadmits : Admits c (.finish goalId status actuationId)) :
    Invariant (c.finish goalId status actuationId) := by
  obtain ⟨r, hget⟩ := Option.isSome_iff_exists.mp hadmits.1
  have hroom := (hadmits.2 r hget).1
  have hback : ∀ k s, (c.running.erase goalId).get? k = some s →
      k ≠ goalId ∧ c.running.get? k = some s := by
    intro k s hs
    rw [OrderedDict.get?_erase] at hs
    split at hs
    · cases hs
    · rename_i hk
      exact ⟨hk, hs⟩
  unfold finish
  rw [hget]
  simp only
  have hdone : ∃ store, c.actuationResults.remember r.goal.command.commandId
      r.goal.command.payloadDigest (c.outcome r status actuationId) = some store :=
    IdempotencyStore.remember_of_absent (h.fresh goalId r hget) _ _
  obtain ⟨store, hstore⟩ := hdone
  have hstores := IdempotencyStore.get?_remember hstore hroom
  have habsent := h.fresh goalId r hget
  simp only [rememberAndReply, hstore]
  constructor
  case unique =>
    intro j k s t hs ht
    exact h.unique j k s t (hback j s hs).2 (hback k t ht).2
  case fresh =>
    intro k s hs
    obtain ⟨hk, hs'⟩ := hback k s hs
    have hne : s.goal.command.commandId ≠ r.goal.command.commandId := fun hid =>
      hk (h.unique k goalId s r hs' hget hid)
    simp only [reply, hstores, if_neg hne]
    exact h.fresh k s hs'
  case silent =>
    intro k s hs
    exact h.silent k s (hback k s hs).2
  case sent =>
    intro f hf
    by_cases hid : f.commandId = r.goal.command.commandId
    · left
      simp [reply, hstores, hid]
    · rcases h.sent f hf with hsome | ⟨k, s, hs, hsid⟩
      · left
        simpa [reply, hstores, hid] using hsome
      · right
        have hk : k ≠ goalId := by
          rintro rfl
          rw [hget] at hs
          cases hs
          exact hid hsid.symm
        refine ⟨k, s, ?_, hsid⟩
        simpa [reply, OrderedDict.get?_erase, hk] using hs
  case answered =>
    intro a ha hs
    rcases List.mem_append.mp ha with ha | ha
    · obtain ⟨d, hd⟩ := h.answered a ha hs
      have hne : a.commandId ≠ r.goal.command.commandId := by
        intro hid
        rw [hid, habsent] at hd
        cases hd
      exact ⟨d, by simpa [reply, hstores, hne] using hd⟩
    · rw [List.mem_singleton] at ha
      subst ha
      exact ⟨r.goal.command.payloadDigest, by simp [reply, hstores]⟩
  case once => exact h.once

theorem step_preserves_invariant {c : Control} {e : Step} (h : Invariant c) (he : Admits c e)
    (hseq : Sequential c e) : Invariant (next c e) := by
  cases e with
  | node e => exact ⟨h.unique, h.fresh, h.silent, h.sent, h.answered, h.once⟩
  | link connected => exact ⟨h.unique, h.fresh, h.silent, h.sent, h.answered, h.once⟩
  | begin goalId goal => exact begin_preserves_invariant h he.1 hseq
  | send goalId raises => exact send_preserves_invariant h he.2
  | finish goalId status actuationId => exact finish_preserves_invariant h he

/-- When goals with one command_id never overlap, the Mega gets one frame at most for it and
all its successful answers are the same. -/
theorem sequential_goals_actuate_once {node : Worker} {hardware : Bool} {c : Control}
    (hrun : SequentialRun (initial node hardware) c) (commandId : String) :
    ExactlyOnce c commandId := by
  have hinv : Invariant c := hrun.invariant (P := Invariant)
    (fun _ _ h he => step_preserves_invariant h he.1 he.2) (initial_invariant node hardware)
  refine ⟨hinv.once commandId, ?_⟩
  intro r hr s hs hrid hsid hrok hsok
  obtain ⟨d, hd⟩ := hinv.answered r hr hrok
  obtain ⟨d', hd'⟩ := hinv.answered s hs hsok
  rw [hrid] at hd
  rw [hsid, hd] at hd'
  exact (Prod.mk.inj (Option.some.inj hd')).2

def runningNode : Worker := {
  interfaceVersion := "1.0.0", masterHeartbeatTimeoutMs := 2000, healthState := .ready
  sessionId := "11111111-0000-4000-8000-000000000001", systemState := .runSys }

def divert : ActuateGoal where
  command := {
    sessionId := "11111111-0000-4000-8000-000000000001"
    commandId := "cccccccc-0000-4000-8000-000000000001"
    commandEpoch := 0, payloadDigest := String.ofList (List.replicate 64 '0') }
  productId := "product-1"
  fifoSequence := 1
  sensor3EventId := "sensor3-1"
  actuatorCommand := 1

/-- The command is sent again after its result: the stored answer is given twice. -/
theorem resent_command_actuates_once :
    ExactlyOnce (runTrace next (initial runningNode true) [.link true, .begin "goal-1" divert,
      .send "goal-1" false, .finish "goal-1" (some "OK") "actuation-1", .begin "goal-2" divert])
      divert.command.commandId :=
  sequential_goals_actuate_once (valid_trace_execution (by decide +kernel)) _

/-- The command is sent again while the first goal is still waiting: two frames. -/
theorem overlapping_goals_actuate_twice :
    ¬ ∀ (node : Worker) (hardware : Bool) (c : Control) (commandId : String),
      Execution next Admits (initial node hardware) c → ExactlyOnce c commandId := by
  intro h
  have honce := (h runningNode true (runTrace next (initial runningNode true) [.link true,
    .begin "goal-1" divert, .send "goal-1" false, .begin "goal-2" divert, .send "goal-2" false])
    divert.command.commandId (valid_trace_execution (by decide +kernel))).once
  exact absurd honce (by decide +kernel)

end Control

end InspectionLine
