import InspectionLine.NewSession
import InspectionLine.RecentKeys

/-! # Replayed system commands

What a worker does with the system commands and heartbeats that reach it, in any order and any
number of times. -/
namespace InspectionLine

open OrderedDict

namespace Worker

def storedIds (w : Worker) : List String := w.seenSystemCommands.entries.keys

def lookUp? (w : Worker) : NodeEvent → Option (String × LookUp)
  | .systemCommand m =>
    if m.command.sessionId ≠ w.sessionId ∨ w.sessionId = "" then none
    else if !isUuid4 m.command.commandId || !isSha256Hex m.command.payloadDigest then none
    else if m.command.commandId ∈ w.storedIds then some (m.command.commandId, .found)
    else if m.command.commandEpoch < w.commandEpoch then some (m.command.commandId, .dropped)
    else some (m.command.commandId, .stored)
  | _ => none

def lookUps (w : Worker) : List NodeEvent → List (String × LookUp)
  | [] => []
  | e :: events => (w.lookUp? e).toList ++ lookUps (w.handle e) events

def run (w : Worker) (events : List NodeEvent) : Worker := events.foldl handle w

/-- The order of the store may change, and a conflict is a fault. -/
def Ignores (w w' : Worker) : Prop :=
  ∃ store health, w' = { w with seenSystemCommands := store, healthState := health } ∧
    (health = w.healthState ∨ health = .fault) ∧
    ∀ commandId, store.get? commandId = w.seenSystemCommands.get? commandId

theorem apply_system_command (w : Worker) (m : SystemCommand)
    (h : m.command.commandId ∉ w.storedIds) :
    (w.applySystemCommand m).commandEpoch = m.command.commandEpoch ∧
      (w.applySystemCommand m).seenSystemCommands.capacity = w.seenSystemCommands.capacity ∧
      (w.applySystemCommand m).storedIds = (w.storedIds.filter (· ≠ m.command.commandId) ++
        [m.command.commandId]).rtake w.seenSystemCommands.capacity := by
  obtain ⟨store, hstore⟩ := IdempotencyStore.remember_of_absent (get?_eq_none.mpr h)
    m.command.payloadDigest true
  have hseen : (w.applySystemCommand m).seenSystemCommands = store := by
    unfold applySystemCommand
    simp only [hstore, Option.getD_some]
    repeat' split
    all_goals rfl
  have hepoch : (w.applySystemCommand m).commandEpoch = m.command.commandEpoch := by
    unfold applySystemCommand
    dsimp only
    repeat' split
    all_goals rfl
  obtain ⟨hcapacity, hkeys⟩ := IdempotencyStore.keys_remember hstore
  rw [storedIds, hseen]
  exact ⟨hepoch, hcapacity, hkeys⟩

inductive CommandStep (w : Worker) (m : SystemCommand) :
    Option (String × LookUp) → Worker → Prop where
  | refused : CommandStep w m none w
  | found (hid : m.command.commandId ∈ w.storedIds) (w' : Worker) (hignores : w.Ignores w')
      (hcapacity : w'.seenSystemCommands.capacity = w.seenSystemCommands.capacity)
      (hkeys : w'.storedIds = w.storedIds.filter (· ≠ m.command.commandId) ++
        [m.command.commandId]) : CommandStep w m (some (m.command.commandId, .found)) w'
  | dropped (hid : m.command.commandId ∉ w.storedIds)
      (hepoch : m.command.commandEpoch < w.commandEpoch) :
      CommandStep w m (some (m.command.commandId, .dropped)) w
  | stored (hid : m.command.commandId ∉ w.storedIds)
      (hepoch : w.commandEpoch ≤ m.command.commandEpoch) :
      CommandStep w m (some (m.command.commandId, .stored)) (w.applySystemCommand m)

theorem system_command_step (w : Worker) (m : SystemCommand) :
    CommandStep w m (w.lookUp? (.systemCommand m)) (w.handleSystemCommand m) := by
  simp only [lookUp?, handleSystemCommand]
  split
  · exact .refused
  split
  · exact .refused
  by_cases hid : m.command.commandId ∈ w.storedIds
  · rw [if_pos hid]
    have hcases := w.seenSystemCommands.inspect_cases m.command.commandId m.command.payloadDigest
    have hkeys := w.seenSystemCommands.keys_inspect m.command.commandId m.command.payloadDigest
    have hmem : m.command.commandId ∈ w.seenSystemCommands.entries.keys := hid
    rw [if_pos hmem] at hkeys
    have hcapacity :=
      w.seenSystemCommands.capacity_inspect m.command.commandId m.command.payloadDigest
    have hget := w.seenSystemCommands.get?_inspect m.command.commandId m.command.payloadDigest
    rcases hcases with ⟨hnone, -⟩ | ⟨digest, result, -, -, hkind⟩ | ⟨result, -, hkind⟩
    · exact absurd hid (get?_eq_none.mp hnone)
    · rw [hkind]
      exact .found hid _ ⟨_, .fault, rfl, .inr rfl, hget⟩ hcapacity hkeys
    · rw [hkind]
      exact .found hid _ ⟨_, w.healthState, rfl, .inl rfl, hget⟩ hcapacity hkeys
  · rw [if_neg hid, IdempotencyStore.inspect_absent hid]
    dsimp only
    split
    · rename_i hepoch
      exact .dropped hid hepoch
    · rename_i hepoch
      exact .stored hid (Nat.le_of_not_lt hepoch)

theorem heartbeat_keeps (w : Worker) (m : MasterHeartbeat) (nowNs : ℤ) :
    w.commandEpoch ≤ (w.handleMasterHeartbeat m nowNs).commandEpoch ∧
      (w.handleMasterHeartbeat m nowNs).seenSystemCommands = w.seenSystemCommands := by
  unfold handleMasterHeartbeat
  split
  · exact ⟨le_rfl, rfl⟩
  split
  · exact ⟨le_rfl, rfl⟩
  split
  · exact ⟨le_rfl, rfl⟩
  · rename_i hepoch
    dsimp only
    split <;> exact ⟨Nat.le_of_not_lt hepoch, rfl⟩

theorem run_initialization_seen (w : Worker) (request : InitializeRequest)
    (around : InitializeSurroundings) :
    (w.runInitialization request around).2.seenSystemCommands = w.seenSystemCommands := by
  unfold runInitialization
  dsimp only
  repeat' split
  all_goals rfl

theorem initialize_seen (w : Worker) (request : InitializeRequest)
    (around : InitializeSurroundings) :
    (w.executeInitialize request around).2.seenSystemCommands = w.seenSystemCommands := by
  unfold executeInitialize
  dsimp only
  split
  · split <;> rfl
  · split
    · rfl
    · exact run_initialization_seen w request around

/-- The ids that a worker has stored are the last ones of a log. -/
def Remembers (w : Worker) (log : List String) : Prop :=
  w.storedIds = recent w.seenSystemCommands.capacity log

def logged (log : List String) : Option (String × LookUp) → List String
  | none => log
  | some (commandId, outcome) => outcome.log log commandId

theorem handle_quiet {w w' : Worker} {log : List String} (h : w.Remembers log)
    (hseen : w'.seenSystemCommands = w.seenSystemCommands) :
    w'.seenSystemCommands.capacity = w.seenSystemCommands.capacity ∧ w'.Remembers log := by
  refine ⟨congrArg _ hseen, ?_⟩
  rw [Remembers, storedIds, hseen]
  exact h

theorem handle_remembers {w : Worker} {log : List String} (h : w.Remembers log) (e : NodeEvent) :
    (w.handle e).seenSystemCommands.capacity = w.seenSystemCommands.capacity ∧
      (w.handle e).Remembers (logged log (w.lookUp? e)) := by
  cases e with
  | systemCommand m =>
    have hstep := system_command_step w m
    rw [handle]
    generalize w.lookUp? (.systemCommand m) = outcome at hstep ⊢
    generalize w.handleSystemCommand m = w' at hstep ⊢
    have hlogged : recent w.seenSystemCommands.capacity (log ++ [m.command.commandId]) =
        (w.storedIds.filter (· ≠ m.command.commandId) ++ [m.command.commandId]).rtake
          w.seenSystemCommands.capacity := by
      rw [recent_append, ← h]
    cases hstep with
    | refused => exact ⟨rfl, h⟩
    | found hid w' hignores hcapacity hkeys =>
      refine ⟨hcapacity, ?_⟩
      have hbound : w'.storedIds.length ≤ w'.seenSystemCommands.capacity := by
        rw [storedIds, ← size_eq_keys]
        exact w'.seenSystemCommands.bounded
      have htake : w'.storedIds.rtake w'.seenSystemCommands.capacity = w'.storedIds := by
        rw [List.rtake, Nat.sub_eq_zero_of_le hbound, List.drop_zero]
      rw [Remembers, ← htake, hcapacity, hkeys]
      exact hlogged.symm
    | dropped => exact ⟨rfl, h⟩
    | stored hid hepoch =>
      obtain ⟨-, hcapacity, hkeys⟩ := apply_system_command w m hid
      refine ⟨hcapacity, ?_⟩
      rw [Remembers, hcapacity, hkeys]
      exact hlogged.symm
  | masterHeartbeat m nowNs => exact handle_quiet h (heartbeat_keeps w m nowNs).2
  | initializeGoal request =>
    refine handle_quiet h ?_
    rw [handle, handleInitializeGoal]
    repeat' split
    all_goals rfl
  | executeInitialize request around => exact handle_quiet h (initialize_seen w request around)
  | checkMasterHeartbeat nowNs =>
    refine handle_quiet h ?_
    rw [handle, checkMasterHeartbeat]
    split <;> rfl
  | setHealthState state => exact handle_quiet h rfl

theorem epoch_le_handle (w : Worker) (e : NodeEvent) :
    w.commandEpoch ≤ (w.handle e).commandEpoch := by
  cases e with
  | systemCommand m =>
    have hstep := system_command_step w m
    rw [handle]
    generalize w.handleSystemCommand m = w' at hstep ⊢
    generalize w.lookUp? (.systemCommand m) = outcome at hstep
    cases hstep with
    | refused | dropped => exact le_rfl
    | found hid w' hignores =>
      obtain ⟨store, health, rfl, -⟩ := hignores
      exact le_rfl
    | stored hid hepoch => exact hepoch.trans_eq (apply_system_command w m hid).1.symm
  | masterHeartbeat m nowNs => exact (heartbeat_keeps w m nowNs).1
  | initializeGoal request => exact (WorkerHistory.goal_keeps w request).ge
  | executeInitialize request around => exact (WorkerHistory.initialize_epoch w request around).ge
  | checkMasterHeartbeat nowNs => exact (WorkerHistory.check_keeps w nowNs).ge
  | setHealthState state => exact le_rfl

theorem epoch_le_run (events : List NodeEvent) : ∀ w : Worker,
    w.commandEpoch ≤ (w.run events).commandEpoch := by
  induction events with
  | nil => exact fun w => le_rfl
  | cons e events ih => exact fun w => (epoch_le_handle w e).trans (ih (w.handle e))

theorem look_up_found {w : Worker} {log : List String} (h : w.Remembers log) {e : NodeEvent}
    {commandId : String} {outcome : LookUp} (hlook : w.lookUp? e = some (commandId, outcome)) :
    outcome = .found ↔ commandId ∈ recent w.seenSystemCommands.capacity log := by
  rw [← h]
  cases e with
  | systemCommand m =>
    have hstep := system_command_step w m
    rw [hlook] at hstep
    generalize w.handleSystemCommand m = w' at hstep
    cases hstep with
    | found hid => exact iff_of_true rfl hid
    | dropped hid | stored hid => exact iff_of_false nofun hid
  | _ => exact absurd hlook (Option.some_ne_none _).symm

theorem run_look_ups (events : List NodeEvent) : ∀ {w : Worker} {log : List String},
    w.Remembers log → LookUps w.seenSystemCommands.capacity log (w.lookUps events) := by
  induction events with
  | nil => exact fun _ => .nil _
  | cons e events ih =>
    intro w log h
    obtain ⟨hcapacity, hremembers⟩ := handle_remembers h e
    have hrest := ih hremembers
    rw [hcapacity] at hrest
    rw [lookUps]
    cases hlook : w.lookUp? e with
    | none =>
      rw [hlook] at hrest
      exact hrest
    | some entry =>
      obtain ⟨commandId, outcome⟩ := entry
      rw [hlook] at hrest
      exact .cons log commandId outcome (look_up_found h hlook) _ hrest

theorem remembers_stored (w : Worker) : w.Remembers w.storedIds := by
  have hbound : w.storedIds.length ≤ w.seenSystemCommands.capacity := by
    rw [storedIds, ← size_eq_keys]
    exact w.seenSystemCommands.bounded
  have hnodup : w.storedIds.Nodup := w.seenSystemCommands.entries.nodup
  rw [Remembers, recent, List.dedup_eq_self.mpr hnodup, List.rtake,
    Nat.sub_eq_zero_of_le hbound, List.drop_zero]

/-- Only a command that is stored has an effect, and only in its epoch or before it. -/
theorem command_effect (w : Worker) (m : SystemCommand) :
    if w.lookUp? (.systemCommand m) = some (m.command.commandId, .stored) then
      w.commandEpoch ≤ m.command.commandEpoch else w.Ignores (w.handleSystemCommand m) := by
  have hsame : w.Ignores w :=
    ⟨w.seenSystemCommands, w.healthState, rfl, .inl rfl, fun _ => rfl⟩
  have hstep := system_command_step w m
  generalize w.handleSystemCommand m = w' at hstep ⊢
  generalize w.lookUp? (.systemCommand m) = outcome at hstep ⊢
  cases hstep with
  | refused => exact (if_neg nofun).mpr hsame
  | found hid w' hignores => exact (if_neg nofun).mpr hignores
  | dropped => exact (if_neg nofun).mpr hsame
  | stored hid hepoch => exact (if_pos rfl).mpr hepoch

/-- In any order of deliveries the epoch does not decrease, commands of lower epochs have no effect,
and a command_id has effect once while fewer other ones than the store can hold are remembered or
found between its deliveries. -/
theorem system_commands_once (w : Worker) (events : List NodeEvent) :
    (∀ earlier later, events = earlier ++ later →
      (w.run earlier).commandEpoch ≤ (w.run events).commandEpoch) ∧
    (∀ earlier m later, events = earlier ++ .systemCommand m :: later →
      if (w.run earlier).lookUp? (.systemCommand m) = some (m.command.commandId, .stored) then
        (w.run earlier).commandEpoch ≤ m.command.commandEpoch
      else (w.run earlier).Ignores ((w.run earlier).handleSystemCommand m)) ∧
    ∀ commandId,
      FewBetween w.seenSystemCommands.capacity commandId (usedKeys (w.lookUps events)) →
      (w.lookUps events).count (commandId, .stored) ≤ 1 := by
  refine ⟨?_, fun earlier m later _ => command_effect _ m, fun commandId hfew => ?_⟩
  · rintro earlier later rfl
    rw [run, run, List.foldl_append]
    exact epoch_le_run later _
  · exact stored_once (run_look_ups events (remembers_stored w)) hfew

/-! ### Commands that push out another one -/

def zeroDigest : String := String.ofList (.replicate 64 '0')

def pauseCommand (sessionId commandId : String) : SystemCommand where
  command := { sessionId, commandId, commandEpoch := 0, payloadDigest := zeroDigest }
  commandType := 1
  targetConveyorId := allConveyors

def pauseOf (sessionId commandId : String) : NodeEvent :=
  .systemCommand (pauseCommand sessionId commandId)

/-- Commands of one epoch are taken unless they are remembered. -/
theorem pauses_look_ups {sessionId : String} (hsession : sessionId ≠ "") (ids : List String) :
    ∀ {w : Worker} {log : List String}, w.sessionId = sessionId → w.commandEpoch = 0 →
      w.Remembers log → (∀ id ∈ ids, isUuid4 id = true) →
      w.lookUps (ids.map (pauseOf sessionId)) =
        outcomes w.seenSystemCommands.capacity log ids := by
  induction ids with
  | nil => exact fun _ _ _ _ => rfl
  | cons id ids ih =>
    intro w log hw hepoch h hids
    obtain ⟨hid, hids⟩ := List.forall_mem_cons.mp hids
    have hdigest : isSha256Hex zeroDigest = true := by decide +kernel
    have hlook : w.lookUp? (pauseOf sessionId id) = some (id,
        if id ∈ recent w.seenSystemCommands.capacity log then .found else .stored) := by
      rw [← h]
      simp [pauseOf, pauseCommand, lookUp?, hw, hsession, hid, hdigest, hepoch]
      split <;> rfl
    obtain ⟨hcapacity, hremembers⟩ := handle_remembers h (pauseOf sessionId id)
    rw [hlook] at hremembers
    have hlog : logged log (some (id, if id ∈ recent w.seenSystemCommands.capacity log then
        LookUp.found else .stored)) = log ++ [id] := by
      rw [logged]
      split <;> rfl
    rw [hlog] at hremembers
    have hsame : (w.handle (pauseOf sessionId id)).sessionId = sessionId :=
      (WorkerHistory.system_command_session w _).trans hw
    have hzero : (w.handle (pauseOf sessionId id)).commandEpoch = 0 := by
      rcases WorkerHistory.system_command_epoch w (pauseCommand sessionId id) with ⟨-, heq⟩ | heq
      · exact heq
      · exact heq.trans hepoch
    rw [List.map_cons, lookUps, hlook, ih hsame hzero hremembers hids, hcapacity]
    rfl

def hexDigit (n : ℕ) : Char := Nat.digitChar (n % 16)

def idStem : List Char := "00000000-0000-4000-8000-00000000".toList

def numberedId (n : ℕ) : String :=
  String.ofList (idStem ++
    [hexDigit (n / 4096), hexDigit (n / 256), hexDigit (n / 16), hexDigit n])

theorem hex_digit_ok (n : ℕ) : isHexDigit (hexDigit n) = true := by
  have hall : ∀ d : Fin 16, isHexDigit (Nat.digitChar d) = true := by decide
  exact hall ⟨n % 16, Nat.mod_lt n (by decide)⟩

theorem hex_digit_injective {m n : ℕ} (h : hexDigit m = hexDigit n) : m % 16 = n % 16 := by
  have hall : ∀ c d : Fin 16, Nat.digitChar c = Nat.digitChar d → c = d := by decide
  exact congrArg Fin.val (hall ⟨m % 16, Nat.mod_lt m (by decide)⟩
    ⟨n % 16, Nat.mod_lt n (by decide)⟩ h)

theorem stem_length : idStem.length = 32 := by decide +kernel

/-- What `isUuid4` asks of the character at a place. -/
def idPlace : Char × ℕ → Bool := fun (c, i) =>
  if i = 8 ∨ i = 13 ∨ i = 18 ∨ i = 23 then c = '-'
  else if i = 14 then c = '4'
  else if i = 19 then c ∈ ['8', '9', 'a', 'b', 'A', 'B']
  else isHexDigit c

theorem uuid_places (value : String) :
    isUuid4 value = (value.toList.length = 36 && value.toList.zipIdx.all idPlace) := rfl

theorem numbered_id_uuid (n : ℕ) : isUuid4 (numberedId n) = true := by
  have hstem : idStem.zipIdx.all idPlace = true := by decide +kernel
  rw [uuid_places, numberedId, String.toList_ofList, List.zipIdx_append, List.all_append, hstem,
    List.length_append, stem_length]
  simp [idPlace, hex_digit_ok]

theorem numbered_id_injective {m n : ℕ} (hm : m < 65536) (hn : n < 65536)
    (h : numberedId m = numberedId n) : m = n := by
  have hdigits := List.append_cancel_left (String.ofList_injective h)
  simp only [List.cons.injEq] at hdigits
  have h3 := hex_digit_injective hdigits.1
  have h2 := hex_digit_injective hdigits.2.1
  have h1 := hex_digit_injective hdigits.2.2.1
  have h0 := hex_digit_injective hdigits.2.2.2.1
  omega

theorem numbered_ids_nodup :
    (numberedId 4095 :: ((List.range 4095).map numberedId ++ [numberedId 4096])).Nodup := by
  have hlist : numberedId 4095 :: ((List.range 4095).map numberedId ++ [numberedId 4096]) =
      (4095 :: (List.range 4095 ++ [4096])).map numberedId := by
    rw [List.map_cons, List.map_append]
    rfl
  have hbound : ∀ m ∈ 4095 :: (List.range 4095 ++ [4096]), m < 65536 := by
    intro m hm
    simp only [List.mem_cons, List.mem_append, List.mem_range, List.not_mem_nil, or_false] at hm
    omega
  rw [hlist]
  refine List.Nodup.map_on (fun m hm n hn heq =>
    numbered_id_injective (hbound m hm) (hbound n hn) heq) ?_
  refine List.nodup_cons.mpr ⟨by simp, List.nodup_append.mpr ⟨List.nodup_range, by simp, ?_⟩⟩
  intro m hm n hn
  have := List.mem_range.mp hm
  have := List.mem_singleton.mp hn
  omega

/-- Between two successive look-ups of a command_id fewer others than the store holds are
remembered. -/
def FewRemembered (w : Worker) (events : List NodeEvent) (commandId : String) : Prop :=
  ∀ earlier outcome between outcome' later,
    w.lookUps events = earlier ++ (commandId, outcome) :: between ++
      (commandId, outcome') :: later → commandId ∉ between.map Prod.fst →
    ((between.filter (·.2 = .stored)).map Prod.fst).dedup.length < w.seenSystemCommands.capacity

/-- Commands that come again push out one that does not, and it is executed twice. -/
theorem remembered_command_runs_twice :
    ¬ ∀ (w : Worker) (events : List NodeEvent) (commandId : String),
      FewRemembered w events commandId → (w.lookUps events).count (commandId, .stored) ≤ 1 := by
  intro h
  obtain ⟨ids, hids⟩ : ∃ ids, ids = (List.range 4095).map numberedId := ⟨_, rfl⟩
  obtain ⟨k, hk⟩ : ∃ k, k = numberedId 4095 := ⟨_, rfl⟩
  obtain ⟨other, hother⟩ : ∃ other, other = numberedId 4096 := ⟨_, rfl⟩
  have hnodup : (k :: (ids ++ [other])).Nodup := by
    rw [hids, hk, hother]
    exact numbered_ids_nodup
  have hlength : ids.length = 4095 := by simp [hids]
  obtain ⟨sessionId, hsession⟩ : ∃ sessionId, sessionId = numberedId 4097 := ⟨_, rfl⟩
  have hsession : sessionId ≠ "" := by
    rw [hsession]
    decide +kernel
  let w : Worker := { interfaceVersion := "v2", masterHeartbeatTimeoutMs := 1000, sessionId }
  have huuid : ∀ id ∈ ids ++ k :: (ids ++ [other]) ++ [k], isUuid4 id = true := by
    have hin : ∀ id ∈ ids, isUuid4 id = true := by
      rw [hids]
      exact List.forall_mem_map.mpr fun n _ => numbered_id_uuid n
    have hothers : isUuid4 k = true ∧ isUuid4 other = true :=
      ⟨hk ▸ numbered_id_uuid 4095, hother ▸ numbered_id_uuid 4096⟩
    intro id hid
    simp only [List.mem_append, List.mem_cons, List.not_mem_nil, or_false] at hid
    rcases hid with (hid | rfl | hid | rfl) | rfl
    · exact hin id hid
    · exact hothers.1
    · exact hin id hid
    · exact hothers.2
    · exact hothers.1
  have hlook : w.lookUps ((ids ++ k :: (ids ++ [other]) ++ [k]).map (pauseOf sessionId)) =
      outcomes 4096 [] (ids ++ k :: (ids ++ [other]) ++ [k]) :=
    pauses_look_ups hsession _ rfl rfl rfl huuid
  have hfew : w.FewRemembered
      ((ids ++ k :: (ids ++ [other]) ++ [k]).map (pauseOf sessionId)) k := by
    intro earlier outcome between outcome' later hsplit hk
    rw [hlook] at hsplit
    obtain rfl := pushed_between hnodup (by omega) hk hsplit
    have hne : ids ≠ [] := List.length_pos_iff.mp (by omega)
    refine ((List.dedup_sublist _).length_le.trans_eq (List.length_map _)).trans_lt ?_
    exact few_stored_between hnodup (by omega) hne
  have hcount := h w _ k hfew
  rw [hlook, outcomes_pushed hnodup (by omega)] at hcount
  simp only [List.count_append, List.count_cons_self, List.count_nil] at hcount
  omega

end Worker

end InspectionLine
