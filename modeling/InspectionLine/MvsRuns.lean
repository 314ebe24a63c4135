import InspectionLine.MvsCaptures

/-! # Runs of the capture backend

Any operations, one after another, against any library: the backend has all its cameras or none,
and what a capture hands over passes the checks of the node that asked for it. -/
namespace InspectionLine.Mvs

open ByteFrames RaisingPrograms SuccessfulRuns

inductive Operation where
  | initializeBackend
  | initializeWithReconnect
  | deinitializeBackend
  | close
  | capture (request : CaptureRequest)

section
variable (sdk : Sdk) (settings : MvsBackendSettings)

def programOf : Operation → MvsProgram Unit
  | .initializeBackend => initializeBackend sdk settings
  | .initializeWithReconnect => initializeWithReconnect sdk settings
  | .deinitializeBackend => deinitialize sdk
  | .close => close sdk
  | .capture request => do let _ ← captureStation sdk settings request

/-- A new backend, with registers and files as they are. -/
def MvsState.start (registers : String → String → Option RegisterValue)
    (files : String → Option Bytes) : MvsState where
  asked := 0
  devices serial := ⟨Owed.of false false false, registers serial, fun _ => .unread, false⟩
  cameras _ := .fresh
  backend := ⟨false, "", [], [], [], "", false, false⟩
  files
  actions := []

/-- The state that an operation ends in, whether it raises or not. -/
def after {α : Type} (p : MvsProgram α) (s : MvsState) : MvsState :=
  match p s with
  | .ok _ s' => s'
  | .error _ s' => s'

def run (operations : List Operation) (s : MvsState) : MvsState :=
  operations.foldl (fun s operation => after (programOf sdk settings operation) s) s

/-- All cameras are held, each with its handle, its connection and its stream, no frame buffer out,
the registers as configured and the corrections looked into; or no camera is owed a closing call.
Every action found the cameras of its station streaming and without a frame waiting. -/
structure Sound (s : MvsState) : Prop where
  sessions : s.backend.sessions = if s.backend.initialized then settings.expectedSerials else []
  held : ∀ serial ∈ s.backend.sessions, Open settings serial s
  released : ∀ serial, serial ∉ s.backend.sessions → Idle serial s
  ready : s.backend.initialized = true → Ready sdk settings s.backend
  actions : ∀ action ∈ s.actions, action.allRunning = true ∧ action.allEmptied = true

end

section
variable {sdk : Sdk} {settings : MvsBackendSettings} {F : String → Prop} {s₀ s : MvsState}
  {actions : List IssuedAction}

theorem Sound.up_or_down (h : Sound sdk settings s) :
    UpOrDown sdk settings NoFile s s.actions s := by
  have hkept : Kept NoFile s s.backend s.actions s := ⟨le_rfl, rfl, fun _ _ => rfl, rfl⟩
  have hsessions := h.sessions
  cases hinitialized : s.backend.initialized with
  | false =>
    rw [hinitialized] at hsessions
    refine .inl ⟨s.backend, ⟨hsessions, hinitialized⟩, fun serial => ⟨False.elim, fun _ => ?_,
      False.elim⟩, hkept⟩
    refine h.released serial fun hmem => ?_
    rw [hsessions] at hmem
    cases hmem
  | true =>
    rw [hinitialized] at hsessions
    refine .inr ⟨s.backend, h.ready hinitialized, fun serial => ⟨fun hmem => ?_, fun hmem => ?_,
      False.elim⟩, hkept⟩
    · exact h.held serial (hsessions ▸ hmem)
    · exact h.released serial (hsessions ▸ hmem)

theorem UpOrDown.sound (h : UpOrDown sdk settings F s₀ actions s)
    (hactions : ∀ action ∈ actions, action.allRunning = true ∧ action.allEmptied = true) :
    Sound sdk settings s := by
  rcases h with ⟨b, hdown, hs⟩ | ⟨b, hready, hs⟩
  · refine ⟨?_, ?_, fun serial _ => (hs.held serial).idle id, ?_, hs.kept.actions ▸ hactions⟩
    · rw [hs.kept.backend, hdown.1, hdown.2]
      rfl
    · rw [hs.kept.backend, hdown.1]
      exact fun _ hmem => absurd hmem List.not_mem_nil
    · rw [hs.kept.backend, hdown.2]
      exact fun h => by cases h
  · refine ⟨?_, ?_, ?_, fun _ => hs.kept.backend ▸ hready, hs.kept.actions ▸ hactions⟩
    · rw [hs.kept.backend, hready.sessions, hready.initialized]
      rfl
    · rw [hs.kept.backend, hready.sessions]
      exact fun serial hmem => (hs.held serial).held hmem
    · rw [hs.kept.backend, hready.sessions]
      exact fun serial hmem => (hs.held serial).idle hmem

/-! ### Runs -/

theorem ready_actions {stationId : ℕ} {actions' : List IssuedAction}
    (h : ∀ action ∈ actions, action.allRunning = true ∧ action.allEmptied = true)
    (hone : OneMore stationId actions actions') :
    ∀ action ∈ actions', action.allRunning = true ∧ action.allEmptied = true := by
  rcases hone with rfl | rfl
  · exact h
  · intro action hmem
    rcases List.mem_append.mp hmem with hmem | hmem
    · exact h action hmem
    · rw [List.mem_singleton.mp hmem]
      exact ⟨rfl, rfl⟩

theorem after_meets {α : Type} {p : MvsProgram α} {P I : MvsState → Prop}
    (h : Meets P p (fun _ => I) (fun _ => I)) (hs : P s) : I (after p s) := by
  have hend := h s hs
  unfold after
  split
  · rename_i hrun
    rw [hrun] at hend
    exact hend
  · rename_i hrun
    rw [hrun] at hend
    exact hend

theorem sound_after (operation : Operation) (h : Sound sdk settings s) :
    Sound sdk settings (after (programOf sdk settings operation) s) := by
  have hup := h.up_or_down
  have hready := h.actions
  have hsame : ∀ {s'}, UpOrDown sdk settings NoFile s s.actions s' → Sound sdk settings s' :=
    fun hs' => hs'.sound hready
  cases operation with
  | initializeBackend =>
    exact after_meets (meets_weaken meets_initialize (fun _ h => h)
      (fun _ _ h => hsame (.inr h)) fun _ _ h => hsame (.inl h)) hup
  | initializeWithReconnect =>
    exact after_meets (meets_weaken meets_initialize_with_reconnect (fun _ h => h)
      (fun _ _ h => hsame (.inr h)) fun _ _ h => hsame (.inl h.2)) hup
  | deinitializeBackend =>
    exact after_meets (meets_weaken (meets_close_sessions (E := fun _ => Down settings NoFile s
      s.actions)) (fun _ h => h) (fun _ _ h => hsame (.inl h)) fun _ _ h => hsame (.inl h)) hup
  | close =>
    exact after_meets (meets_weaken (meets_close (E := fun _ => Down settings NoFile s
      s.actions)) (fun _ h => h) (fun _ _ h => hsame (.inl h)) fun _ _ h => hsame (.inl h)) hup
  | capture request =>
    refine after_meets (P := fun s' => s' = s) (meets_bind (meets_weaken
      (meets_capture_station request hup) (fun _ h => h) (fun _ _ h => ?_) fun _ _ h => ?_)
      fun _ => keeps_pure _) rfl
    · obtain ⟨_, _, hend⟩ := h
      exact UpOrDown.sound (.inr hend) (ready_actions hready (.inr rfl))
    · obtain ⟨_, _, _, hone, hend⟩ := h
      exact hend.sound (ready_actions hready hone)

theorem sound_start (registers : String → String → Option RegisterValue)
    (files : String → Option Bytes) : Sound sdk settings (.start registers files) where
  sessions := rfl
  held _ hmem := absurd hmem List.not_mem_nil
  released _ _ := rfl
  ready h := by cases h
  actions _ hmem := absurd hmem List.not_mem_nil

theorem sound_run {s : MvsState} (h : Sound sdk settings s) (operations : List Operation) :
    Sound sdk settings (run sdk settings operations s) := by
  induction operations generalizing s with
  | nil => exact h
  | cons operation operations ih => exact ih (sound_after operation h)

/-- Whatever the library answers, and whatever the operations raise. -/
theorem backend_sound (sdk : Sdk) (settings : MvsBackendSettings)
    (registers : String → String → Option RegisterValue) (files : String → Option Bytes)
    (operations : List Operation) :
    Sound sdk settings (run sdk settings operations (.start registers files)) :=
  sound_run (sound_start registers files) operations

/-- A capture hands over a whole batch, or leaves nothing of it behind. -/
theorem capture_outcome (sdk : Sdk) (settings : MvsBackendSettings)
    (registers : String → String → Option RegisterValue) (files : String → Option Bytes)
    (operations : List Operation) (request : CaptureRequest) :
    let s := run sdk settings operations (.start registers files)
    match captureStation sdk settings request s with
    | .ok batch s' => Taken sdk settings request s batch s' ∧ s'.backend.initialized = true
    | .error e s' => Abandoned sdk settings request s e s' := by
  intro s
  have hcapture : Meets (fun s' => s' = s) (captureStation sdk settings request)
      (fun batch s' => Taken sdk settings request s batch s' ∧ s'.backend.initialized = true)
      (Abandoned sdk settings request s) := by
    have hsound := @sound_run sdk settings _ (sound_start registers files) operations
    refine meets_weaken (meets_capture_station request hsound.up_or_down) (fun _ h => h)
      (fun _ _ h => ⟨h.1, ?_⟩) fun _ _ h => h.1
    obtain ⟨_, _, hup⟩ := h
    exact hup.initialized
  have hend := hcapture s rfl
  cases hrun : captureStation sdk settings request s with
  | ok batch s' =>
    rw [hrun] at hend
    exact hend
  | error e s' =>
    rw [hrun] at hend
    exact hend

end

end InspectionLine.Mvs
