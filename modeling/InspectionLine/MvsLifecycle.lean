import InspectionLine.MvsBackend

/-! # Opening and closing all cameras

Whatever the library answers, the backend holds either all cameras, each configured and streaming,
or none, and what it does not hold is handed back. -/
namespace InspectionLine.Mvs

open ByteFrames RaisingPrograms

section
variable {sdk : Sdk} {settings : MvsBackendSettings}

/-- The camera streams as the settings of its station say. -/
def Open (settings : MvsBackendSettings) (serial : String) (s : MvsState) : Prop :=
  ∃ stationId, settings.stationBySerial.get? serial = some stationId ∧
    Streaming settings stationId 0 serial s

/-- The camera is open or nothing of it is; and if it is `dry`, its queue of frames is empty. -/
structure Mode (settings : MvsBackendSettings) (on dry : Prop) (serial : String) (s : MvsState) :
    Prop where
  held : on → Open settings serial s
  idle : ¬ on → Idle serial s
  emptied : dry → (s.devices serial).emptied = true

/-- The cameras of `S` are held and no others; those of `D` have no frame waiting. -/
def Held (settings : MvsBackendSettings) (S D : String → Prop) (s : MvsState) : Prop :=
  ∀ serial, Mode settings (S serial) (D serial) serial s

/-- Beside the cameras: the backend's own state, the actions so far, and the files other than those
of `F` since `s₀`. -/
structure Kept (F : String → Prop) (s₀ : MvsState) (b : BackendState) (actions : List IssuedAction)
    (s : MvsState) : Prop where
  asked : s₀.asked ≤ s.asked
  backend : s.backend = b
  files : ∀ path, ¬ F path → s.files path = s₀.files path
  actions : s.actions = actions

structure Stands (settings : MvsBackendSettings) (S D F : String → Prop) (s₀ : MvsState)
    (b : BackendState) (actions : List IssuedAction) (s : MvsState) : Prop where
  held : Held settings S D s
  kept : Kept F s₀ b actions s

def NoCamera : String → Prop := fun _ => False

theorem Streaming.moved {stationId : ℕ} {out : ℤ} {serial : String} {s s' : MvsState}
    (h : Streaming settings stationId out serial s) (hdevice : s'.devices serial = s.devices serial)
    (hcamera : s'.cameras serial = s.cameras serial) :
    Streaming settings stationId out serial s' := by
  refine ⟨?_, ?_, ?_, ?_, ?_⟩
  · exact hdevice ▸ h.owed
  · exact hcamera ▸ h.opened
  · exact hcamera ▸ h.grabbing
  · exact hdevice ▸ h.configured
  · exact hdevice ▸ hcamera ▸ h.corrected

theorem Mode.moved {on dry : Prop} {serial : String} {s s' : MvsState}
    (h : Mode settings on dry serial s) (hdevice : s'.devices serial = s.devices serial)
    (hcamera : s'.cameras serial = s.cameras serial) : Mode settings on dry serial s' := by
  refine ⟨fun hon => ?_, fun hoff => ?_, fun hdry => ?_⟩
  · obtain ⟨stationId, hstation, hstream⟩ := h.held hon
    exact ⟨stationId, hstation, hstream.moved hdevice hcamera⟩
  · exact (congrArg Device.owed hdevice).trans (h.idle hoff)
  · exact hdevice ▸ h.emptied hdry

theorem Held.moved {S D : String → Prop} {s s' : MvsState} (h : Held settings S D s)
    (hdevices : s'.devices = s.devices) (hcameras : s'.cameras = s.cameras) :
    Held settings S D s' :=
  fun serial => (h serial).moved (congrFun hdevices serial) (congrFun hcameras serial)

theorem Kept.within {S F : String → Prop} {s₀ s s' : MvsState} {b : BackendState}
    {actions : List IssuedAction} (h : Kept F s₀ b actions s) (hwithin : Within S F s s') :
    Kept F s₀ b actions s' where
  asked := h.asked.trans hwithin.asked
  backend := hwithin.backend.trans h.backend
  files path hpath := (hwithin.files path hpath).trans (h.files path hpath)
  actions := hwithin.actions.trans h.actions

variable {S D F : String → Prop} {s₀ : MvsState} {b : BackendState} {actions : List IssuedAction}

/-- A program of one camera, told of that camera alone, in the midst of the others. -/
theorem stands_step {α : Type} {T V U W : String → Prop} {serial : String} {p : MvsProgram α}
    {N : Prop} (hlocal : Local (· = serial) F p)
    (hp : Meets (Mode settings (S serial) (D serial) serial) p
      (fun _ => Mode settings (T serial) (V serial) serial)
      (fun _ s => N ∧ Mode settings (U serial) (W serial) serial s))
    (hT : ∀ c, c ≠ serial → (T c ↔ S c) ∧ (V c → D c))
    (hU : ∀ c, c ≠ serial → (U c ↔ S c) ∧ (W c → D c)) :
    Meets (Stands settings S D F s₀ b actions) p
      (fun _ => Stands settings T V F s₀ b actions)
      (fun _ s => N ∧ Stands settings U W F s₀ b actions s) := by
  have hothers : ∀ {A B : String → Prop} {s s' : MvsState}, Held settings S D s →
      Within (· = serial) F s s' → (∀ c, c ≠ serial → (A c ↔ S c) ∧ (B c → D c)) →
      Mode settings (A serial) (B serial) serial s' → Held settings A B s' := by
    intro A B s s' hheld hwithin hsame hmode c
    by_cases hc : c = serial
    · subst hc
      exact hmode
    · have hmoved := (hheld c).moved (hwithin.devices c hc) (hwithin.cameras c hc)
      obtain ⟨hon, hdry⟩ := hsame c hc
      exact ⟨fun h => hmoved.held (hon.mp h), fun h => hmoved.idle (h ∘ hon.mpr),
        fun h => hmoved.emptied (hdry h)⟩
  intro s hs
  have hend := hp s (hs.held serial)
  have hwithin := hlocal s s (Within.refl s)
  cases hrun : p s with
  | ok a s' =>
    rw [hrun] at hend hwithin
    exact ⟨hothers hs.held hwithin hT hend, hs.kept.within hwithin⟩
  | error e s' =>
    rw [hrun] at hend hwithin
    exact ⟨hend.1, hothers hs.held hwithin hU hend.2, hs.kept.within hwithin⟩

theorem stands_modify_backend (f : BackendState → BackendState) {E : MvsError → MvsState → Prop} :
    Meets (Stands settings S D F s₀ b actions) (modifyBackend f)
      (fun _ => Stands settings S D F s₀ (f b) actions) E := by
  intro s h
  exact ⟨h.held.moved rfl rfl, h.kept.asked, congrArg f h.kept.backend, h.kept.files,
    h.kept.actions⟩

theorem stands_ask {α : Type} (answers : ℕ → α) {E : MvsError → MvsState → Prop} :
    Meets (Stands settings S D F s₀ b actions) (ask answers)
      (fun _ => Stands settings S D F s₀ b actions) E :=
  meets_ask fun _ h => ⟨h.held.moved rfl rfl, Nat.le_succ_of_le h.kept.asked, h.kept.backend,
    h.kept.files, h.kept.actions⟩

theorem Stands.weaken {D' : String → Prop} {s : MvsState}
    (h : Stands settings S D F s₀ b actions s) (hD : ∀ c, D' c → D c) :
    Stands settings S D' F s₀ b actions s :=
  ⟨fun c => ⟨(h.held c).held, (h.held c).idle, (h.held c).emptied ∘ hD c⟩, h.kept⟩

theorem Stands.congr {S' : String → Prop} {s : MvsState}
    (h : Stands settings S D F s₀ b actions s) (hS : ∀ c, S' c ↔ S c) :
    Stands settings S' D F s₀ b actions s :=
  ⟨fun c => ⟨(h.held c).held ∘ (hS c).mp, fun hc => (h.held c).idle (hc ∘ (hS c).mpr),
    (h.held c).emptied⟩, h.kept⟩

/-! ### Close -/

theorem Open.poised {serial : String} {s : MvsState} (h : Open settings serial s) :
    Poised serial s := by
  obtain ⟨_, _, hstream⟩ := h
  rw [Poised, hstream.owed, hstream.opened, hstream.grabbing]
  rfl

theorem stands_close_session {serial : String} (hserial : S serial)
    {E : MvsError → MvsState → Prop} :
    Meets (Stands settings S D F s₀ b actions) (closeSession sdk serial)
      (fun _ => Stands settings (fun c => S c ∧ c ≠ serial) NoCamera F s₀ b actions) E := by
  refine meets_weaken (stands_step (N := False) (U := S) (W := D) (local_close_session rfl)
    (meets_weaken meets_close_session (fun _ h => (h.held hserial).poised) (fun _ _ h => ?_)
      fun _ _ => False.elim) ?_ fun _ _ => ⟨Iff.rfl, id⟩) (fun _ h => h) (fun _ _ h => h)
    fun _ _ h => h.1.elim
  · exact ⟨fun hon => absurd rfl hon.2, fun _ => h, False.elim⟩
  · exact fun c hc => ⟨and_iff_left hc, False.elim⟩

/-- Sessions are closed one after another, the last one that was opened first. -/
theorem stands_close_all {serials : List String} (hnodup : serials.Nodup)
    (hserials : ∀ c ∈ serials, S c) {E : MvsError → MvsState → Prop} :
    Meets (Stands settings S D F s₀ b actions) (closeAll sdk serials)
      (fun _ => Stands settings (fun c => S c ∧ c ∉ serials) NoCamera F s₀ b actions) E := by
  have hloop : Meets (Stands settings (fun c => S c ∧ c ∉ []) NoCamera F s₀ b actions)
      (closeAll sdk serials)
      (fun _ => Stands settings (fun c => S c ∧ c ∉ serials.reverse) NoCamera F s₀ b actions)
      E := by
    refine meets_for_m (I := fun done =>
      Stands settings (fun c => S c ∧ c ∉ done) NoCamera F s₀ b actions) ?_
    intro done c rest hsplit
    have hmem : c ∈ serials := by
      rw [← List.mem_reverse, hsplit]
      exact List.mem_append_right _ List.mem_cons_self
    have hnew : c ∉ done := by
      have hreverse := List.nodup_reverse.mpr hnodup
      rw [hsplit] at hreverse
      exact fun hdone => (List.nodup_append.mp hreverse).2.2 c hdone c List.mem_cons_self rfl
    refine meets_weaken (stands_close_session ⟨hserials c hmem, hnew⟩) (fun _ h => h)
      (fun _ s h => h.congr fun x => ?_) fun _ _ h => h
    rw [List.mem_append, List.mem_singleton, not_or, and_assoc]
  refine meets_weaken hloop (fun s h => ?_) (fun _ s h => h.congr fun c => ?_) fun _ _ h => h
  · exact (h.weaken fun _ => False.elim).congr fun c => and_iff_left List.not_mem_nil
  · rw [List.mem_reverse]

theorem stands_close_held {serials : List String} (hnodup : serials.Nodup)
    {E : MvsError → MvsState → Prop} :
    Meets (Stands settings (· ∈ serials) D F s₀ b actions) (closeAll sdk serials)
      (fun _ => Stands settings NoCamera NoCamera F s₀ b actions) E :=
  meets_weaken (stands_close_all hnodup fun _ h => h) (fun _ h => h)
    (fun _ _ h => h.congr fun _ => ⟨False.elim, fun hc => hc.2 hc.1⟩) fun _ _ h => h

/-! ### Open -/

theorem stands_open_session {serial : String} {stationId : ℕ} (hserial : ¬ S serial)
    (hstation : settings.stationBySerial.get? serial = some stationId) :
    Meets (Stands settings S NoCamera F s₀ b actions) (openSession sdk settings serial stationId)
      (fun _ => Stands settings (fun c => S c ∨ c = serial) NoCamera F s₀ b actions)
      (fun _ => Stands settings S NoCamera F s₀ b actions) := by
  refine meets_weaken (stands_step (N := True) (U := S) (W := NoCamera)
    (T := fun c => S c ∨ c = serial) (V := NoCamera)
    (local_open_session (S := (· = serial)) rfl stationId) ?_ ?_ fun _ _ => ⟨Iff.rfl, id⟩)
    (fun _ h => h) (fun _ _ h => h) fun _ _ h => h.2
  · refine meets_weaken meets_open_session (fun _ h => h.idle hserial) (fun _ s h => ?_)
      fun _ _ h => ⟨trivial, fun hon => absurd hon hserial, fun _ => h, False.elim⟩
    exact ⟨fun _ => ⟨stationId, hstation, h⟩, fun hoff => absurd (.inr rfl) hoff, False.elim⟩
  · exact fun c hc => ⟨or_iff_left hc, id⟩

/-- All cameras are opened, or those that were are closed again. -/
theorem stands_open_all {records : OrderedDict String CameraInventoryEntry}
    (hrecords : ∀ serial record, records.get? serial = some record →
      settings.stationBySerial.get? serial = some record.stationId)
    (serials opened : List String) (hnodup : (opened ++ serials).Nodup) :
    Meets (Stands settings (· ∈ opened) NoCamera F s₀ b actions)
      (openAll sdk settings records serials opened)
      (fun l s => l = opened ++ serials ∧
        Stands settings (· ∈ opened ++ serials) NoCamera F s₀ b actions s)
      (fun _ => Stands settings NoCamera NoCamera F s₀ b actions) := by
  induction serials generalizing opened with
  | nil =>
    rw [List.append_nil]
    exact fun _ h => ⟨rfl, h⟩
  | cons serial serials ih =>
    have hnew : serial ∉ opened := fun hmem =>
      (List.nodup_append.mp hnodup).2.2 serial hmem serial List.mem_cons_self rfl
    have hopened : opened.Nodup := (List.nodup_append.mp hnodup).1
    rw [List.append_cons] at hnodup ⊢
    refine meets_bind (R := fun _ => Stands settings (· ∈ opened ++ [serial]) NoCamera F s₀ b
      actions) (meets_catch (R := fun _ => Stands settings (· ∈ opened) NoCamera F s₀ b actions)
      ?_ fun e => ?_) fun _ => ih (opened ++ [serial]) hnodup
    · refine meets_bind (R := fun record s => records.get? serial = some record ∧
        Stands settings (· ∈ opened) NoCamera F s₀ b actions s) ?_ fun record =>
        meets_of_fact fun hrecord => ?_
      · exact meets_of_except (fun _ hlookup _ h => ⟨lookup_ok hlookup, h⟩) fun _ _ _ h => h
      · refine meets_weaken (stands_open_session hnew (hrecords serial record hrecord))
          (fun _ h => h) (fun _ _ h => h.congr fun c => ?_) fun _ _ h => h
        rw [List.mem_append, List.mem_singleton]
    · exact meets_bind (stands_close_held hopened) fun _ => meets_throw _
        (fun _ => Stands settings NoCamera NoCamera F s₀ b actions) e

/-! ### All cameras or none -/

def Down (settings : MvsBackendSettings) (F : String → Prop) (s₀ : MvsState)
    (actions : List IssuedAction) (s : MvsState) : Prop :=
  ∃ b : BackendState, (b.sessions = [] ∧ b.initialized = false) ∧
    Stands settings NoCamera NoCamera F s₀ b actions s

/-- The backend has checked all there is to check, and has its cameras. -/
structure Ready (sdk : Sdk) (settings : MvsBackendSettings) (b : BackendState) : Prop where
  sessions : b.sessions = settings.expectedSerials
  initialized : b.initialized = true
  closed : b.closed = false
  modulesLoaded : b.modulesLoaded = true
  valid : settings.validate sdk.isIpAddress = .ok ()
  inventory : InventoryChecked settings b.firmwareVersion b.inventory

def Up (sdk : Sdk) (settings : MvsBackendSettings) (F : String → Prop) (s₀ : MvsState)
    (actions : List IssuedAction) (s : MvsState) : Prop :=
  ∃ b, Ready sdk settings b ∧
    Stands settings (· ∈ settings.expectedSerials) NoCamera F s₀ b actions s

def UpOrDown (sdk : Sdk) (settings : MvsBackendSettings) (F : String → Prop) (s₀ : MvsState)
    (actions : List IssuedAction) (s : MvsState) : Prop :=
  Down settings F s₀ actions s ∨ Up sdk settings F s₀ actions s

theorem stands_of_except {α : Type} {x : Except MvsError α} :
    Meets (Stands settings S D F s₀ b actions) (ofExcept x)
      (fun a s => x = .ok a ∧ Stands settings S D F s₀ b actions s)
      (fun _ => Stands settings S D F s₀ b actions) :=
  meets_of_except (fun _ hx _ h => ⟨hx, h⟩) fun _ _ _ h => h

theorem stands_enumerate_devices :
    Meets (Stands settings S D F s₀ b actions) (enumerateDevices sdk settings)
      (fun entries s => (∀ entry ∈ entries,
          settings.stationBySerial.get? entry.serial = some entry.stationId) ∧
        Stands settings S D F s₀ b actions s)
      (fun _ => Stands settings S D F s₀ b actions) := by
  refine meets_bind (stands_ask _) fun answer => meets_bind (meets_weaken stands_of_except
    (fun _ h => h) (fun _ _ h => h.2) fun _ _ h => h) fun answered =>
    meets_bind (R := fun _ => Stands settings S D F s₀ b actions)
      (meets_ensure (fun _ _ h => h) fun _ _ h => h) fun _ s h => ⟨?_, h⟩
  intro entry hmem
  obtain ⟨info, _, hentry⟩ := List.mem_filterMap.mp hmem
  obtain ⟨stationId, hstation, heq⟩ := Option.map_eq_some_iff.mp hentry
  subst heq
  exact hstation

theorem meets_load_modules (hdown : b.sessions = [] ∧ b.initialized = false)
    (hopen : b.closed = false) :
    Meets (Stands settings NoCamera NoCamera F s₀ b actions)
      (doUnless b.modulesLoaded (loadModules sdk))
      (fun _ s => ∃ b' : BackendState, ((b'.sessions = [] ∧ b'.initialized = false) ∧
          b'.closed = false ∧ b'.modulesLoaded = true) ∧
        Stands settings NoCamera NoCamera F s₀ b' actions s)
      (fun _ => Down settings F s₀ actions) := by
  refine meets_do_unless (fun hloaded s h => ⟨b, ⟨hdown, hopen, hloaded⟩, h⟩) fun _ => ?_
  refine meets_bind (stands_ask _) fun loaded => meets_bind (meets_weaken stands_of_except
    (fun _ h => h) (fun _ _ h => h.2) fun _ _ h => ⟨b, hdown, h⟩) fun _ =>
    meets_bind (stands_modify_backend _) fun _ => meets_bind (stands_ask _) fun answer =>
    meets_bind (meets_weaken stands_of_except (fun _ h => h) (fun _ _ h => h.2) fun _ _ h =>
      ⟨{ b with modulesLoaded := true }, hdown, h⟩) fun version => ?_
  exact meets_weaken (stands_modify_backend _) (fun _ h => h)
    (fun _ _ h => ⟨{ b with modulesLoaded := true, sdkVersion := codeText version },
      ⟨hdown, hopen, rfl⟩, h⟩) fun _ _ h => h

theorem meets_initialize_once (hvalid : settings.validate sdk.isIpAddress = .ok ())
    (hdown : b.sessions = [] ∧ b.initialized = false) (hopen : b.closed = false) :
    Meets (Stands settings NoCamera NoCamera F s₀ b actions) (initializeOnce sdk settings)
      (fun _ => Up sdk settings F s₀ actions) (fun _ => Down settings F s₀ actions) := by
  have hnodup := (validate_ok hvalid).nodup
  refine meets_get_bind fun s₁ => meets_bind (R := fun _ s => ∃ b' : BackendState,
    ((b'.sessions = [] ∧ b'.initialized = false) ∧ b'.closed = false ∧ b'.modulesLoaded = true) ∧
      Stands settings NoCamera NoCamera F s₀ b' actions s) ?_ fun _ =>
    meets_exists fun b₁ hb₁ => ?_
  · rintro s ⟨rfl, hs⟩
    rw [hs.kept.backend]
    exact meets_load_modules hdown hopen s hs
  have hfail : ∀ {f : BackendState → BackendState}, (f b₁).sessions = b₁.sessions →
      (f b₁).initialized = b₁.initialized → ∀ s, Stands settings NoCamera NoCamera F s₀ (f b₁)
        actions s → Down settings F s₀ actions s := fun hsessions hinitialized s h =>
    ⟨_, ⟨hsessions.trans hb₁.1.1, hinitialized.trans hb₁.1.2⟩, h⟩
  refine meets_bind (meets_weaken stands_enumerate_devices (fun _ h => h) (fun _ _ h => h)
    fun _ => hfail (f := id) rfl rfl) fun entries => meets_of_fact fun hstations =>
    meets_bind (meets_weaken stands_of_except (fun _ h => h) (fun _ _ h => h)
      fun _ => hfail (f := id) rfl rfl) fun firmware => meets_of_fact fun hinventory =>
    meets_bind (stands_modify_backend _) fun _ => ?_
  have hrecords : ∀ serial record, (bySerial entries).get? serial = some record →
      settings.stationBySerial.get? serial = some record.stationId := by
    intro serial record hget
    obtain ⟨hmem, hserial⟩ := by_serial_mem hget
    subst hserial
    exact hstations record hmem
  refine meets_bind (meets_weaken (stands_open_all hrecords settings.expectedSerials []
    (by rwa [List.nil_append])) (fun s h => h.congr fun c => ?_) (fun _ _ h => h)
    fun _ => hfail (f := fun b => { b with firmwareVersion := firmware }) rfl rfl)
    fun opened => meets_of_fact fun hopened => meets_get_bind fun s₂ => ?_
  · exact ⟨fun hmem => absurd hmem List.not_mem_nil, False.elim⟩
  · rw [List.nil_append] at hopened
    subst hopened
    refine meets_weaken (stands_modify_backend _) (fun _ h => h.2) (fun _ s h => ⟨_, ?_, h⟩)
      fun _ _ h => h
    exact ⟨rfl, rfl, hb₁.2.1, hb₁.2.2, hvalid, validate_inventory_ok hinventory⟩

/-- A backend that was closed stays down. -/
theorem meets_initialize :
    Meets (UpOrDown sdk settings F s₀ actions) (initializeBackend sdk settings)
      (fun _ => Up sdk settings F s₀ actions) (fun _ => Down settings F s₀ actions) := by
  refine meets_or (meets_exists fun b hdown => meets_get_bind fun s₁ => ?_)
    (meets_exists fun b hready => meets_get_bind fun s₁ => ?_)
  · rintro s ⟨rfl, hs⟩
    rw [hs.kept.backend, hdown.2]
    revert s
    refine meets_bind (R := fun _ s => b.closed = false ∧
      Stands settings NoCamera NoCamera F s₀ b actions s) ?_ fun _ => meets_of_fact fun hopen =>
      meets_bind (meets_weaken stands_of_except (fun _ h => h) (fun _ _ h => h)
        fun _ _ h => ⟨b, hdown, h⟩) fun _ => meets_of_fact fun hvalid =>
      meets_initialize_once hvalid hdown hopen
    exact meets_ensure (fun hopen _ h => ⟨by simpa using hopen, h⟩) fun _ _ h => ⟨b, hdown, h⟩
  · rintro s ⟨rfl, hs⟩
    rw [hs.kept.backend, hready.initialized, hready.closed]
    exact ⟨b, hready, hs⟩

theorem stands_close_sessions (hnodup : b.sessions.Nodup) {E : MvsError → MvsState → Prop} :
    Meets (Stands settings (· ∈ b.sessions) D F s₀ b actions) (closeSessions sdk)
      (fun _ => Stands settings NoCamera NoCamera F s₀
        { b with sessions := [], initialized := false } actions) E := by
  refine meets_get_bind fun s₁ => ?_
  rintro s ⟨rfl, hs⟩
  rw [hs.kept.backend]
  revert s
  exact meets_bind (stands_close_held hnodup) fun _ => stands_modify_backend _

theorem meets_close_sessions {E : MvsError → MvsState → Prop} :
    Meets (UpOrDown sdk settings F s₀ actions) (closeSessions sdk)
      (fun _ => Down settings F s₀ actions) E := by
  refine meets_or (meets_exists fun b hdown => ?_) (meets_exists fun b hready => ?_)
  · refine meets_weaken (stands_close_sessions (hdown.1 ▸ List.nodup_nil)) (fun _ h => h.congr ?_)
      (fun _ _ h => ⟨_, ⟨rfl, rfl⟩, h⟩) fun _ _ h => h
    intro c
    rw [hdown.1]
    exact ⟨fun hmem => absurd hmem List.not_mem_nil, False.elim⟩
  · have hsessions := hready.sessions
    rw [← hsessions]
    exact meets_weaken (stands_close_sessions (hsessions ▸ (validate_ok hready.valid).nodup))
      (fun _ h => h) (fun _ _ h => ⟨_, ⟨rfl, rfl⟩, h⟩) fun _ _ h => h

theorem meets_close {E : MvsError → MvsState → Prop} :
    Meets (UpOrDown sdk settings F s₀ actions) (close sdk)
      (fun _ => Down settings F s₀ actions) E := by
  have hclose : Meets (UpOrDown sdk settings F s₀ actions) (do
        closeSessions sdk
        modifyBackend fun b => { b with closed := true })
      (fun _ => Down settings F s₀ actions) E := by
    refine meets_bind meets_close_sessions fun _ => meets_exists fun b hdown => ?_
    exact meets_weaken (stands_modify_backend _) (fun _ h => h)
      (fun _ _ h => ⟨{ b with closed := true }, hdown, h⟩) fun _ _ h => h
  refine meets_get_bind fun s₁ => meets_do_unless (fun hclosed s ⟨heq, h⟩ => ?_) fun _ =>
    meets_weaken hclose (fun _ h => h.2) (fun _ _ h => h) fun _ _ h => h
  subst heq
  refine h.resolve_right fun ⟨b, hready, hs⟩ => ?_
  rw [hs.kept.backend, hready.closed] at hclosed
  cases hclosed

/-- Each attempt starts from no camera at all. -/
theorem meets_reconnect (attempts : ℕ) (lastError : Option MvsError) :
    Meets (Down settings F s₀ actions) (reconnect sdk settings attempts lastError)
      (fun _ => Up sdk settings F s₀ actions)
      (fun e s => e.isSdkError = true ∧ Down settings F s₀ actions s) := by
  induction attempts generalizing lastError with
  | zero => exact fun _ h => ⟨rfl, h⟩
  | succ attempts ih =>
    refine meets_catch (meets_weaken meets_initialize (fun _ h => .inl h) (fun _ _ h => h)
      fun _ _ h => h) fun e => ?_
    exact meets_bind (meets_weaken meets_close_sessions (fun _ h => .inl h) (fun _ _ h => h)
      fun _ _ h => h) fun _ => ih (some e)

theorem meets_initialize_with_reconnect :
    Meets (UpOrDown sdk settings F s₀ actions) (initializeWithReconnect sdk settings)
      (fun _ => Up sdk settings F s₀ actions)
      (fun e s => e.isSdkError = true ∧ Down settings F s₀ actions s) := by
  refine meets_or (meets_reconnect _ _) (meets_exists fun b hready => ?_)
  -- checked settings allow one attempt at least, and it finds the cameras there
  obtain ⟨attempts, hattempts⟩ := Nat.exists_eq_add_one_of_ne_zero
    (show settings.reconnectMaxAttempts.toNat ≠ 0 by
      have := (validate_ok hready.valid).attempts
      omega)
  unfold initializeWithReconnect
  rw [hattempts]
  refine meets_catch (R := fun _ => Down settings F s₀ actions) ?_ fun e =>
    meets_bind (meets_weaken meets_close_sessions (fun _ h => .inl h) (fun _ _ h => h)
      fun _ _ h => h) fun _ => meets_reconnect attempts (some e)
  exact meets_weaken meets_initialize (fun _ h => .inr ⟨b, hready, h⟩) (fun _ _ h => h)
    fun _ _ h => h

end

end InspectionLine.Mvs
