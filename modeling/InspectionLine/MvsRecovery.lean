import InspectionLine.MvsBatches

/-! # Captures once the cameras answer

Whatever went wrong before, a capture succeeds once the library does what it is asked: cameras
that were let go are found and opened again. -/
namespace InspectionLine.Mvs

open ByteFrames RaisingPrograms SuccessfulRuns

def SdkCall.gets : SdkCall → Bool
  | .getImageBuffer _ => true
  | _ => false

/-- Calls that a camera may refuse without harm. -/
def SdkCall.optional : SdkCall → Bool
  | .setGrabStrategy => true
  | .setValue name (.boolean false) => name ∈ corrections
  | _ => false

/-- Asked for a frame from question `n` on, and asked to take it back in between, the camera finds
none before `left` frames are through. -/
def RunsDry (sdk : Sdk) (serial : String) (left n : ℕ) : Prop :=
  ∃ stale < left, (∀ i < stale, sdk.call (n + 2 * i) serial (.getImageBuffer 1) = .ok 0) ∧
    ∃ code, code ≠ 0 ∧ noFrame sdk code = true ∧
      sdk.call (n + 2 * stale) serial (.getImageBuffer 1) = .ok code

/-- From its question `start` on the world does what it is asked: the cameras are there, fewer than
32 frames are left in each queue before an action, and each hands over a frame after it. -/
structure Cooperative (sdk : Sdk) (settings : MvsBackendSettings) (start : ℕ) : Prop where
  modules : ∀ n, start ≤ n → sdk.loadModules n = .ok ()
  version : ∀ n, start ≤ n → ∃ version, sdk.sdkVersion n = .ok version
  devices : ∀ n, start ≤ n → ∃ infos firmware, sdk.enumDevices n = .ok (0, infos) ∧
    validateCameraInventory sdk settings (infos.filterMap (inventoryEntry settings)) = .ok firmware
  calls : ∀ n, start ≤ n → ∀ serial call, call.gets = false → call.optional = false →
    sdk.call n serial call = .ok 0
  strategy : ∀ n, start ≤ n → ∀ serial, sdk.call n serial .setGrabStrategy = .ok 0 ∨
    sdk.call n serial .setGrabStrategy = .ok sdk.notSupported
  corrections : ∀ n, start ≤ n → ∀ serial name,
    sdk.call n serial (.setValue name (.boolean false)) = .ok 0 ∨
      sdk.call n serial (.setValue name (.boolean false)) = .ok sdk.gcAccess
  off : ∀ n, start ≤ n → ∀ serial name, sdk.boolValue n serial name = false
  queue : ∀ n, start ≤ n → ∀ serial, RunsDry sdk serial 32 n
  arrival : ∀ n, start ≤ n → ∀ serial,
    sdk.call n serial (.getImageBuffer settings.acquisitionTimeoutMs) = .ok 0
  frames : ∀ n, start ≤ n → ∀ serial, (sdk.frame n serial).Accepted sdk
  receivers : ∀ n, start ≤ n → sdk.receiversReady n = true
  action : ∀ n, start ≤ n → ∀ stationId, sdk.issueActionCommand n stationId = .ok 0
  acknowledged : ∀ n, start ≤ n → ∀ stationId, stationId = 1 ∨ stationId = 2 →
    checkAcknowledgements sdk settings stationId (sdk.actionResults n stationId) = .ok ()
  directories : ∀ n, start ≤ n → ∀ path, sdk.makeDirectory n path = .ok ()
  files : ∀ n, start ≤ n → ∀ path, sdk.writeFile n path = .ok ()

/-- From a state past `start` the program raises nothing. -/
def Smooth {α : Type} (start : ℕ) (p : MvsProgram α) : Prop :=
  Meets (fun s => start ≤ s.asked) p (fun _ s => start ≤ s.asked) (fun _ _ => False)

section
variable {α β : Type} {start : ℕ} {sdk : Sdk} {settings : MvsBackendSettings} {serial : String}

theorem smooth_pure (a : α) : Smooth start (pure a : MvsProgram α) := fun _ h => h

theorem smooth_get : Smooth start (get : MvsProgram MvsState) := fun _ h => h

theorem smooth_ask (answers : ℕ → α) : Smooth start (ask answers) :=
  meets_ask fun _ h => Nat.le_succ_of_le h

theorem smooth_modify_camera (f : CameraSession → CameraSession) :
    Smooth start (modifyCamera serial f) := meets_modify_camera fun _ h => h

theorem smooth_modify_backend (f : BackendState → BackendState) :
    Smooth start (modifyBackend f) := fun _ h => h

theorem smooth_bind {p : MvsProgram α} {f : α → MvsProgram β} (hp : Smooth start p)
    (hf : ∀ a, Smooth start (f a)) : Smooth start (p >>= f) := meets_bind hp hf

theorem smooth_for_m {γ : Type} {f : γ → MvsProgram PUnit} {cs : List γ}
    (h : ∀ c ∈ cs, Smooth start (f c)) : Smooth start (cs.forM f) :=
  meets_for_m (I := fun _ (s : MvsState) => start ≤ s.asked) fun _ c _ hcs =>
    h c (by rw [hcs]; exact List.mem_append_right _ List.mem_cons_self)

theorem smooth_do_unless {holds : Bool} {p : MvsProgram Unit} (h : holds = false → Smooth start p) :
    Smooth start (doUnless holds p) := meets_do_unless (fun _ _ hs => hs) h

/-- A program that raises nothing needs no handler. -/
theorem smooth_catch {p : MvsProgram α} {handler : MvsError → MvsProgram α}
    (hp : Smooth start p) : Smooth start (tryCatch p handler) :=
  meets_catch hp fun _ _ h => h.elim

theorem meets_answered {call : SdkCall} {C : ℤ → Prop}
    (h : ∀ n, start ≤ n → ∃ code, C code ∧ sdk.call n serial call = .ok code) :
    Meets (fun s => start ≤ s.asked) (sdkCall sdk serial call)
      (fun code s => C code ∧ start ≤ s.asked) (fun _ _ => False) := by
  intro s hs
  obtain ⟨code, hC, hcall⟩ := h s.asked hs
  unfold sdkCall
  rw [hcall]
  exact ⟨hC, Nat.le_succ_of_le hs⟩

theorem smooth_checked_call {call : SdkCall} {operation : String}
    (h : ∀ n, start ≤ n → sdk.call n serial call = .ok 0) :
    Smooth start (checkedCall sdk serial call operation) := by
  refine meets_bind (meets_answered (C := (· = 0)) fun n hn => ⟨0, rfl, h n hn⟩) fun code =>
    meets_of_fact fun hzero => ?_
  subst hzero
  exact fun _ hs => hs

/-! ### Opening -/

variable (hsdk : Cooperative sdk settings start)
include hsdk

theorem smooth_read_correction (name enabledText : String) :
    Smooth start (readCorrection sdk serial name enabledText) := by
  refine meets_bind (R := fun current s => current = false ∧ start ≤ s.asked)
    (fun s h => ⟨hsdk.off s.asked h serial name, Nat.le_succ_of_le h⟩) fun current =>
    meets_of_fact fun hoff => ?_
  subst hoff
  exact fun _ h => h

theorem smooth_disable_boolean_correction (name : String) :
    Smooth start (disableBooleanCorrection sdk serial name) := by
  have hread : Smooth start (checkedCall sdk serial (.getBoolValue name)
      ("verify " ++ name ++ "=False")) :=
    smooth_checked_call fun n hn => hsdk.calls n hn serial _ rfl rfl
  refine meets_bind (meets_answered (C := fun code => code = 0 ∨ code = sdk.gcAccess)
    fun n hn => ?_) fun result => meets_of_fact fun hresult => ?_
  · rcases hsdk.corrections n hn serial name with h | h
    · exact ⟨0, .inl rfl, h⟩
    · exact ⟨sdk.gcAccess, .inr rfl, h⟩
  by_cases hzero : result = 0
  · rw [if_pos hzero]
    exact smooth_bind hread fun _ => smooth_bind (smooth_read_correction hsdk _ _) fun _ =>
      smooth_modify_camera _
  · have haccess : sameCode result sdk.gcAccess = true := by
      rw [hresult.resolve_left hzero]
      exact decide_eq_true rfl
    rw [if_neg hzero, haccess]
    refine smooth_bind (smooth_pure _) fun _ => meets_bind (meets_answered (C := (· = 0))
      fun n hn => ⟨0, rfl, hsdk.calls n hn serial _ rfl rfl⟩) fun readResult =>
      meets_of_fact fun hread => ?_
    rw [if_pos hread]
    exact smooth_bind (smooth_read_correction hsdk _ _) fun _ => smooth_modify_camera _

theorem smooth_set_grab_strategy : Smooth start (setGrabStrategy sdk serial) := by
  refine meets_bind (meets_answered (C := fun code => code = 0 ∨ code = sdk.notSupported)
    fun n hn => ?_) fun result => meets_of_fact fun hresult => ?_
  · rcases hsdk.strategy n hn serial with h | h
    · exact ⟨0, .inl rfl, h⟩
    · exact ⟨sdk.notSupported, .inr rfl, h⟩
  refine smooth_do_unless fun hsupported => ?_
  rcases hresult with rfl | rfl
  · exact fun _ h => h
  · cases (decide_eq_true rfl : sameCode sdk.notSupported sdk.notSupported = true).symm.trans
      hsupported

theorem smooth_set_registers {registers : List (String × RegisterValue)}
    (h : (registers.all fun r => !(SdkCall.setValue r.1 r.2).optional) = true) :
    Smooth start (registers.forM (setRegister sdk serial)) := by
  refine smooth_for_m fun register hmem => smooth_checked_call fun n hn =>
    hsdk.calls n hn serial _ rfl ?_
  simpa using List.all_eq_true.mp h register hmem

theorem smooth_configure {group : ActionGroup} {acquisition : CameraAcquisitionSettings}
    (hacquisition : settings.cameraAcquisitionSettings.get? serial = some acquisition) :
    Smooth start (configure sdk settings group serial) := by
  have hcall : ∀ {call operation}, call.gets = false → call.optional = false →
      Smooth start (checkedCall sdk serial call operation) := fun hgets hoptional =>
    smooth_checked_call fun n hn => hsdk.calls n hn serial _ hgets hoptional
  have hlookup : lookup settings.cameraAcquisitionSettings serial serial = .ok acquisition := by
    rw [lookup, hacquisition]
  unfold configure
  rw [hlookup]
  refine smooth_bind (hcall rfl rfl) fun _ => smooth_bind (smooth_modify_camera _) fun _ =>
    smooth_bind (smooth_set_registers hsdk rfl) fun _ => smooth_bind (smooth_pure _) fun _ =>
    smooth_bind (smooth_set_registers hsdk rfl) fun _ =>
    smooth_bind (smooth_for_m fun _ _ => smooth_disable_boolean_correction hsdk _) fun _ =>
    smooth_bind (smooth_set_registers hsdk rfl) fun _ =>
    smooth_bind (smooth_do_unless fun _ => smooth_for_m fun call hmem => ?_) fun _ =>
    smooth_bind (smooth_set_registers hsdk rfl) fun _ => smooth_bind (hcall rfl rfl) fun _ =>
    smooth_bind (smooth_set_grab_strategy hsdk) fun _ => smooth_bind (hcall rfl rfl) fun _ =>
    smooth_modify_camera _
  have hresend : ((resendCalls settings).all fun call => !call.1.gets && !call.1.optional) = true :=
    rfl
  have hplain := List.all_eq_true.mp hresend call hmem
  rw [Bool.and_eq_true_iff, Bool.not_eq_true', Bool.not_eq_true'] at hplain
  exact hcall hplain.1 hplain.2

theorem smooth_open_session {stationId : ℕ} {group : ActionGroup}
    {acquisition : CameraAcquisitionSettings}
    (hgroup : settings.actionGroups.get? stationId = some group)
    (hacquisition : settings.cameraAcquisitionSettings.get? serial = some acquisition) :
    Smooth start (openSession sdk settings serial stationId) := by
  have hlookup : lookup settings.actionGroups stationId (toString stationId) = .ok group := by
    rw [lookup, hgroup]
  unfold openSession
  rw [hlookup]
  exact smooth_bind (smooth_modify_camera _) fun _ => smooth_bind (smooth_pure _) fun _ =>
    smooth_bind (smooth_checked_call fun n hn => hsdk.calls n hn serial _ rfl rfl) fun _ =>
    smooth_catch (smooth_configure hsdk hacquisition)

theorem smooth_open_all (hvalid : ValidSettings settings)
    {records : OrderedDict String CameraInventoryEntry} (serials opened : List String)
    (hexpected : ∀ c ∈ serials, c ∈ settings.expectedSerials)
    (hrecords : ∀ c ∈ serials, ∃ record, records.get? c = some record ∧
      (record.stationId = 1 ∨ record.stationId = 2)) :
    Smooth start (openAll sdk settings records serials opened) := by
  induction serials generalizing opened with
  | nil => exact smooth_pure _
  | cons serial serials ih =>
    obtain ⟨record, hrecord, hstation⟩ := hrecords serial List.mem_cons_self
    obtain ⟨group, hgroup⟩ := hvalid.groups record.stationId hstation
    obtain ⟨acquisition, hacquisition⟩ :=
      hvalid.acquisitions serial (hexpected serial List.mem_cons_self)
    have hopen : Smooth start (do
        let record ← ofExcept (lookup records serial serial)
        openSession sdk settings serial record.stationId) := by
      rw [show lookup records serial serial = .ok record by rw [lookup, hrecord]]
      exact smooth_open_session hsdk hgroup hacquisition
    exact smooth_bind (smooth_catch hopen) fun _ => ih _
      (fun c hc => hexpected c (List.mem_cons_of_mem serial hc))
      fun c hc => hrecords c (List.mem_cons_of_mem serial hc)

omit hsdk in
theorem station_of_serial {stationId : ℕ}
    (h : settings.stationBySerial.get? serial = some stationId) :
    stationId ∈ settings.stationCameraIds.keys := by
  obtain ⟨pair, hpair, _, hstation⟩ := OrderedDict.get?_collect h
  obtain ⟨station, hmem, hcamera⟩ := List.mem_flatMap.mp hpair
  obtain ⟨_, _, rfl⟩ := List.mem_map.mp hcamera
  exact hstation ▸ List.mem_map_of_mem hmem

variable (hstations : ∀ stationId ∈ settings.stationCameraIds.keys, stationId = 1 ∨ stationId = 2)
  (hvalid : settings.validate sdk.isIpAddress = .ok ())
include hstations

omit hsdk in
/-- Every expected camera is found under one of the two stations. -/
theorem records_found {infos : List DeviceInfo} {firmware : String}
    (h : validateCameraInventory sdk settings (infos.filterMap (inventoryEntry settings)) =
      .ok firmware) :
    ∀ c ∈ settings.expectedSerials, ∃ record,
      (bySerial (infos.filterMap (inventoryEntry settings))).get? c = some record ∧
        (record.stationId = 1 ∨ record.stationId = 2) := by
  intro c hc
  rw [← (validate_inventory_ok h).serials] at hc
  obtain ⟨record, hrecord, rfl⟩ := List.mem_map.mp hc
  obtain ⟨serial, _, hget⟩ := List.mem_filterMap.mp hrecord
  obtain ⟨hmem, hserial⟩ := by_serial_mem hget
  obtain ⟨info, _, hentry⟩ := List.mem_filterMap.mp hmem
  obtain ⟨stationId, hstation, heq⟩ := Option.map_eq_some_iff.mp hentry
  refine ⟨record, hserial ▸ hget, hstations _ (@station_of_serial _ record.serial _ ?_)⟩
  rw [← heq]
  exact hstation

include hvalid

theorem smooth_initialize_once : Smooth start (initializeOnce sdk settings) := by
  have hload : Smooth start (loadModules sdk) := by
    refine meets_bind (R := fun loaded s => loaded = .ok () ∧ start ≤ s.asked)
      (meets_ask fun s h => ⟨hsdk.modules s.asked h, Nat.le_succ_of_le h⟩) fun loaded =>
      meets_of_fact fun hloaded => ?_
    subst hloaded
    have hversion : Meets (fun s => start ≤ s.asked) (ask sdk.sdkVersion)
        (fun answer s => (∃ version, answer = .ok version) ∧ start ≤ s.asked) (fun _ _ => False) :=
      meets_ask fun s h => ⟨hsdk.version s.asked h, Nat.le_succ_of_le h⟩
    refine smooth_bind (smooth_pure ()) fun _ => smooth_bind (smooth_modify_backend _) fun _ =>
      meets_bind hversion fun answer => meets_of_fact fun ⟨version, hanswer⟩ => ?_
    subst hanswer
    exact smooth_bind (smooth_pure version) fun _ => smooth_modify_backend _
  refine smooth_bind smooth_get fun _ => smooth_bind (smooth_do_unless fun _ => hload) fun _ =>
    meets_bind (R := fun entries s => (∃ (infos : List DeviceInfo) (firmware : String),
      entries = infos.filterMap (inventoryEntry settings) ∧
        validateCameraInventory sdk settings entries = .ok firmware) ∧ start ≤ s.asked) ?_
    fun entries => meets_of_fact fun ⟨infos, firmware, hentries, hinventory⟩ => ?_
  · refine meets_bind (R := fun answer s => (∃ (infos : List DeviceInfo) (firmware : String),
      answer = .ok (0, infos) ∧
        validateCameraInventory sdk settings (infos.filterMap (inventoryEntry settings)) =
          .ok firmware) ∧ start ≤ s.asked) ?_ fun answer =>
      meets_of_fact fun ⟨infos, firmware, hanswer, hinventory⟩ => ?_
    · refine meets_ask fun s h => ⟨?_, Nat.le_succ_of_le h⟩
      exact hsdk.devices s.asked h
    · subst hanswer
      exact fun s h => ⟨⟨infos, firmware, rfl, hinventory⟩, h⟩
  subst hentries
  rw [hinventory]
  have hrecords := records_found hstations hinventory
  exact smooth_bind (smooth_pure _) fun _ => smooth_bind (smooth_modify_backend _) fun _ =>
    smooth_bind (smooth_open_all hsdk (validate_ok hvalid) _ _ (fun _ h => h) hrecords) fun _ =>
    smooth_bind smooth_get fun _ => smooth_modify_backend _

/-- A backend that was not closed for good is ready after one attempt. -/
theorem smooth_initialize_backend :
    Meets (fun s => start ≤ s.asked ∧ s.backend.closed = false) (initializeBackend sdk settings)
      (fun _ s => start ≤ s.asked) (fun _ _ => False) := by
  refine meets_get_bind fun s₁ => ?_
  rintro s ⟨rfl, hasked, hopen⟩
  rw [hopen, hvalid]
  exact smooth_bind (smooth_pure _) (fun _ => smooth_do_unless fun _ =>
    smooth_bind (smooth_pure _) fun _ => smooth_initialize_once hsdk hstations hvalid) s hasked

theorem smooth_initialize_with_reconnect :
    Meets (fun s => start ≤ s.asked ∧ s.backend.closed = false)
      (initializeWithReconnect sdk settings) (fun _ s => start ≤ s.asked) (fun _ _ => False) := by
  obtain ⟨attempts, hattempts⟩ := Nat.exists_eq_add_one_of_ne_zero
    (show settings.reconnectMaxAttempts.toNat ≠ 0 by
      have := (validate_ok hvalid).attempts
      omega)
  unfold initializeWithReconnect
  rw [hattempts]
  exact meets_catch (smooth_initialize_backend hsdk hstations hvalid) fun _ _ h => h.elim

end

/-! ### Capturing -/

section
variable {α : Type} {start : ℕ} {sdk : Sdk} {settings : MvsBackendSettings} {S F : String → Prop}

theorem Smooth.keeps {p : MvsProgram α} (h : Smooth start p) (hlocal : Local S F p)
    {I : MvsState → Prop} (hI : ∀ s s', Within S F s s' → I s → I s') :
    Meets (fun s => start ≤ s.asked ∧ I s) p (fun _ s => start ≤ s.asked ∧ I s)
      (fun _ _ => False) :=
  meets_weaken (meets_and h (hlocal.keeps hI)) (fun _ hs => hs) (fun _ _ hs => hs)
    fun _ _ hs => hs.1

variable (hsdk : Cooperative sdk settings start)
include hsdk

/-- The induction is on the frames that may still be drained. -/
theorem smooth_drain_frames (serial : String) (left drained : ℕ) :
    Meets (fun s => start ≤ s.asked ∧ RunsDry sdk serial left s.asked)
      (drainFrames sdk serial left drained) (fun _ s => start ≤ s.asked) (fun _ _ => False) := by
  induction left generalizing drained with
  | zero => exact fun _ ⟨_, _, hnone, _⟩ => absurd hnone (Nat.not_lt_zero _)
  | succ left ih =>
    have hanswer : Meets (fun s => start ≤ s.asked ∧ RunsDry sdk serial (left + 1) s.asked)
        (sdkCall sdk serial (.getImageBuffer 1))
        (fun code s => (code ≠ 0 ∧ noFrame sdk code = true) ∧ start ≤ s.asked ∨
          code = 0 ∧ start ≤ s.asked ∧ RunsDry sdk serial left (s.asked + 1))
        (fun _ _ => False) := by
      rintro s ⟨hstart, stale, hleft, hframes, code, hcode, hnone, hempty⟩
      unfold sdkCall
      cases stale with
      | zero =>
        rw [show sdk.call s.asked serial (.getImageBuffer 1) = .ok code from hempty]
        exact .inl ⟨⟨hcode, hnone⟩, Nat.le_succ_of_le hstart⟩
      | succ stale =>
        rw [show sdk.call s.asked serial (.getImageBuffer 1) = .ok 0 from
          hframes 0 (Nat.succ_pos _)]
        refine .inr ⟨rfl, Nat.le_succ_of_le hstart, stale, Nat.lt_of_succ_lt_succ hleft,
          fun i hi => ?_, code, hcode, hnone, ?_⟩
        · rw [← hframes (i + 1) (Nat.succ_lt_succ hi)]
          exact congrArg (sdk.call · serial _) (show s.asked + 1 + 1 + 2 * i = _ by omega)
        · rw [← hempty]
          exact congrArg (sdk.call · serial _) (show s.asked + 1 + 1 + 2 * stale = _ by omega)
    have hfree : Meets (fun s => start ≤ s.asked ∧ RunsDry sdk serial left (s.asked + 1))
        (checkedCall sdk serial .freeImageBuffer "free stale frame")
        (fun _ s => start ≤ s.asked ∧ RunsDry sdk serial left s.asked) (fun _ _ => False) := by
      refine meets_bind (R := fun code s => code = 0 ∧ start ≤ s.asked ∧
        RunsDry sdk serial left s.asked) (fun s h => ?_) fun code => meets_of_fact fun hzero => ?_
      · unfold sdkCall
        rw [hsdk.calls s.asked h.1 serial _ rfl rfl]
        exact ⟨rfl, Nat.le_succ_of_le h.1, h.2⟩
      · subst hzero
        exact fun _ h => h
    unfold drainFrames
    refine meets_bind hanswer fun code => meets_or (meets_of_fact fun hnone => ?_)
      (meets_of_fact fun hzero => ?_)
    · rw [if_pos hnone]
      exact fun _ h => h
    · subst hzero
      rw [if_neg fun h => h.1 rfl]
      exact meets_bind (R := fun _ (s : MvsState) => start ≤ s.asked ∧
        RunsDry sdk serial left (s.asked + 1)) (fun _ h => h) fun _ =>
        meets_bind hfree fun _ => ih (drained + 1)

theorem smooth_drain (serial : String) : Smooth start (drainStaleFrames sdk serial) := fun s h =>
  smooth_drain_frames hsdk serial 32 0 s ⟨h, hsdk.queue s.asked h serial⟩

theorem smooth_network_counters (serial : String) : Smooth start (networkCounters sdk serial) :=
  smooth_bind (smooth_checked_call fun n hn => hsdk.calls n hn serial _ rfl rfl) fun _ =>
    smooth_ask _

theorem meets_prepare_smoothly {b : BackendState} {I : MvsState → Prop}
    (hI : ∀ s s', Within (fun _ => True) NoFile s s' → I s → I s')
    (hbackend : ∀ s, I s → s.backend = b) (serials : List String)
    (hserials : ∀ c ∈ serials, c ∈ b.sessions) :
    Meets (fun s => start ≤ s.asked ∧ I s) (prepareCameras sdk serials)
      (fun _ s => start ≤ s.asked ∧ I s) (fun _ _ => False) := by
  induction serials with
  | nil => exact fun _ h => h
  | cons serial serials ih =>
    have hone : Meets (fun s => start ≤ s.asked ∧ I s) (prepareCamera sdk serial)
        (fun _ s => start ≤ s.asked ∧ I s) (fun _ _ => False) := by
      refine meets_get_bind fun s₁ => meets_bind (R := fun _ s => start ≤ s.asked ∧ I s) ?_
        fun _ => ?_
      · refine meets_ensure (fun _ _ h => h.2) fun hmissing s h => ?_
        rw [← h.1, hbackend s h.2.2] at hmissing
        exact of_decide_eq_false hmissing (hserials serial List.mem_cons_self)
      · exact meets_bind ((smooth_drain hsdk serial).keeps
          (local_drain_frames (S := fun _ => True) trivial 32 0) hI) fun _ =>
          (smooth_network_counters hsdk serial).keeps
            (local_network_counters (S := fun _ => True) trivial) hI
    exact meets_bind hone fun _ =>
      meets_bind (ih fun c hc => hserials c (List.mem_cons_of_mem serial hc)) fun _ => fun _ h => h

variable (hlaw : LawfulSdk sdk) (hvalid : ValidSettings settings)

theorem meets_read_smoothly {I : MvsState → Prop}
    (hI : ∀ s s', Within (fun _ => True) NoFile s s' → I s → I s') (serial : String) :
    Meets (fun s => start ≤ s.asked ∧ I s) (readFrame sdk serial)
      (fun received s => (∃ frame : Frame, frame.Accepted sdk ∧ received.pixels = frame.pixels) ∧
        start ≤ s.asked ∧ I s) (fun _ _ => False) := by
  refine meets_bind (R := fun (frame : Frame) s => frame.Accepted sdk ∧ start ≤ s.asked ∧ I s) ?_
    fun frame => meets_of_fact fun haccepted => ?_
  · exact meets_ask fun s h => ⟨hsdk.frames s.asked h.1 serial, Nat.le_succ_of_le h.1,
      hI s _ ⟨Nat.le_succ _, fun _ _ => rfl, fun _ _ => rfl, rfl, fun _ _ => rfl, rfl⟩ h.2⟩
  rw [haccepted.width, haccepted.height, haccepted.mono8, haccepted.memory,
    decide_eq_true haccepted.length, decide_eq_true rfl, decide_eq_true rfl, decide_eq_true rfl]
  exact fun s h => ⟨⟨frame, haccepted, rfl⟩, h⟩

include hlaw hvalid

theorem meets_receive_smoothly (serial path : String) (countersBefore : NetworkCounters) :
    Meets (fun s => start ≤ s.asked ∧ s.files path = none)
      (receiveAndSave sdk settings serial path countersBefore) (fun _ s => start ≤ s.asked)
      (fun _ _ => False) := by
  let absent (s : MvsState) : Prop := s.files path = none
  have habsent : ∀ s s', Within (fun _ => True) NoFile s s' → absent s → absent s' :=
    fun s s' hwithin h => (hwithin.files path id).trans h
  have hask : ∀ {β : Type} (answers : ℕ → β), Meets (fun s => start ≤ s.asked ∧ absent s)
      (ask answers) (fun _ s => start ≤ s.asked ∧ absent s) (fun _ _ => False) := fun answers =>
    (smooth_ask answers).keeps (local_ask (S := fun _ => True) answers) habsent
  have hfree : ∀ operation, Meets (fun s => start ≤ s.asked ∧ absent s)
      (checkedCall sdk serial .freeImageBuffer operation) (fun _ s => start ≤ s.asked ∧ absent s)
      (fun _ _ => False) := fun operation =>
    (smooth_checked_call fun n hn => hsdk.calls n hn serial _ rfl rfl).keeps
      (local_checked_call (S := fun _ => True) sdk trivial _ operation) habsent
  refine meets_bind ((smooth_checked_call fun n hn => hsdk.arrival n hn serial).keeps
      (local_checked_call (S := fun _ => True) sdk trivial _ _) habsent) fun _ =>
    meets_bind (hask _) fun _ => meets_bind (hask _) fun _ =>
    meets_bind (meets_finally (meets_read_smoothly hsdk habsent serial)
      (fun received => meets_of_fact fun hframe => meets_weaken (hfree _) (fun _ h => h)
        (fun _ _ h => And.intro hframe h) fun _ _ h => h) fun _ => fun _ h => h.elim)
    fun received =>
    meets_of_fact fun ⟨frame, haccepted, hpixels⟩ => ?_
  refine meets_bind ((smooth_network_counters hsdk serial).keeps
    (local_network_counters (S := fun _ => True) trivial) habsent) fun _ =>
    meets_bind (R := fun _ s => start ≤ s.asked) ?_ fun _ => fun _ h => h
  obtain ⟨content, hwrite, -⟩ := written_content hlaw hvalid haccepted path
  refine meets_get_bind fun s₁ => ?_
  rintro s ⟨rfl, hasked, hnone⟩
  rw [hpixels, hnone, Option.isSome_none, hwrite]
  have hwritten : Meets (fun s => start ≤ s.asked) (ask fun n => sdk.writeFile n path)
      (fun written s => written = .ok () ∧ start ≤ s.asked) (fun _ _ => False) :=
    meets_ask fun s h => ⟨hsdk.files s.asked h path, Nat.le_succ_of_le h⟩
  refine meets_bind (smooth_pure content) (fun _ => meets_bind hwritten fun written =>
    meets_of_fact fun hok => ?_) s hasked
  subst hok
  exact fun _ h => h

/-- The files of the cameras that are still to come are not there. -/
theorem meets_receive_all_smoothly {batchDir : String}
    {counters : List (String × NetworkCounters)} (serials : List String) (hnodup : serials.Nodup) :
    Meets (fun s => start ≤ s.asked ∧ ∀ c ∈ serials, s.files (imagePath batchDir c) = none)
      (receiveAll sdk settings batchDir counters serials)
      (fun r s => r.2 = [] ∧ start ≤ s.asked) (fun _ _ => False) := by
  induction serials with
  | nil => exact fun s h => ⟨rfl, h.1⟩
  | cons serial serials ih =>
    obtain ⟨hnew, hrest⟩ := List.nodup_cons.mp hnodup
    let path := imagePath batchDir serial
    refine meets_bind (R := fun ended s => (∃ image, ended = .ok image) ∧ start ≤ s.asked ∧
      ∀ c ∈ serials, s.files (imagePath batchDir c) = none) ?_ fun ended =>
      meets_of_fact fun ⟨image, hended⟩ => ?_
    · refine meets_attempt (meets_weaken (meets_and
        (meets_receive_smoothly hsdk hlaw hvalid serial path _)
        ((local_receive_and_save (S := (· = serial)) (F := (· = path)) rfl rfl _).keeps
          (I := fun s => ∀ c ∈ serials, s.files (imagePath batchDir c) = none) ?_))
        (fun s h => ⟨⟨h.1, h.2 serial List.mem_cons_self⟩, fun c hc =>
          h.2 c (List.mem_cons_of_mem serial hc)⟩) (fun image _ h => ⟨⟨image, rfl⟩, h⟩)
        fun _ _ h => h.1.elim)
      intro s s' hwithin h c hc
      refine (hwithin.files _ fun hsame => ?_).trans (h c hc)
      exact hnew (image_path_injective batchDir hsame ▸ hc)
    · subst hended
      exact meets_bind (ih hrest) fun _ => fun s h => h

omit hsdk hlaw hvalid in
theorem keeps_issue_action {I : MvsState → Prop} (hI : ∀ s s', s'.files = s.files → I s → I s')
    (stationId : ℕ) : Keeps I (issueAction sdk settings stationId) := by
  have hask : ∀ {β : Type} (answers : ℕ → β), Keeps I (ask answers) := fun _ =>
    meets_ask fun s h => hI s _ rfl h
  have hexcept : ∀ {β : Type} (x : Except MvsError β), Keeps I (ofExcept x) := fun _ =>
    meets_of_except (fun _ _ _ h => h) fun _ _ _ h => h
  have hensure : ∀ holds e, Keeps I (ensure holds e) := fun _ _ =>
    meets_ensure (fun _ _ h => h) fun _ _ h => h
  exact keeps_bind keeps_get fun _ => keeps_bind (hensure _ _) fun _ =>
    keeps_bind (hexcept _) fun _ => keeps_bind (keeps_modify fun s h => hI s _ rfl h) fun _ =>
    keeps_bind (hask _) fun _ => keeps_bind (hexcept _) fun _ => keeps_bind (hensure _ _) fun _ =>
    keeps_bind (hask _) fun _ => hexcept _

omit hlaw in
theorem meets_issue_smoothly {b : BackendState} (hloaded : b.modulesLoaded = true) {stationId : ℕ}
    (hstation : stationId = 1 ∨ stationId = 2) :
    Meets (fun s => start ≤ s.asked ∧ s.backend = b) (issueAction sdk settings stationId)
      (fun _ s => start ≤ s.asked) (fun _ _ => False) := by
  obtain ⟨group, hgroup⟩ := hvalid.groups stationId hstation
  have haction : Meets (fun s => start ≤ s.asked)
      (ask fun n => sdk.issueActionCommand n stationId)
      (fun answer s => answer = .ok 0 ∧ start ≤ s.asked) (fun _ _ => False) :=
    meets_ask fun s h => ⟨hsdk.action s.asked h stationId, Nat.le_succ_of_le h⟩
  have hresults : Meets (fun s => start ≤ s.asked) (ask fun n => sdk.actionResults n stationId)
      (fun results s => checkAcknowledgements sdk settings stationId results = .ok () ∧
        start ≤ s.asked) (fun _ _ => False) :=
    meets_ask fun s h => ⟨hsdk.acknowledged s.asked h stationId hstation, Nat.le_succ_of_le h⟩
  refine meets_get_bind fun s₁ => ?_
  rintro s ⟨rfl, hasked, hbackend⟩
  rw [hbackend, hloaded, show lookup settings.actionGroups stationId (toString stationId) =
    .ok group by rw [lookup, hgroup]]
  refine meets_bind (smooth_pure ()) (fun _ => meets_bind (smooth_pure group) fun _ =>
    meets_bind (R := fun _ (s : MvsState) => start ≤ s.asked) (fun _ h => h) fun _ =>
    meets_bind haction fun answer => meets_of_fact fun hanswer => ?_) s hasked
  subst hanswer
  refine meets_bind (R := fun code s => code = (0 : ℤ) ∧ start ≤ s.asked) (fun _ h => ⟨rfl, h⟩)
    fun returnCode => meets_of_fact fun hzero => ?_
  subst hzero
  refine meets_bind (R := fun _ (s : MvsState) => start ≤ s.asked) (fun _ h => h) fun _ =>
    meets_bind hresults fun results => meets_of_fact fun hok => ?_
  rw [hok]
  exact fun _ h => h

theorem meets_take_smoothly {b : BackendState} (hloaded : b.modulesLoaded = true)
    {request : CaptureRequest} {batchDir frameBatchId : String}
    (hstation : request.stationId = 1 ∨ request.stationId = 2)
    (hsessions : ∀ c ∈ settings.stationCameras request.stationId, c ∈ b.sessions) :
    Meets (fun s => start ≤ s.asked ∧ s.backend = b ∧
        ∀ c ∈ settings.stationCameras request.stationId, s.files (imagePath batchDir c) = none)
      (takeBatch sdk settings request (settings.stationCameras request.stationId) frameBatchId
        batchDir)
      (fun _ _ => True) (fun _ _ => False) := by
  have hnodup := station_cameras_nodup hvalid.nodup hstation
  let cameras := settings.stationCameras request.stationId
  let absent (s : MvsState) : Prop := ∀ c ∈ cameras, s.files (imagePath batchDir c) = none
  have hkept : ∀ s s', Within (fun _ => True) NoFile s s' → s.backend = b ∧ absent s →
      s'.backend = b ∧ absent s' := fun s s' hwithin h =>
    ⟨hwithin.backend.trans h.1, fun c hc => (hwithin.files _ id).trans (h.2 c hc)⟩
  have hask : ∀ {β : Type} (answers : ℕ → β), Meets (fun s => start ≤ s.asked ∧ s.backend = b ∧
      absent s) (ask answers) (fun _ s => start ≤ s.asked ∧ s.backend = b ∧ absent s)
      (fun _ _ => False) := fun answers =>
    (smooth_ask answers).keeps (local_ask (S := fun _ => True) answers) hkept
  refine meets_bind (meets_prepare_smoothly hsdk hkept (fun _ h => h.1) cameras hsessions)
    fun counters => ?_
  have hready : Meets (fun s => start ≤ s.asked ∧ s.backend = b ∧ absent s)
      (ask sdk.receiversReady) (fun ready s => ready = true ∧ start ≤ s.asked ∧ s.backend = b ∧
        absent s) (fun _ _ => False) :=
    meets_ask fun s h => ⟨hsdk.receivers s.asked h.1, Nat.le_succ_of_le h.1, h.2⟩
  have horder : Meets (fun s => start ≤ s.asked ∧ s.backend = b ∧ absent s)
      (ask fun n => (sdk.completion n cameras).1) (fun order s => order.Perm cameras ∧
        start ≤ s.asked ∧ s.backend = b ∧ absent s) (fun _ _ => False) :=
    meets_ask fun s h => ⟨(sdk.completion s.asked cameras).2, Nat.le_succ_of_le h.1, h.2⟩
  refine meets_bind hready fun ready => meets_of_fact fun hisReady => meets_bind horder
    fun order => meets_of_fact fun hperm => ?_
  subst hisReady
  rw [if_pos rfl]
  have hissue : Meets (fun s => start ≤ s.asked ∧ s.backend = b ∧ absent s)
      (attempt (issueAction sdk settings request.stationId))
      (fun ended s => ended = .ok () ∧ start ≤ s.asked ∧ absent s) (fun _ _ => False) := by
    refine meets_attempt (meets_weaken (meets_and
      (meets_issue_smoothly hsdk hvalid hloaded hstation) (keeps_issue_action (I := absent)
        (fun s s' hfiles h c hc => (congrFun hfiles _).trans (h c hc)) request.stationId))
      (fun s h => ⟨⟨h.1, h.2.1⟩, h.2.2⟩) (fun _ _ h => ⟨rfl, h⟩) fun _ _ h => h.1.elim)
  have hstill : ∀ {β : Type} (answers : ℕ → β), Meets (fun s => start ≤ s.asked ∧ absent s)
      (ask answers) (fun _ s => start ≤ s.asked ∧ absent s) (fun _ _ => False) := fun answers =>
    (smooth_ask answers).keeps (local_ask (S := fun _ => True) (F := NoFile) answers)
      fun s s' hwithin h c hc => (hwithin.files _ id).trans (h c hc)
  have hnew := hperm.nodup_iff.mpr hnodup
  have hreceived : Meets (fun s => start ≤ s.asked ∧ absent s)
      (receiveAll sdk settings batchDir counters order)
      (fun r _ => r.2 = [] ∧ r.1.map Prod.fst = order) (fun _ _ => False) :=
    meets_weaken (meets_and (meets_receive_all_smoothly hsdk hlaw hvalid order hnew)
        (meets_receive_all start order hnew (E := fun _ _ => True)))
      (fun s h => ⟨⟨h.1, fun c hc => h.2 c (hperm.mem_iff.mp hc)⟩, h.1⟩)
      (fun _ _ h => ⟨h.1.1, h.2.1 h.1.1⟩) fun _ _ h => h.1
  refine meets_bind (hask _) fun _ => meets_bind (hask _) fun _ => ?_
  refine meets_bind hissue fun ended => meets_of_fact fun hended => ?_
  refine meets_bind (hstill _) fun _ => meets_bind (hstill _) fun _ => ?_
  refine meets_bind hreceived fun received => ?_
  obtain ⟨artifacts, frameErrors⟩ := received
  refine meets_const fun ⟨hnone, hartifacts⟩ => ?_
  have hall : ∀ serial ∈ cameras, serial ∈ artifacts.map Prod.fst := fun serial hserial =>
    hartifacts ▸ hperm.mem_iff.mpr hserial
  obtain ⟨images, himages⟩ := images_found hall
  subst hended hnone
  change Meets _ (ofExcept (cameras.mapM _) >>= _) _ _
  rw [himages]
  exact fun _ _ => trivial

/-- No file is where the images of a new batch go. -/
def NewBatches (sdk : Sdk) (settings : MvsBackendSettings) (request : CaptureRequest) (start : ℕ)
    (s : MvsState) : Prop :=
  ∀ n, start ≤ n → ∀ serial ∈ settings.stationCameras request.stationId,
    s.files (imagePath (batchDirectory settings request (sdk.uuidHex n)) serial) = none

theorem meets_capture_smoothly {b : BackendState} (hready : Ready sdk settings b)
    {request : CaptureRequest} (hstation : request.stationId = 1 ∨ request.stationId = 2) :
    Meets (fun s => start ≤ s.asked ∧ s.backend = b ∧ NewBatches sdk settings request start s)
      (captureBatch sdk settings request (settings.stationCameras request.stationId))
      (fun _ _ => True) (fun _ _ => False) := by
  have hid : Meets (fun s => start ≤ s.asked ∧ s.backend = b ∧
      NewBatches sdk settings request start s)
      (ask sdk.uuidHex) (fun frameBatchId s => start ≤ s.asked ∧ s.backend = b ∧
        ∀ c ∈ settings.stationCameras request.stationId,
          s.files (imagePath (batchDirectory settings request frameBatchId) c) = none)
      (fun _ _ => False) :=
    meets_ask fun s h => ⟨Nat.le_succ_of_le h.1, h.2.1, h.2.2 s.asked h.1⟩
  refine meets_bind hid fun frameBatchId => ?_
  let batchDir := batchDirectory settings request frameBatchId
  have hmade : Meets (fun s => start ≤ s.asked ∧ s.backend = b ∧
        ∀ c ∈ settings.stationCameras request.stationId, s.files (imagePath batchDir c) = none)
      (ask fun n => sdk.makeDirectory n batchDir)
      (fun made s => made = .ok () ∧ start ≤ s.asked ∧ s.backend = b ∧
        ∀ c ∈ settings.stationCameras request.stationId, s.files (imagePath batchDir c) = none)
      (fun _ _ => False) :=
    meets_ask fun s h => ⟨hsdk.directories s.asked h.1 batchDir, Nat.le_succ_of_le h.1, h.2⟩
  refine meets_bind hmade fun made => meets_of_fact fun hok => ?_
  subst hok
  have hsessions : ∀ c ∈ settings.stationCameras request.stationId, c ∈ b.sessions := by
    rw [hready.sessions]
    exact station_cameras_expected hstation
  exact meets_bind (R := fun _ (s : MvsState) => start ≤ s.asked ∧ s.backend = b ∧
      ∀ c ∈ settings.stationCameras request.stationId, s.files (imagePath batchDir c) = none)
    (fun _ h => h) fun _ => meets_catch (meets_take_smoothly hsdk hlaw hvalid
      hready.modulesLoaded hstation hsessions) fun _ _ h => h.elim

end

section
variable {sdk : Sdk} {settings : MvsBackendSettings}

/-- From any state of the backend but closed, a proper request is answered with a batch. -/
theorem capture_smooth {s : MvsState} (hsdk : Cooperative sdk settings s.asked)
    (hlaw : LawfulSdk sdk) (hchecked : settings.validate sdk.isIpAddress = .ok ())
    (hstations : ∀ stationId ∈ settings.stationCameraIds.keys, stationId = 1 ∨ stationId = 2)
    (hup : UpOrDown sdk settings NoFile s s.actions s) (hopen : s.backend.closed = false)
    {request : CaptureRequest} {cameras : List String}
    (hrequest : checkRequest settings request = .ok cameras)
    (hfresh : NewBatches sdk settings request s.asked s) :
    Meets (fun s' => s' = s) (captureStation sdk settings request) (fun _ _ => True)
      (fun _ _ => False) := by
  obtain ⟨rfl, hstation, -⟩ := check_request_ok hrequest
  have hvalid := validate_ok hchecked
  unfold captureStation
  rw [hrequest]
  refine meets_bind (R := fun found s' =>
      found = settings.stationCameras request.stationId ∧ s' = s)
    (fun _ h => ⟨rfl, h⟩) fun found => meets_of_fact fun hfound => meets_get_bind fun s₁ =>
    meets_bind (R := fun _ s' => s.asked ≤ s'.asked ∧ Up sdk settings NoFile s s.actions s') ?_
      fun _ => ?_
  · rintro s' ⟨rfl, rfl⟩
    rcases hup with hdown | hready
    · rw [hdown.initialized]
      exact meets_weaken (meets_and (smooth_initialize_with_reconnect hsdk hstations hchecked)
        meets_initialize_with_reconnect) (fun _ h => h) (fun _ _ h => h) (fun _ _ h => h.1) _
        ⟨⟨le_rfl, hopen⟩, .inl hdown⟩
    · rw [hready.initialized]
      exact ⟨le_rfl, hready⟩
  · subst hfound
    rintro s' ⟨hasked, b, hready, hs⟩
    refine meets_capture_smoothly hsdk hlaw hvalid hready hstation s' ⟨hasked, hs.kept.backend,
      fun n hn serial hserial => (hs.kept.files _ id).trans (hfresh n hn serial hserial)⟩

/-- Whatever the operations before came to, once the cameras answer a capture hands over a whole
batch, which passes the checks of its images unless a packet was lost. -/
theorem capture_recovers (sdk : Sdk) (settings : MvsBackendSettings)
    (registers : String → String → Option RegisterValue) (files : String → Option Bytes)
    (operations : List Operation) (request : CaptureRequest) (cameras : List String)
    (hlaw : LawfulSdk sdk) (hchecked : settings.validate sdk.isIpAddress = .ok ())
    (hstations : ∀ stationId ∈ settings.stationCameraIds.keys, stationId = 1 ∨ stationId = 2)
    (hrequest : checkRequest settings request = .ok cameras)
    (hsdk : Cooperative sdk settings
      (run sdk settings operations (.start registers files)).asked)
    (hopen : (run sdk settings operations (.start registers files)).backend.closed = false)
    (hfresh : NewBatches sdk settings request
      (run sdk settings operations (.start registers files)).asked
      (run sdk settings operations (.start registers files))) :
    ∃ batch s', captureStation sdk settings request
        (run sdk settings operations (.start registers files)) = .ok batch s' ∧
      Taken sdk settings request (run sdk settings operations (.start registers files)) batch s' ∧
      (Timed batch → (∀ image ∈ batch.images, image.packetLossCount = 0) →
        batch.validate request.requiredCameraIds mono8Png (checkImageFile sdk s'.files) =
          .ok ()) := by
  have hsound := @sound_run sdk settings _ (sound_start registers files) operations
  generalize run sdk settings operations (.start registers files) = s at *
  have hsmooth := capture_smooth hsdk hlaw hchecked hstations hsound.up_or_down hopen hrequest
    hfresh s rfl
  have htaken := meets_capture_station request hsound.up_or_down s rfl
  obtain ⟨-, hstation, -⟩ := check_request_ok hrequest
  cases hrun : captureStation sdk settings request s with
  | error e s' =>
    rw [hrun] at hsmooth
    exact hsmooth.elim
  | ok batch s' =>
    rw [hrun] at htaken
    exact ⟨batch, s', rfl, htaken.1, fun htimed hlost =>
      taken_valid hlaw (validate_ok hchecked) hstation htaken.1 htimed hlost⟩

end

/-! ### Four cameras -/

def labSettings : MvsBackendSettings where
  stationCameraIds := ⟨[(1, ["A1", "A2", "A3"]), (2, ["B1"])], by decide⟩
  cameraNetworkMap := ⟨[("A1", "10.0.0.1"), ("A2", "10.0.0.2"), ("A3", "10.0.0.3"),
    ("B1", "10.0.0.4")], by decide⟩
  cameraAcquisitionSettings := ⟨[("A1", ⟨2500, 0⟩), ("A2", ⟨2500, 0⟩), ("A3", ⟨2500, 0⟩),
    ("B1", ⟨4000, 0⟩)], by decide⟩
  actionDeviceKey := 1
  actionGroups := ⟨[(1, ⟨1, 1⟩), (2, ⟨2, 1⟩)], by decide⟩
  dataRoot := "/data"
  acquisitionTimeoutMs := 2000

def labDevice (letter digit : UInt8) (address : ℕ) : DeviceInfo where
  chSerialNumber := [letter, digit, 0, 7]
  nCurrentIp := 10 <<< 24 ||| address
  chModelName := [77, 86, 45, 67, 83, 48, 53, 48, 45, 49, 48, 71, 67, 0]
  chDeviceVersion := [52, 46, 49]

/-- A library that fails to load at first, and then does what it is asked, with frames left in the
queues now and then. -/
def labSdk : Sdk where
  loadModules n := if n = 0 then .error (.mvsSdkError "MVS runtime library not found") else .ok ()
  sdkVersion _ := .ok 0x04060000
  enumDevices _ := .ok (0, [labDevice 65 49 1, labDevice 65 50 2, labDevice 65 51 3,
    labDevice 66 49 4])
  call n _ call := match call with
    | .getImageBuffer timeoutMs =>
      if timeoutMs = 1 ∧ n / 16 % 2 = 1 then .ok 0x80000007 else .ok 0
    | _ => .ok 0
  boolValue _ _ _ := false
  counters _ _ := ⟨0, 0, 0⟩
  frame _ _ := {
    nWidth := 2448, nHeight := 2048, nExtendWidth := 0, nExtendHeight := 0
    enPixelType := 0x01080001, nFrameLen := 2448 * 2048, nFrameLenEx := 0
    pBufAddr := some fun _ => 200
    nLostPacket := 0, nDevTimeStampHigh := 0, nDevTimeStampLow := 0 }
  issueActionCommand _ _ := .ok 0
  actionResults _ stationId :=
    if stationId = 1 then [("10.0.0.1", 0), ("10.0.0.2", 0), ("10.0.0.3", 0)]
    else [("10.0.0.4", 0)]
  receiversReady _ := true
  completion _ serials := ⟨serials, .refl _⟩
  monotonicNs n := n + 1
  wallNs n := n + 1
  uuidHex n := toString n
  makeDirectory _ _ := .ok ()
  writeFile _ _ := .ok ()
  unlinkFails _ _ := false
  zlib := storedZlib
  sha256 _ := String.ofList (List.replicate 64 '0')
  numberText _ := ""
  listText texts := ", ".intercalate texts
  isIpAddress _ := true
  gcAccess := 0x80000106
  notSupported := 0x80000001
  noData := 0x80000007
  timedOut := 0x80000007
  mono8 := 0x01080001

def labStart : MvsState := .start (fun _ _ => none) fun _ => none

/-- The backend after a first attempt that found no library. -/
def labRun : MvsState := run labSdk labSettings [.initializeBackend] labStart

def labRequest : CaptureRequest where
  productId := "P-1"
  fifoSequence := 1
  stationId := 1
  captureId := "C-1"
  attempt := 1
  requiredCameraIds := ["A3", "A1", "A2"]

theorem lab_lawful : LawfulSdk labSdk where
  zlib := stored_zlib_lawful
  short level data h := by
    have hlength : (storedBlock data).length = 11 + data.length := by
      rw [storedBlock, List.length_append, List.length_append, length_big_endian]
      simp only [List.length_cons, List.length_nil]
      omega
    change (storedBlock data).length < 2 ^ 32
    rw [hlength, h]
    decide
  sha256 content := by
    change (String.ofList (List.replicate 64 '0')).length = 64
    decide

theorem lab_cooperative : Cooperative labSdk labSettings 1 where
  modules n hn := if_neg (by omega)
  version _ _ := ⟨_, rfl⟩
  devices n _ := ⟨_, "4.1", rfl, by decide +kernel⟩
  calls n _ serial call hgets _ := by
    cases call with
    | getImageBuffer => cases hgets
    | _ => rfl
  strategy _ _ _ := .inl rfl
  corrections _ _ _ _ := .inl rfl
  off _ _ _ _ := rfl
  queue n _ serial := by
    have hframe : ∀ k, (n + k) / 16 % 2 = 0 →
        labSdk.call (n + k) serial (.getImageBuffer 1) = .ok 0 := by
      intro k hk
      exact if_neg fun h => by omega
    have hempty : ∀ k, (n + k) / 16 % 2 = 1 →
        labSdk.call (n + k) serial (.getImageBuffer 1) = .ok labSdk.noData := by
      intro k hk
      exact if_pos ⟨rfl, hk⟩
    by_cases hdry : n / 16 % 2 = 1
    · exact ⟨0, by omega, fun _ hi => absurd hi (Nat.not_lt_zero _), labSdk.noData, by decide,
        by decide, hempty 0 hdry⟩
    · exact ⟨(17 - n % 32) / 2, by omega, fun i hi => hframe (2 * i) (by omega), labSdk.noData,
        by decide, by decide, hempty _ (by omega)⟩
  arrival _ _ _ := rfl
  frames _ _ _ :=
    ⟨rfl, rfl, rfl, show imageWidth * imageHeight ≤ (2448 * 2048 : ℤ) by decide, rfl⟩
  receivers _ _ := rfl
  action _ _ _ := rfl
  acknowledged n _ stationId hstation := by
    have hresults : ∀ stationId ∈ [1, 2], checkAcknowledgements labSdk labSettings stationId
        (labSdk.actionResults 0 stationId) = .ok () := by decide +kernel
    exact hresults stationId (by simpa using hstation)
  directories _ _ _ := rfl
  files _ _ _ := rfl

theorem lab_asked : labRun.asked = 1 := by decide +kernel

theorem lab_files : labRun.files = fun _ => none := rfl

/-- The capture that follows opens the cameras and hands over its batch. -/
theorem capture_recovers_at_once :
    ∃ batch s', captureStation labSdk labSettings labRequest labRun = .ok batch s' ∧
      Taken labSdk labSettings labRequest labRun batch s' ∧
      (Timed batch → (∀ image ∈ batch.images, image.packetLossCount = 0) →
        batch.validate labRequest.requiredCameraIds mono8Png (checkImageFile labSdk s'.files) =
          .ok ()) :=
  capture_recovers labSdk labSettings (fun _ _ => none) (fun _ => none) [.initializeBackend]
    labRequest ["A1", "A2", "A3"] lab_lawful (by decide +kernel) (by decide) (by decide +kernel)
    (show Cooperative labSdk labSettings labRun.asked from lab_asked ▸ lab_cooperative)
    (show labRun.backend.closed = false by decide +kernel)
    (fun _ _ _ _ => congrFun lab_files _)

end InspectionLine.Mvs
