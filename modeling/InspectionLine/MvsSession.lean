import InspectionLine.MvsLibrary

/-! # The session of one camera

`_CameraSession`: opening a camera with everything that is written to it, closing it, emptying its
queue of frames, and receiving a frame. The threads that receive frames each have a camera of
their own, so nothing is lost by running them one after another. -/
namespace InspectionLine.Mvs

open ByteFrames RaisingPrograms

structure ActionGroup where
  groupKey : ℤ
  groupMask : ℤ
  deriving DecidableEq, Repr

structure CameraAcquisitionSettings where
  exposureTimeUs : ℚ
  gainDb : ℚ

structure MvsBackendSettings where
  stationCameraIds : OrderedDict ℕ (List String)
  cameraNetworkMap : OrderedDict String String
  cameraAcquisitionSettings : OrderedDict String CameraAcquisitionSettings
  actionDeviceKey : ℤ
  actionGroups : OrderedDict ℕ ActionGroup
  dataRoot : String
  acquisitionTimeoutMs : ℤ
  packetSize : ℤ := 1500
  packetDelayTicks : ℤ := 5000
  actionAckTimeoutMs : ℤ := 100
  broadcastAddress : String := "255.255.255.255"
  expectedModel : String := "MV-CS050-10GC"
  expectedFirmwareVersion : String := ""
  sdkImageBufferNodes : ℤ := 8
  packetResendEnabled : Bool := true
  packetResendMaxPercent : ℤ := 10
  packetResendTimeoutMs : ℤ := 50
  packetResendMaxRetryTimes : ℤ := 3
  packetResendIntervalMs : ℤ := 10
  reconnectIntervalMs : ℤ := 1000
  reconnectMaxAttempts : ℤ := 5
  disconnectPauseAfterMs : ℤ := 5000
  pngCompressionLevel : ℤ := 3

/-- Of two stations that name a camera the later one has it. -/
def MvsBackendSettings.stationBySerial (settings : MvsBackendSettings) : OrderedDict String ℕ :=
  .collect Prod.fst Prod.snd (settings.stationCameraIds.entries.flatMap fun station =>
    station.2.map fun serial => (serial, station.1))

/-- `d[key]`. -/
def lookup {κ ν : Type} [DecidableEq κ] (d : OrderedDict κ ν) (key : κ) (text : String) :
    Except MvsError ν :=
  match d.get? key with
  | some value => .ok value
  | none => .error (keyError text)

/-! ### Registers -/

/-- White balance can only be switched off while the colours are there. -/
def colorRegisters : List (String × RegisterValue) :=
  [("TriggerMode", .symbol "Off"), ("PixelFormat", .symbol "BayerRG8"),
    ("BalanceWhiteAuto", .symbol "Off")]

def imageRegisters (acquisition : CameraAcquisitionSettings) : List (String × RegisterValue) :=
  [("ExposureAuto", .symbol "Off"), ("ExposureTime", .number acquisition.exposureTimeUs),
    ("GainAuto", .symbol "Off"), ("Gain", .number acquisition.gainDb), ("OffsetX", .integer 0),
    ("OffsetY", .integer 0), ("Width", .integer 2448), ("Height", .integer 2048),
    ("PixelFormat", .symbol "Mono8")]

def corrections : List String :=
  ["GammaEnable", "SaturationEnable", "SharpnessEnable", "BlackLevelEnable"]

def packetRegisters (settings : MvsBackendSettings) : List (String × RegisterValue) :=
  [("GevSCPSPacketSize", .integer settings.packetSize),
    ("GevSCPD", .integer settings.packetDelayTicks)]

def resendCalls (settings : MvsBackendSettings) : List (SdkCall × String) :=
  [(.setResend settings.packetResendMaxPercent settings.packetResendTimeoutMs,
      "MV_GIGE_SetResend"),
    (.setResendMaxRetryTimes settings.packetResendMaxRetryTimes, "MV_GIGE_SetResendMaxRetryTimes"),
    (.setResendTimeInterval settings.packetResendIntervalMs, "MV_GIGE_SetResendTimeInterval")]

def triggerRegisters (settings : MvsBackendSettings) (group : ActionGroup) :
    List (String × RegisterValue) :=
  [("TriggerSource", .symbol "Action1"), ("ActionDeviceKey", .integer settings.actionDeviceKey),
    ("ActionGroupKey", .integer group.groupKey), ("ActionGroupMask", .integer group.groupMask),
    ("TriggerMode", .symbol "On")]

section
variable (sdk : Sdk)

def RegisterValue.text : RegisterValue → String
  | .symbol name => name
  | .integer n => toString n
  | .number x => sdk.numberText x
  | .boolean b => if b then "True" else "False"

/-- `_enum`, `_integer` and `_float`. -/
def setRegister (serial : String) (register : String × RegisterValue) : MvsProgram Unit :=
  checkedCall sdk serial (.setValue register.1 register.2)
    (register.1 ++ "=" ++ register.2.text sdk)

def noteCorrection (serial name status : String) : MvsProgram Unit :=
  modifyCamera serial fun c =>
    { c with correctionStatus := c.correctionStatus.insert name status }

def readCorrection (serial name enabledText : String) : MvsProgram Unit := do
  let current ← askSwitch sdk serial name
  ensure (!current) (.mvsSdkError (serial ++ ": " ++ name ++ enabledText))

def disableBooleanCorrection (serial name : String) : MvsProgram Unit := do
  let result ← sdkCall sdk serial (.setValue name (.boolean false))
  if result = 0 then
    checkedCall sdk serial (.getBoolValue name) ("verify " ++ name ++ "=False")
    readCorrection sdk serial name " remained enabled"
    noteCorrection serial name "OFF_VERIFIED"
  else
    doUnless (sameCode result sdk.gcAccess)
      (checkMvs result (serial ++ ": " ++ name ++ "=False"))
    let readResult ← sdkCall sdk serial (.getBoolValue name)
    if readResult = 0 then
      readCorrection sdk serial name " is enabled but not writable"
      noteCorrection serial name "OFF_READ_ONLY"
    else if sameCode readResult sdk.gcAccess then
      noteCorrection serial name "UNAVAILABLE_IN_MONO8_FEATURE_SET"
    else checkMvs readResult (serial ++ ": read " ++ name)

/-! ### Open and close -/

/-- The strategy that is set is also the one without setting it. -/
def setGrabStrategy (serial : String) : MvsProgram Unit := do
  let result ← sdkCall sdk serial .setGrabStrategy
  doUnless (sameCode result sdk.notSupported)
    (checkMvs result (serial ++ ": MV_CC_SetGrabStrategy"))

variable (settings : MvsBackendSettings)

/-- What follows the handle. -/
def configure (group : ActionGroup) (serial : String) : MvsProgram Unit := do
  checkedCall sdk serial .openDevice "MV_CC_OpenDevice"
  modifyCamera serial fun c => { c with opened := true }
  colorRegisters.forM (setRegister sdk serial)
  let acquisition ← ofExcept (lookup settings.cameraAcquisitionSettings serial serial)
  (imageRegisters acquisition).forM (setRegister sdk serial)
  corrections.forM (disableBooleanCorrection sdk serial)
  (packetRegisters settings).forM (setRegister sdk serial)
  doUnless (!settings.packetResendEnabled)
    ((resendCalls settings).forM fun call => checkedCall sdk serial call.1 call.2)
  (triggerRegisters settings group).forM (setRegister sdk serial)
  checkedCall sdk serial (.setImageNodeNum settings.sdkImageBufferNodes) "MV_CC_SetImageNodeNum"
  setGrabStrategy sdk serial
  checkedCall sdk serial .startGrabbing "MV_CC_StartGrabbing"
  modifyCamera serial fun c => { c with grabbing := true }

def stopStream (serial : String) : MvsProgram Unit := do
  ignoredCall sdk serial .stopGrabbing
  modifyCamera serial fun c => { c with grabbing := false }

def closeDevice (serial : String) : MvsProgram Unit := do
  ignoredCall sdk serial .closeDevice
  modifyCamera serial fun c => { c with opened := false }

def closeSession (serial : String) : MvsProgram Unit := do
  doUnless (!((← get).cameras serial).grabbing) (stopStream sdk serial)
  doUnless (!((← get).cameras serial).opened) (closeDevice sdk serial)
  ignoredCall sdk serial .destroyHandle

def openSession (serial : String) (stationId : ℕ) : MvsProgram Unit := do
  modifyCamera serial fun _ => .fresh
  let group ← ofExcept (lookup settings.actionGroups stationId (toString stationId))
  checkedCall sdk serial .createHandle "MV_CC_CreateHandle"
  tryCatch (configure sdk settings group serial) fun e => do
    closeSession sdk serial
    throw e

/-! ### Frames -/

def networkCounters (serial : String) : MvsProgram NetworkCounters := do
  checkedCall sdk serial .getAllMatchInfo "MV_CC_GetAllMatchInfo"
  ask fun n => sdk.counters n serial

def drainFrames (serial : String) : ℕ → ℕ → MvsProgram ℕ
  | 0, _ => throw (.mvsSdkError (serial ++ ": stale frame drain exceeded 32"))
  | left + 1, drained => do
    let result ← sdkCall sdk serial (.getImageBuffer 1)
    if result ≠ 0 ∧ noFrame sdk result then
      return drained
    else
      checkMvs result (serial ++ ": drain stale frame")
      checkedCall sdk serial .freeImageBuffer "free stale frame"
      drainFrames serial left (drained + 1)

def drainStaleFrames (serial : String) : MvsProgram ℕ := drainFrames sdk serial 32 0

structure ReceivedFrame where
  pixels : Bytes
  lostPackets : ℤ
  deviceTimestamp : ℤ

def Frame.width (frame : Frame) : ℤ := if frame.nWidth ≠ 0 then frame.nWidth else frame.nExtendWidth

def Frame.height (frame : Frame) : ℤ :=
  if frame.nHeight ≠ 0 then frame.nHeight else frame.nExtendHeight

def Frame.length (frame : Frame) : ℤ :=
  if frame.nFrameLenEx ≠ 0 then frame.nFrameLenEx else frame.nFrameLen

def imageWidth : ℤ := 2448

def imageHeight : ℤ := 2048

def Frame.pixels (frame : Frame) : Bytes :=
  match frame.pBufAddr with
  | some memory => (List.range (imageWidth * imageHeight).toNat).map memory
  | none => []

def readFrame (serial : String) : MvsProgram ReceivedFrame := do
  let frame ← ask fun n => sdk.frame n serial
  ensure (frame.width = imageWidth && frame.height = imageHeight) (.mvsSdkError
    (serial ++ ": unexpected frame size " ++ toString frame.width ++ "x" ++ toString frame.height))
  ensure (frame.enPixelType = sdk.mono8)
    (.mvsSdkError (serial ++ ": frame pixel type is not Mono8"))
  ensure (imageWidth * imageHeight ≤ frame.length && frame.pBufAddr.isSome)
    (.mvsSdkError (serial ++ ": incomplete Mono8 frame buffer"))
  return {
    pixels := frame.pixels
    lostPackets := frame.nLostPacket
    deviceTimestamp := (frame.nDevTimeStampHigh <<< 32 ||| frame.nDevTimeStampLow : ℕ) }

def pngFailure (e : PngError) : MvsError := .other (match e.kind with
  | .valueError => "ValueError"
  | .fileExistsError => "FileExistsError"
  | .structError => "struct.error"
  | .indexError => "IndexError") e.text

/-- What the file holds once `write_mono8_png_atomic` has replaced it. -/
def saveImage (path : String) (pixels : Bytes) : MvsProgram Bytes := do
  let s ← get
  let content ← ofExcept ((writeMono8PngAtomic sdk.zlib path (s.files path).isSome pixels imageWidth
    imageHeight settings.pngCompressionLevel).mapError pngFailure)
  ofExcept (raised (← ask fun n => sdk.writeFile n path))
  modify fun s => { s with files := Function.update s.files path (some content) }
  return content

def receiveAndSave (serial path : String) (countersBefore : NetworkCounters) :
    MvsProgram ImageArtifact := do
  checkedCall sdk serial (.getImageBuffer settings.acquisitionTimeoutMs) "MV_CC_GetImageBuffer"
  let arrivalMonotonicNs ← ask sdk.monotonicNs
  let arrivalWallNs ← ask sdk.wallNs
  let received ← tryFinally (readFrame sdk serial)
    (checkedCall sdk serial .freeImageBuffer "MV_CC_FreeImageBuffer")
  let countersAfter ← networkCounters sdk serial
  let content ← saveImage sdk settings path received.pixels
  return {
    cameraId := serial
    filePath := path
    sha256 := sdk.sha256 content
    fileSizeBytes := content.length
    width := imageWidth
    height := imageHeight
    pixelFormat := mono8Png
    cameraTimestampRaw := received.deviceTimestamp
    cameraTimestampDomain := "DEVICE_TICKS_UNSYNCED"
    cameraTimestampNs := 0
    cameraTimestampSynchronized := false
    hostArrivalMonotonicNs := arrivalMonotonicNs
    hostArrivalTimestampNs := arrivalWallNs
    packetLossCount := received.lostPackets
    packetResendCount := max 0 (countersAfter.resendPackets - countersBefore.resendPackets) }

end

theorem lookup_ok {κ ν : Type} [DecidableEq κ] {d : OrderedDict κ ν} {key : κ} {text : String}
    {value : ν} (h : lookup d key text = .ok value) : d.get? key = some value := by
  unfold lookup at h
  split at h
  · rename_i hget
    cases h
    exact hget
  · cases h

/-! ### The camera behind a session -/

/-- The device has open what the session thinks it has. -/
def Poised (serial : String) (s : MvsState) : Prop :=
  (s.devices serial).owed =
    Owed.of true (s.cameras serial).opened (s.cameras serial).grabbing

def Idle (serial : String) (s : MvsState) : Prop :=
  (s.devices serial).owed = Owed.of false false false

/-- What was last written to a register is what it holds. -/
def Configured (rs : List (String × RegisterValue)) (registers : String → Option RegisterValue) :
    Prop :=
  ∀ name value, rs.reverse.lookup name = some value → registers name = some value

/-- What a status says of its correction: it was read back as off, after it was written or though
it cannot be, or the camera lets nobody look at it. -/
def StatusHolds (device : Device) (name status : String) : Prop :=
  status = "OFF_VERIFIED" ∧ device.registers name = some (.boolean false) ∧
      device.readings name = .read false ∨
    status = "OFF_READ_ONLY" ∧ device.readings name = .read false ∨
    status = "UNAVAILABLE_IN_MONO8_FEATURE_SET" ∧ device.readings name = .denied

structure Corrected (done : List String) (camera : CameraSession) (device : Device) : Prop where
  keys : camera.correctionStatus.keys = done
  holds : ∀ name status, camera.correctionStatus.get? name = some status →
    StatusHolds device name status

structure Stage (serial : String) (rs : List (String × RegisterValue)) (done : List String)
    (s : MvsState) : Prop where
  owed : (s.devices serial).owed = Owed.of true true false
  opened : (s.cameras serial).opened = true
  stopped : (s.cameras serial).grabbing = false
  configured : Configured rs (s.devices serial).registers
  corrected : Corrected done (s.cameras serial) (s.devices serial)

def registerContract (settings : MvsBackendSettings) (group : ActionGroup)
    (acquisition : CameraAcquisitionSettings) : List (String × RegisterValue) :=
  colorRegisters ++ imageRegisters acquisition ++ packetRegisters settings ++
    triggerRegisters settings group

structure Streaming (settings : MvsBackendSettings) (stationId : ℕ) (out : ℤ) (serial : String)
    (s : MvsState) : Prop where
  owed : (s.devices serial).owed = { Owed.of true true true with buffers := out }
  opened : (s.cameras serial).opened = true
  grabbing : (s.cameras serial).grabbing = true
  configured : ∃ group acquisition, settings.actionGroups.get? stationId = some group ∧
    settings.cameraAcquisitionSettings.get? serial = some acquisition ∧
    Configured (registerContract settings group acquisition) (s.devices serial).registers
  corrected : Corrected corrections (s.cameras serial) (s.devices serial)

theorem Stage.poised {serial : String} {rs : List (String × RegisterValue)} {done : List String}
    {s : MvsState} (h : Stage serial rs done s) : Poised serial s := by
  rw [Poised, h.owed, h.opened, h.stopped]

theorem Configured.write {rs : List (String × RegisterValue)}
    {registers : String → Option RegisterValue} (h : Configured rs registers)
    (name : String) (value : RegisterValue) :
    Configured (rs ++ [(name, value)]) (Function.update registers name (some value)) := by
  intro other v hv
  rw [List.reverse_append, List.reverse_singleton, List.singleton_append, List.lookup_cons] at hv
  by_cases hsame : other = name
  · subst hsame
    rw [beq_self_eq_true] at hv
    rw [Function.update_self]
    exact hv
  · rw [beq_false_of_ne hsame] at hv
    rw [Function.update_of_ne hsame]
    exact h other v hv

theorem Configured.write_other {rs : List (String × RegisterValue)}
    {registers : String → Option RegisterValue} (h : Configured rs registers) {name : String}
    (hname : name ∉ rs.map Prod.fst) (value : RegisterValue) :
    Configured rs (Function.update registers name (some value)) := by
  intro other v hv
  have hother : other ≠ name := by
    rintro rfl
    obtain ⟨before, after, heq, -⟩ := List.lookup_eq_some_iff.mp hv
    have hmem : (other, v) ∈ rs.reverse := heq ▸ List.mem_append_right _ List.mem_cons_self
    exact hname (List.mem_map.mpr ⟨(other, v), List.mem_reverse.mp hmem, rfl⟩)
  rw [Function.update_of_ne hother]
  exact h other v hv

/-- What is done to other registers and switches takes nothing back. -/
theorem Corrected.of_same {done : List String} {camera : CameraSession} {device device' : Device}
    (h : Corrected done camera device)
    (hregisters : ∀ name ∈ done, device'.registers name = device.registers name)
    (hreadings : ∀ name ∈ done, device'.readings name = device.readings name) :
    Corrected done camera device' where
  keys := h.keys
  holds name status hstatus := by
    have hmem : name ∈ done := h.keys ▸ OrderedDict.mem_keys.mpr ⟨_, hstatus⟩
    have hholds := h.holds name status hstatus
    rw [StatusHolds] at hholds ⊢
    rw [hregisters name hmem, hreadings name hmem]
    exact hholds

theorem Corrected.note {done : List String} {camera : CameraSession} {device : Device}
    (h : Corrected done camera device) {name status : String} (hname : name ∉ done)
    (hstatus : StatusHolds device name status) :
    Corrected (done ++ [name])
      { camera with correctionStatus := camera.correctionStatus.insert name status } device where
  keys := by
    have hkey : name ∉ camera.correctionStatus.keys := h.keys ▸ hname
    change (camera.correctionStatus.insert name status).entries.map Prod.fst = _
    rw [OrderedDict.entries_insert_of_not_mem hkey, List.map_append, List.map_singleton]
    exact congrArg (· ++ [name]) h.keys
  holds other otherStatus hother := by
    by_cases hsame : other = name
    · subst hsame
      rw [OrderedDict.get?_insert, if_pos rfl] at hother
      exact Option.some.inj hother ▸ hstatus
    · rw [OrderedDict.get?_insert_of_ne _ _ hsame] at hother
      exact h.holds other otherStatus hother

section
variable {sdk : Sdk} {serial : String} {s : MvsState}

theorem Poised.called {call : SdkCall} {outcome : Outcome} (h : Poised serial s)
    (hcall : call.quiet = true ∨ call.closes = false ∧ succeeded outcome = false) :
    Poised serial (s.called sdk serial call outcome) := by
  have howed : (s.devices serial).owed.after call (succeeded outcome) =
      (s.devices serial).owed := by
    rcases hcall with hquiet | ⟨hcloses, hfailed⟩
    · exact owed_after_quiet hquiet _ _
    · rw [hfailed, owed_after_failed hcloses]
  rw [Poised, called_device]
  exact howed.trans h

variable {rs : List (String × RegisterValue)} {done : List String}

theorem Corrected.called {camera : CameraSession} {device : Device} {call : SdkCall}
    {outcome : Outcome} (h : Corrected done camera device)
    (hkeeps : call.writes = false ∨ succeeded outcome = false) (hlooks : call.looks = false) :
    Corrected done camera (device.after sdk call outcome) :=
  h.of_same (fun _ _ => by rw [registers_after _ _ _ hkeeps])
    fun _ _ => by rw [readings_after _ _ _ hlooks]

theorem Stage.called {call : SdkCall} {outcome : Outcome} (h : Stage serial rs done s)
    (hquiet : call.quiet = true)
    (hkeeps : call.writes = false ∨ succeeded outcome = false) (hlooks : call.looks = false) :
    Stage serial rs done (s.called sdk serial call outcome) where
  owed := by
    rw [called_device]
    exact (owed_after_quiet hquiet _ _).trans h.owed
  opened := h.opened
  stopped := h.stopped
  configured := by
    rw [called_device, registers_after _ _ _ hkeeps]
    exact h.configured
  corrected := by
    rw [called_device]
    exact h.corrected.called hkeeps hlooks

theorem Stage.looked {name : String} {outcome : Outcome} (h : Stage serial rs done s)
    (hname : name ∉ done) :
    Stage serial rs done (s.called sdk serial (.getBoolValue name) outcome) where
  owed := by
    rw [called_device]
    exact h.owed
  opened := h.opened
  stopped := h.stopped
  configured := by
    rw [called_device]
    exact h.configured
  corrected := by
    rw [called_device]
    refine h.corrected.of_same (fun _ _ => rfl) fun other hother => ?_
    exact Function.update_of_ne (fun hsame : other = name => hname (hsame ▸ hother)) _ _

theorem Stage.read {name : String} (h : Stage serial rs done s) (hname : name ∉ done) (on : Bool) :
    Stage serial rs done (s.read serial name on) where
  owed := by
    rw [read_device]
    exact h.owed
  opened := h.opened
  stopped := h.stopped
  configured := by
    rw [read_device]
    exact h.configured
  corrected := by
    rw [read_device]
    refine h.corrected.of_same (fun _ _ => rfl) fun other hother => ?_
    exact Function.update_of_ne (fun hsame : other = name => hname (hsame ▸ hother)) _ _

theorem Stage.wrote {name : String} {value : RegisterValue} (h : Stage serial rs done s)
    (hname : name ∉ done) :
    Stage serial (rs ++ [(name, value)]) done
      (s.called sdk serial (.setValue name value) (.ok 0)) where
  owed := by
    rw [called_device]
    exact h.owed
  opened := h.opened
  stopped := h.stopped
  configured := by
    rw [called_device]
    exact h.configured.write name value
  corrected := by
    rw [called_device]
    refine h.corrected.of_same (fun other hother => ?_) fun _ _ => rfl
    exact Function.update_of_ne (fun hsame : other = name => hname (hsame ▸ hother)) _ _

theorem Stage.wrote_other {name : String} {value : RegisterValue} (h : Stage serial rs done s)
    (hname : name ∉ done) (hother : name ∉ rs.map Prod.fst) :
    Stage serial rs done (s.called sdk serial (.setValue name value) (.ok 0)) ∧
      ((s.called sdk serial (.setValue name value) (.ok 0)).devices serial).registers name =
        some value := by
  have hregisters :
      ((s.called sdk serial (.setValue name value) (.ok 0)).devices serial).registers =
      Function.update (s.devices serial).registers name (some value) := by
    rw [called_device]
    rfl
  refine ⟨⟨(h.wrote hname).owed, h.opened, h.stopped, ?_, (h.wrote hname).corrected⟩, ?_⟩
  · rw [hregisters]
    exact h.configured.write_other hother value
  · rw [hregisters, Function.update_self]

theorem meets_set_register {register : String × RegisterValue} (hname : register.1 ∉ done) :
    Meets (Stage serial rs done) (setRegister sdk serial register)
      (fun _ => Stage serial (rs ++ [register]) done) (fun _ => Poised serial) :=
  meets_checked_call (fun _ h => h.wrote hname) fun _ _ _ h _ => h.poised.called (.inl rfl)

theorem meets_set_registers {registers : List (String × RegisterValue)}
    (hnames : ∀ register ∈ registers, register.1 ∉ done) :
    Meets (Stage serial rs done) (registers.forM (setRegister sdk serial))
      (fun _ => Stage serial (rs ++ registers) done) (fun _ => Poised serial) := by
  have hloop : Meets (Stage serial (rs ++ []) done) (registers.forM (setRegister sdk serial))
      (fun _ => Stage serial (rs ++ registers) done) (fun _ => Poised serial) := by
    refine meets_for_m (I := fun written => Stage serial (rs ++ written) done) ?_
    intro written register rest hsplit
    rw [← List.append_assoc]
    exact meets_set_register
      (hnames register (hsplit ▸ List.mem_append_right _ List.mem_cons_self))
  rwa [List.append_nil] at hloop

theorem meets_quiet_call {call : SdkCall} {operation : String} (hquiet : call.quiet = true)
    (hother : call.writes = false) (hlooks : call.looks = false) :
    Meets (Stage serial rs done) (checkedCall sdk serial call operation)
      (fun _ => Stage serial rs done) (fun _ => Poised serial) :=
  meets_checked_call (fun _ h => h.called hquiet (.inl hother) hlooks) fun _ _ _ h _ =>
    h.poised.called (.inl hquiet)

theorem meets_note_correction {name status : String} (hname : name ∉ done) :
    Meets (fun s => Stage serial rs done s ∧ StatusHolds (s.devices serial) name status)
      (noteCorrection serial name status)
      (fun _ => Stage serial rs (done ++ [name])) (fun _ => Poised serial) := by
  refine meets_modify_camera fun s h => ⟨h.1.owed, ?_, ?_, h.1.configured, ?_⟩
  · rw [with_camera]
    exact h.1.opened
  · rw [with_camera]
    exact h.1.stopped
  · rw [with_camera]
    exact h.1.corrected.note hname h.2

theorem meets_check_mvs {code : ℤ} {operation : String} {P : MvsState → Prop} :
    Meets P (checkMvs code operation) (fun _ s => P s ∧ code = 0) (fun _ => P) :=
  meets_ensure (fun hok _ h => ⟨h, of_decide_eq_true hok⟩) fun _ _ h => h

/-- Only a switch that is read as off is passed. -/
theorem meets_read_correction {name enabledText : String} {P : MvsState → Prop}
    (hread : ∀ s on, P s → P (s.read serial name on)) :
    Meets P (readCorrection sdk serial name enabledText)
      (fun _ s => P s ∧ (s.devices serial).readings name = .read false) (fun _ => P) := by
  refine meets_bind (R := fun current s =>
    P s ∧ (s.devices serial).readings name = .read current) (fun s h => ⟨hread s _ h, ?_⟩)
    fun current => meets_ensure (fun hoff s h => ⟨h.1, ?_⟩) fun _ _ h => h.1
  · rw [read_device]
    exact Function.update_self ..
  · rw [h.2, Bool.not_eq_true' .. |>.mp hoff]

/-- However the camera takes it, the correction is looked into or the opening fails. -/
theorem meets_disable_boolean_correction {name : String} (hname : name ∉ done)
    (hother : name ∉ rs.map Prod.fst) :
    Meets (Stage serial rs done) (disableBooleanCorrection sdk serial name)
      (fun _ => Stage serial rs (done ++ [name])) (fun _ => Poised serial) := by
  let written (s : MvsState) : Prop :=
    Stage serial rs done s ∧ (s.devices serial).registers name = some (.boolean false)
  have hlooked : ∀ s outcome, written s → written (s.called sdk serial (.getBoolValue name)
      outcome) := by
    intro s outcome h
    refine ⟨h.1.looked hname, ?_⟩
    rw [called_device, registers_after _ _ _ (.inl rfl)]
    exact h.2
  have hread : ∀ s on, written s → written (s.read serial name on) := by
    intro s on h
    refine ⟨h.1.read hname on, ?_⟩
    rw [read_device]
    exact h.2
  refine meets_bind (R := fun code s => Stage serial rs done s ∧ (code = 0 → written s)) ?_ ?_
  · refine meets_sdk_call (fun s code h => ?_) fun _ _ _ h => h.poised.called (.inl rfl)
    by_cases hzero : code = 0
    · subst hzero
      have hwrote := @Stage.wrote_other sdk serial s rs done name (.boolean false) h hname hother
      exact ⟨hwrote.1, fun _ => hwrote⟩
    · have hfailed : succeeded (.ok code) = false :=
        decide_eq_false fun h => hzero (Option.some.inj h)
      exact ⟨h.called rfl (.inr hfailed) rfl, fun h => absurd h hzero⟩
  intro result
  by_cases hzero : result = 0
  · rw [if_pos hzero]
    refine meets_bind (R := fun _ => written) ?_ fun _ => meets_bind (R := fun _ s =>
      written s ∧ (s.devices serial).readings name = .read false) ?_ fun _ => ?_
    · exact meets_checked_call (fun s h => hlooked s _ (h.2 hzero))
        fun s outcome _ h _ => h.1.poised.called (.inl rfl)
    · exact meets_weaken (meets_read_correction hread) (fun _ h => h) (fun _ _ h => h)
        fun _ _ h => h.1.poised
    · exact meets_weaken (meets_note_correction hname)
        (fun _ h => ⟨h.1.1, .inl ⟨rfl, h.1.2, h.2⟩⟩) (fun _ _ h => h) fun _ _ h => h
  · rw [if_neg hzero]
    refine meets_bind (R := fun _ => Stage serial rs done) ?_ fun _ =>
      meets_bind (R := fun code s => Stage serial rs done s ∧
        (sameCode code sdk.gcAccess = true → (s.devices serial).readings name = .denied)) ?_
      fun readResult => ?_
    · refine meets_do_unless (fun _ _ h => h.1) fun _ => ?_
      exact meets_weaken meets_check_mvs (fun _ h => h.1) (fun _ _ h => h.1) fun _ _ h => h.poised
    · refine meets_sdk_call (fun s code h => ⟨h.looked hname, fun haccess => ?_⟩)
        fun _ _ _ h => h.poised.called (.inl rfl)
      rw [called_device]
      refine (Function.update_self ..).trans ?_
      rw [Except.toOption, Option.any_some, haccess, if_pos rfl]
    · by_cases hread : readResult = 0
      · rw [if_pos hread]
        refine meets_bind (R := fun _ s => Stage serial rs done s ∧
          (s.devices serial).readings name = .read false) ?_ fun _ => ?_
        · exact meets_weaken (meets_read_correction fun _ on h => h.read hname on)
            (fun _ h => h.1) (fun _ _ h => h) fun _ _ h => h.poised
        · exact meets_weaken (meets_note_correction hname)
            (fun _ h => ⟨h.1, .inr (.inl ⟨rfl, h.2⟩)⟩) (fun _ _ h => h) fun _ _ h => h
      · rw [if_neg hread]
        by_cases haccess : sameCode readResult sdk.gcAccess = true
        · rw [if_pos haccess]
          exact meets_weaken (meets_note_correction hname)
            (fun _ h => ⟨h.1, .inr (.inr ⟨rfl, h.2 haccess⟩)⟩) (fun _ _ h => h) fun _ _ h => h
        · rw [if_neg haccess]
          exact meets_weaken meets_check_mvs (fun _ h => h.1) (fun _ _ h => absurd h.2 hread)
            fun _ _ h => h.poised

theorem meets_set_grab_strategy :
    Meets (Stage serial rs done) (setGrabStrategy sdk serial) (fun _ => Stage serial rs done)
      (fun _ => Poised serial) := by
  refine meets_bind (R := fun _ => Stage serial rs done) ?_ fun _ => ?_
  · exact meets_sdk_call (fun _ _ h => h.called rfl (.inl rfl) rfl)
      fun _ _ _ h => h.poised.called (.inl rfl)
  · refine meets_do_unless (fun _ _ h => h) fun _ => ?_
    exact meets_weaken meets_check_mvs (fun _ h => h) (fun _ _ h => h.1) fun _ _ h => h.poised

variable {settings : MvsBackendSettings}

def Fresh (serial : String) (s : MvsState) : Prop :=
  (s.devices serial).owed = Owed.of true false false ∧ s.cameras serial = .fresh

theorem meets_open_device :
    Meets (Fresh serial) (do
        checkedCall sdk serial .openDevice "MV_CC_OpenDevice"
        modifyCamera serial fun c => { c with opened := true })
      (fun _ => Stage serial [] []) (fun _ => Poised serial) := by
  have hfresh : ∀ s, Fresh serial s → Poised serial s := fun s h => by
    rw [Poised, h.1, h.2]
    rfl
  refine meets_bind (R := fun _ s => (s.devices serial).owed = Owed.of true true false ∧
    s.cameras serial = .fresh) ?_ fun _ => ?_
  · refine meets_checked_call (fun s h => ⟨?_, h.2⟩) fun s _ _ h hfailed =>
      (hfresh s h).called (.inr ⟨rfl, hfailed⟩)
    rw [called_device]
    exact congrArg (Owed.after · .openDevice true) h.1
  · refine meets_modify_camera fun s h => ⟨h.1, ?_, ?_, nofun, ?_, ?_⟩
    · rw [with_camera]
    · rw [with_camera, h.2]
      rfl
    · rw [with_camera, h.2]
      rfl
    · rw [with_camera, h.2]
      exact fun _ _ hnone => by cases hnone

theorem meets_start_grabbing {stationId : ℕ} {group : ActionGroup}
    {acquisition : CameraAcquisitionSettings}
    (hgroup : settings.actionGroups.get? stationId = some group)
    (hacquisition : settings.cameraAcquisitionSettings.get? serial = some acquisition) :
    Meets (Stage serial (registerContract settings group acquisition) corrections) (do
        checkedCall sdk serial .startGrabbing "MV_CC_StartGrabbing"
        modifyCamera serial fun c => { c with grabbing := true })
      (fun _ => Streaming settings stationId 0 serial) (fun _ => Poised serial) := by
  refine meets_bind (R := fun _ s => (s.devices serial).owed = Owed.of true true true ∧
    (s.cameras serial).opened = true ∧
    Configured (registerContract settings group acquisition) (s.devices serial).registers ∧
    Corrected corrections (s.cameras serial) (s.devices serial)) ?_ fun _ => ?_
  · refine meets_checked_call (fun s h => ?_) fun _ _ _ h hfailed =>
      h.poised.called (.inr ⟨rfl, hfailed⟩)
    rw [called_device]
    refine ⟨?_, h.opened, h.configured, h.corrected.called (.inl rfl) rfl⟩
    exact congrArg (Owed.after · .startGrabbing true) h.owed
  · refine meets_modify_camera fun s ⟨howed, hopened, hconfigured, hcorrected⟩ => ?_
    refine ⟨howed, ?_, ?_, ⟨group, acquisition, hgroup, hacquisition, hconfigured⟩, ?_⟩
    · rw [with_camera]
      exact hopened
    · rw [with_camera]
    · rw [with_camera]
      exact ⟨hcorrected.keys, hcorrected.holds⟩

/-- The four corrections, none of which is among the registers written before. -/
theorem meets_corrections (hother : ∀ name ∈ corrections, name ∉ rs.map Prod.fst) :
    Meets (Stage serial rs []) (corrections.forM (disableBooleanCorrection sdk serial))
      (fun _ => Stage serial rs corrections) (fun _ => Poised serial) := by
  have hnodup : corrections.Nodup := by decide
  refine meets_for_m (I := fun done => Stage serial rs done) fun done name rest hsplit => ?_
  refine meets_disable_boolean_correction ?_
    (hother name (hsplit ▸ List.mem_append_right _ List.mem_cons_self))
  intro hmem
  rw [hsplit] at hnodup
  exact (List.nodup_append.mp hnodup).2.2 name hmem name List.mem_cons_self rfl

theorem names_avoid {registers : List (String × RegisterValue)} {names : List String}
    (hnames : registers.map Prod.fst = names) (h : ∀ name ∈ names, name ∉ corrections) :
    ∀ register ∈ registers, register.1 ∉ corrections :=
  fun _ hmem => h _ (hnames ▸ List.mem_map_of_mem hmem)

/-- A configured camera streams with everything written that the settings say. -/
theorem meets_configure {stationId : ℕ} {group : ActionGroup}
    (hgroup : settings.actionGroups.get? stationId = some group) :
    Meets (Fresh serial) (configure sdk settings group serial)
      (fun _ => Streaming settings stationId 0 serial) (fun _ => Poised serial) := by
  unfold configure
  rw [← bind_assoc]
  refine meets_bind meets_open_device fun _ => meets_bind
    (meets_set_registers fun _ _ => List.not_mem_nil) fun _ => ?_
  rw [List.nil_append]
  refine meets_bind (R := fun acquisition s =>
      settings.cameraAcquisitionSettings.get? serial = some acquisition ∧
        Stage serial colorRegisters [] s) ?_ fun acquisition => ?_
  · exact meets_of_except (fun acquisition hlookup s h => ⟨lookup_ok hlookup, h⟩)
      fun _ _ _ h => h.poised
  refine meets_of_fact fun hacquisition => ?_
  refine meets_bind (meets_set_registers fun _ _ => List.not_mem_nil) fun _ =>
    meets_bind (meets_corrections ?_) fun _ => meets_bind (meets_set_registers ?_) fun _ =>
    meets_bind ?_ fun _ => meets_bind (meets_set_registers ?_) fun _ =>
    meets_bind (meets_quiet_call rfl rfl rfl) fun _ => meets_bind meets_set_grab_strategy fun _ =>
    meets_start_grabbing hgroup hacquisition
  · rw [show (colorRegisters ++ imageRegisters acquisition).map Prod.fst = ["TriggerMode",
      "PixelFormat", "BalanceWhiteAuto", "ExposureAuto", "ExposureTime", "GainAuto", "Gain",
      "OffsetX", "OffsetY", "Width", "Height", "PixelFormat"] from rfl]
    decide
  · exact @names_avoid _ ["GevSCPSPacketSize", "GevSCPD"] rfl (by decide)
  · refine meets_do_unless (fun _ _ h => h) fun _ => ?_
    refine meets_for_m (I := fun _ => Stage serial _ corrections) fun done call rest hsplit => ?_
    have hmem : call ∈ resendCalls settings :=
      hsplit ▸ List.mem_append_right _ List.mem_cons_self
    have hcalls : call.1.quiet = true ∧ call.1.writes = false ∧ call.1.looks = false := by
      simp only [resendCalls, List.mem_cons, List.not_mem_nil, or_false] at hmem
      rcases hmem with rfl | rfl | rfl <;> exact ⟨rfl, rfl, rfl⟩
    exact meets_quiet_call hcalls.1 hcalls.2.1 hcalls.2.2
  · exact @names_avoid _ ["TriggerSource", "ActionDeviceKey", "ActionGroupKey",
      "ActionGroupMask", "TriggerMode"] rfl (by decide)

theorem meets_stop_stream :
    Meets (fun s => Poised serial s ∧ (s.cameras serial).grabbing = true) (stopStream sdk serial)
      (fun _ s => Poised serial s ∧ (s.cameras serial).grabbing = false) (fun _ _ => False) := by
  refine meets_bind (R := fun _ s => (s.devices serial).owed =
    Owed.of true (s.cameras serial).opened false) ?_ fun _ => ?_
  · refine meets_ignored_call fun s outcome h => ?_
    have howed := h.1
    rw [Poised, h.2] at howed
    rw [called_device]
    exact congrArg (Owed.after · .stopGrabbing (succeeded outcome)) howed
  · refine meets_modify_camera fun s h => ?_
    rw [Poised, with_camera]
    exact ⟨h, rfl⟩

theorem meets_close_device :
    Meets (fun s => Poised serial s ∧ (s.cameras serial).grabbing = false ∧
        (s.cameras serial).opened = true) (closeDevice sdk serial)
      (fun _ s => Poised serial s ∧ (s.cameras serial).grabbing = false ∧
        (s.cameras serial).opened = false) (fun _ _ => False) := by
  refine meets_bind (R := fun _ s => (s.devices serial).owed = Owed.of true false false ∧
    (s.cameras serial).grabbing = false) ?_ fun _ => ?_
  · refine meets_ignored_call fun s outcome ⟨howed, hgrabbing, hopened⟩ => ⟨?_, hgrabbing⟩
    rw [Poised, hgrabbing, hopened] at howed
    rw [called_device]
    exact congrArg (Owed.after · .closeDevice (succeeded outcome)) howed
  · refine meets_modify_camera fun s h => ?_
    rw [Poised, with_camera, h.2]
    exact ⟨h.1, rfl, rfl⟩

/-- Whatever the session has open is closed, and nothing is raised. -/
theorem meets_close_session :
    Meets (Poised serial) (closeSession sdk serial) (fun _ => Idle serial) (fun _ _ => False) := by
  refine meets_get_bind fun s₁ => meets_bind
    (R := fun _ s => Poised serial s ∧ (s.cameras serial).grabbing = false) ?_ fun _ =>
    meets_get_bind fun s₂ => meets_bind (R := fun _ s => Poised serial s ∧
      (s.cameras serial).grabbing = false ∧ (s.cameras serial).opened = false) ?_ fun _ => ?_
  · refine meets_do_unless (fun hskip s ⟨hs, h⟩ => ⟨h, ?_⟩) fun hdo => ?_
    · rw [hs]
      simpa using hskip
    · refine meets_weaken meets_stop_stream (fun s ⟨hs, h⟩ => ⟨h, ?_⟩) (fun _ _ h => h) nofun
      rw [hs]
      simpa using hdo
  · refine meets_do_unless (fun hskip s ⟨hs, h, hgrabbing⟩ => ⟨h, hgrabbing, ?_⟩) fun hdo => ?_
    · rw [hs]
      simpa using hskip
    · refine meets_weaken meets_close_device (fun s ⟨hs, h, hgrabbing⟩ => ⟨h, hgrabbing, ?_⟩)
        (fun _ _ h => h) nofun
      rw [hs]
      simpa using hdo
  · refine meets_ignored_call fun s outcome ⟨howed, hgrabbing, hopened⟩ => ?_
    rw [Poised, hgrabbing, hopened] at howed
    rw [Idle, called_device]
    exact congrArg (Owed.after · .destroyHandle (succeeded outcome)) howed

/-- A camera is opened, or nothing of it stays open. -/
theorem meets_open_session {stationId : ℕ} :
    Meets (Idle serial) (openSession sdk settings serial stationId)
      (fun _ => Streaming settings stationId 0 serial) (fun _ => Idle serial) := by
  unfold openSession
  refine meets_bind (R := fun _ s => Idle serial s ∧ s.cameras serial = .fresh) ?_ fun _ =>
    meets_bind (R := fun group s => settings.actionGroups.get? stationId = some group ∧
      Idle serial s ∧ s.cameras serial = .fresh) ?_ fun group => meets_of_fact fun hgroup =>
    meets_bind (R := fun _ => Fresh serial) ?_ fun _ => ?_
  · exact meets_modify_camera fun s h => ⟨h, with_camera ..⟩
  · refine meets_of_except (fun group hlookup s h => ⟨?_, h⟩) fun _ _ _ h => h.1
    exact lookup_ok hlookup
  · refine meets_checked_call (fun s h => ⟨?_, h.2⟩) fun s outcome _ h hfailed => ?_
    · rw [called_device]
      exact congrArg (Owed.after · .createHandle true) h.1
    · rw [Idle, called_device]
      have howed := h.1
      rw [Idle] at howed
      simp only [Device.after, hfailed, howed]
      rfl
  · refine meets_catch (meets_configure hgroup) fun e => ?_
    exact meets_bind (meets_weaken meets_close_session (fun _ h => h) (fun _ _ h => h)
      fun _ _ => False.elim) fun _ => meets_throw _ (fun _ => Idle serial) e

/-! ### Frames of a camera that streams -/

variable {stationId : ℕ} {out : ℤ}

theorem Streaming.asked (h : Streaming settings stationId out serial s) :
    Streaming settings stationId out serial { s with asked := s.asked + 1 } :=
  ⟨h.owed, h.opened, h.grabbing, h.configured, h.corrected⟩

theorem Streaming.called {call : SdkCall} {outcome : Outcome} {out' : ℤ}
    (h : Streaming settings stationId out serial s) (hreads : call.writes = false)
    (hlooks : call.looks = false)
    (howed : Owed.after { Owed.of true true true with buffers := out } call
      (succeeded outcome) = { Owed.of true true true with buffers := out' }) :
    Streaming settings stationId out' serial (s.called sdk serial call outcome) where
  owed := by
    rw [called_device]
    exact (congrArg (Owed.after · call (succeeded outcome)) h.owed).trans howed
  opened := h.opened
  grabbing := h.grabbing
  configured := by
    rw [called_device, registers_after _ _ _ (.inl hreads)]
    exact h.configured
  corrected := by
    rw [called_device]
    exact h.corrected.called (.inl hreads) hlooks

/-- The camera streams, and its last request for a frame found none. -/
def Drained (settings : MvsBackendSettings) (stationId : ℕ) (serial : String) (s : MvsState) :
    Prop :=
  Streaming settings stationId 0 serial s ∧ (s.devices serial).emptied = true

/-- A buffer is handed back whether the call says so or not. -/
theorem meets_free {operation : String} :
    Meets (Streaming settings stationId 1 serial)
      (checkedCall sdk serial .freeImageBuffer operation)
      (fun _ => Streaming settings stationId 0 serial)
      (fun _ => Streaming settings stationId 0 serial) :=
  meets_checked_call (fun _ h => h.called rfl rfl rfl) fun _ _ _ h _ => h.called rfl rfl rfl

/-- The loop ends at a request that finds no frame. -/
theorem meets_drain_frames (left drained : ℕ) :
    Meets (Streaming settings stationId 0 serial) (drainFrames sdk serial left drained)
      (fun _ => Drained settings stationId serial)
      (fun _ => Streaming settings stationId 0 serial) := by
  induction left generalizing drained with
  | zero => exact fun _ h => h
  | succ left ih =>
    unfold drainFrames
    refine meets_bind (R := fun code s =>
      Streaming settings stationId (code = 0 : Bool).toInt serial s ∧
      (code ≠ 0 → noFrame sdk code = true → (s.devices serial).emptied = true)) ?_ fun code => ?_
    · refine meets_sdk_call (fun s code h => ⟨h.called rfl rfl ?_, fun hcode hnone => ?_⟩)
        fun _ _ _ h => h.called rfl rfl rfl
      · by_cases hzero : code = 0
        · subst hzero
          rfl
        · simp only [succeeded, Except.toOption, Option.some.injEq, hzero, decide_false]
          rfl
      · rw [called_device]
        simp only [Device.after, succeeded, Except.toOption, Option.some.injEq, hcode,
          decide_false, Option.any_some, hnone]
        rfl
    by_cases hnone : code ≠ 0 ∧ noFrame sdk code = true
    · rw [if_pos hnone]
      refine fun s h => ⟨?_, h.2 hnone.1 hnone.2⟩
      have hstream := h.1
      rw [decide_eq_false hnone.1] at hstream
      exact hstream
    · rw [if_neg hnone]
      refine meets_bind (R := fun _ => Streaming settings stationId 1 serial) ?_ fun _ =>
        meets_bind meets_free fun _ => ih (drained + 1)
      refine meets_ensure (fun hzero s h => ?_) fun hnonzero s h => ?_
      · have hstream := h.1
        rw [hzero] at hstream
        exact hstream
      · have hstream := h.1
        rw [hnonzero] at hstream
        exact hstream

theorem meets_network_counters {P : MvsState → Prop}
    (hcalled : ∀ s outcome, P s → P (s.called sdk serial .getAllMatchInfo outcome))
    (hask : ∀ s, P s → P { s with asked := s.asked + 1 }) :
    Meets P (networkCounters sdk serial) (fun _ => P) (fun _ => P) :=
  meets_bind (R := fun _ => P)
    (meets_checked_call (fun s h => hcalled s _ h) fun s outcome _ h _ => hcalled s outcome h)
    fun _ => meets_ask hask

theorem Streaming.counted {outcome : Outcome} (h : Streaming settings stationId out serial s) :
    Streaming settings stationId out serial (s.called sdk serial .getAllMatchInfo outcome) :=
  h.called rfl rfl (owed_after_quiet rfl _ _)

theorem Drained.counted {outcome : Outcome} (h : Drained settings stationId serial s) :
    Drained settings stationId serial (s.called sdk serial .getAllMatchInfo outcome) := by
  refine ⟨h.1.counted, ?_⟩
  rw [called_device]
  exact h.2

theorem keeps_read_frame :
    Keeps (Streaming settings stationId out serial) (readFrame sdk serial) :=
  keeps_bind (meets_ask fun _ h => h.asked) fun _ =>
    keeps_bind (meets_ensure (fun _ _ h => h) fun _ _ h => h) fun _ =>
    keeps_bind (meets_ensure (fun _ _ h => h) fun _ _ h => h) fun _ =>
    keeps_bind (meets_ensure (fun _ _ h => h) fun _ _ h => h) fun _ => keeps_pure _

theorem keeps_save_image {path : String} {pixels : Bytes} :
    Keeps (Streaming settings stationId out serial) (saveImage sdk settings path pixels) :=
  meets_get_bind fun _ => meets_bind (R := fun _ => Streaming settings stationId out serial)
    (meets_of_except (fun _ _ _ h => h.2) fun _ _ _ h => h.2) fun _ =>
    keeps_bind (meets_ask fun _ h => h.asked) fun _ =>
    keeps_bind (meets_of_except (fun _ _ _ h => h) fun _ _ _ h => h) fun _ =>
    keeps_bind (keeps_modify fun _ h =>
      ⟨h.owed, h.opened, h.grabbing, h.configured, h.corrected⟩) fun _ => keeps_pure _

/-- Receiving a frame leaves no buffer out, even of a frame that is refused. -/
theorem keeps_receive_and_save {path : String} {countersBefore : NetworkCounters} :
    Keeps (Streaming settings stationId 0 serial)
      (receiveAndSave sdk settings serial path countersBefore) := by
  unfold receiveAndSave
  refine meets_bind (R := fun _ => Streaming settings stationId 1 serial) ?_ fun _ =>
    meets_bind (R := fun _ => Streaming settings stationId 1 serial) ?_ fun _ =>
    meets_bind (R := fun _ => Streaming settings stationId 1 serial) ?_ fun _ =>
    meets_bind (R := fun _ => Streaming settings stationId 0 serial) ?_ fun _ =>
    keeps_bind ?_ fun _ => keeps_bind keeps_save_image fun _ => keeps_pure _
  · refine meets_checked_call (fun _ h => h.called rfl rfl rfl) fun _ _ _ h hfailed => ?_
    exact h.called rfl rfl (by rw [hfailed, owed_after_failed rfl])
  · exact meets_ask fun _ h => h.asked
  · exact meets_ask fun _ h => h.asked
  · exact meets_finally keeps_read_frame (fun _ => meets_free) fun _ => meets_free
  · exact meets_network_counters (fun _ _ h => h.counted) fun _ h => h.asked

/-! ### What is saved -/

/-- A frame that is taken for an image. -/
structure Frame.Accepted (sdk : Sdk) (frame : Frame) : Prop where
  width : frame.width = imageWidth
  height : frame.height = imageHeight
  mono8 : frame.enPixelType = sdk.mono8
  length : imageWidth * imageHeight ≤ frame.length
  memory : frame.pBufAddr.isSome = true

/-- The image is that of a frame which the camera handed over from `start` on, and the file holds
its pixels. -/
structure SavedImage (sdk : Sdk) (settings : MvsBackendSettings) (start : ℕ) (serial path : String)
    (image : ImageArtifact) (s : MvsState) : Prop where
  cameraId : image.cameraId = serial
  filePath : image.filePath = path
  dimensions : image.width = imageWidth ∧ image.height = imageHeight
  pixelFormat : image.pixelFormat = mono8Png
  resends : 0 ≤ image.packetResendCount
  content : ∃ asked content, start ≤ asked ∧ (sdk.frame asked serial).Accepted sdk ∧
    image.packetLossCount = (sdk.frame asked serial).nLostPacket ∧
    writeMono8PngAtomic sdk.zlib path false (sdk.frame asked serial).pixels imageWidth imageHeight
      settings.pngCompressionLevel = .ok content ∧
    s.files path = some content ∧ image.sha256 = sdk.sha256 content ∧
    image.fileSizeBytes = content.length

theorem meets_read_frame (start : ℕ) :
    Meets (fun s => start ≤ s.asked) (readFrame sdk serial) (fun received _ =>
        ∃ asked, start ≤ asked ∧ (sdk.frame asked serial).Accepted sdk ∧
          received.lostPackets = (sdk.frame asked serial).nLostPacket ∧
          received.pixels = (sdk.frame asked serial).pixels)
      (fun _ _ => True) := by
  refine meets_bind (R := fun frame _ => ∃ asked, start ≤ asked ∧ frame = sdk.frame asked serial)
    (meets_ask fun s hs => ⟨s.asked, hs, rfl⟩) fun frame => ?_
  refine meets_bind (R := fun _ _ => (∃ asked, start ≤ asked ∧ frame = sdk.frame asked serial) ∧
    frame.width = imageWidth ∧ frame.height = imageHeight) ?_ fun _ => ?_
  · refine meets_ensure (fun hsize _ h => ⟨h, ?_⟩) fun _ _ _ => trivial
    exact ⟨of_decide_eq_true (Bool.and_eq_true_iff.mp hsize).1,
      of_decide_eq_true (Bool.and_eq_true_iff.mp hsize).2⟩
  refine meets_bind (R := fun _ _ => ((∃ asked, start ≤ asked ∧ frame = sdk.frame asked serial) ∧
    frame.width = imageWidth ∧ frame.height = imageHeight) ∧ frame.enPixelType = sdk.mono8) ?_
    fun _ => ?_
  · exact meets_ensure (fun htype _ h => ⟨h, of_decide_eq_true htype⟩) fun _ _ _ => trivial
  refine meets_bind (R := fun _ _ => ∃ asked, start ≤ asked ∧ frame = sdk.frame asked serial ∧
    frame.Accepted sdk) ?_ fun _ => ?_
  · refine meets_ensure (fun hlength _ h => ?_) fun _ _ _ => trivial
    obtain ⟨⟨⟨asked, hasked, hframe⟩, hwidth, hheight⟩, htype⟩ := h
    exact ⟨asked, hasked, hframe, hwidth, hheight, htype,
      of_decide_eq_true (Bool.and_eq_true_iff.mp hlength).1, (Bool.and_eq_true_iff.mp hlength).2⟩
  · rintro s ⟨asked, hasked, rfl, haccepted⟩
    exact ⟨asked, hasked, haccepted, rfl, rfl⟩

theorem ok_of_map_error {ε ε' α : Type} {x : Except ε α} {f : ε → ε'} {a : α}
    (h : x.mapError f = .ok a) : x = .ok a := by
  cases x with
  | ok _ => exact congrArg Except.ok (Except.ok.inj h)
  | error _ => cases h

theorem write_refuses_existing (zlib : Zlib) (path : String) (pixels content : Bytes)
    (width height level : ℤ) :
    writeMono8PngAtomic zlib path true pixels width height level ≠ .ok content := by
  intro h
  unfold writeMono8PngAtomic at h
  simp only [bind, Except.bind, if_true] at h
  split at h
  · cases h
  · split at h
    · cases h
    · cases h

theorem meets_save_image (path : String) (pixels : Bytes) :
    Meets (fun _ => True) (saveImage sdk settings path pixels) (fun content s =>
        writeMono8PngAtomic sdk.zlib path false pixels imageWidth imageHeight
          settings.pngCompressionLevel = .ok content ∧ s.files path = some content)
      (fun _ _ => True) := by
  refine meets_get_bind fun s₁ => ?_
  refine meets_bind (R := fun content _ => writeMono8PngAtomic sdk.zlib path false pixels imageWidth
    imageHeight settings.pngCompressionLevel = .ok content) ?_ fun content => ?_
  · refine meets_of_except (fun content hwrite s _ => ?_) fun _ _ _ _ => trivial
    have hresult := ok_of_map_error hwrite
    cases hexists : (s₁.files path).isSome with
    | true =>
      rw [hexists] at hresult
      exact (write_refuses_existing _ _ _ _ _ _ _ hresult).elim
    | false =>
      rw [hexists] at hresult
      exact hresult
  refine meets_bind (meets_any _ _) fun _ => meets_bind (meets_any _ _) fun _ => ?_
  exact fun s h => ⟨h, Function.update_self ..⟩

theorem meets_receive_and_save (start : ℕ) (path : String) (countersBefore : NetworkCounters) :
    Meets (fun s => start ≤ s.asked) (receiveAndSave sdk settings serial path countersBefore)
      (SavedImage sdk settings start serial path) (fun _ _ => True) := by
  have hcalled : ∀ (call : SdkCall) (operation : String),
      Meets (fun s => start ≤ s.asked) (checkedCall sdk serial call operation)
        (fun _ s => start ≤ s.asked) (fun _ _ => True) := fun _ _ =>
    meets_checked_call (fun _ h => Nat.le_succ_of_le h) fun _ _ _ _ _ => trivial
  refine meets_bind (hcalled _ _) fun _ =>
    meets_bind (R := fun _ s => start ≤ s.asked) (meets_ask fun _ h => Nat.le_succ_of_le h) fun _ =>
    meets_bind (R := fun _ s => start ≤ s.asked) (meets_ask fun _ h => Nat.le_succ_of_le h) fun _ =>
    meets_bind (meets_finally (meets_read_frame start) (fun _ => meets_any _ _) fun _ =>
      meets_any _ _) fun received => meets_bind (meets_any _ _) fun _ => ?_
  refine meets_const fun ⟨asked, hasked, haccepted, hlost, hpixels⟩ =>
    meets_bind (meets_save_image path received.pixels) fun content => ?_
  rw [hpixels]
  exact fun s ⟨hwrite, hfile⟩ => ⟨rfl, rfl, ⟨rfl, rfl⟩, rfl, le_max_left _ _, asked, content,
    hasked, haccepted, hlost, hwrite, hfile, rfl, rfl⟩

/-! ### Nothing else is touched -/

variable {S F : String → Prop} (hserial : S serial)
include hserial

theorem local_set_registers (registers : List (String × RegisterValue)) :
    Local S F (registers.forM (setRegister sdk serial)) :=
  local_for_m fun _ _ => local_checked_call sdk hserial _ _

theorem local_disable_boolean_correction (name : String) :
    Local S F (disableBooleanCorrection sdk serial name) := by
  have hnote : ∀ status, Local S F (noteCorrection serial name status) := fun _ =>
    local_modify_camera hserial _
  have hread : ∀ text, Local S F (readCorrection sdk serial name text) := fun _ =>
    local_bind (local_ask_switch sdk hserial _) fun _ => local_ensure _ _
  refine local_bind (local_sdk_call sdk hserial _) fun result => ?_
  split
  · exact local_bind (local_checked_call sdk hserial _ _) fun _ =>
      local_bind (hread _) fun _ => hnote _
  · refine local_bind (local_do_unless _ (local_ensure _ _)) fun _ =>
      local_bind (local_sdk_call sdk hserial _) fun readResult => ?_
    split
    · exact local_bind (hread _) fun _ => hnote _
    · split
      · exact hnote _
      · exact local_ensure _ _

theorem local_close_session : Local S F (closeSession sdk serial) :=
  local_bind local_get fun _ =>
    local_bind (local_do_unless _ (local_bind (local_ignored_call sdk hserial _) fun _ =>
      local_modify_camera hserial _)) fun _ =>
    local_bind local_get fun _ =>
    local_bind (local_do_unless _ (local_bind (local_ignored_call sdk hserial _) fun _ =>
      local_modify_camera hserial _)) fun _ => local_ignored_call sdk hserial _

theorem local_configure (group : ActionGroup) :
    Local S F (configure sdk settings group serial) :=
  local_bind (local_checked_call sdk hserial _ _) fun _ =>
    local_bind (local_modify_camera hserial _) fun _ =>
    local_bind (local_set_registers hserial _) fun _ =>
    local_bind (local_of_except _) fun _ =>
    local_bind (local_set_registers hserial _) fun _ =>
    local_bind (local_for_m fun _ _ => local_disable_boolean_correction hserial _) fun _ =>
    local_bind (local_set_registers hserial _) fun _ =>
    local_bind (local_do_unless _
      (local_for_m fun _ _ => local_checked_call sdk hserial _ _)) fun _ =>
    local_bind (local_set_registers hserial _) fun _ =>
    local_bind (local_checked_call sdk hserial _ _) fun _ =>
    local_bind (local_bind (local_sdk_call sdk hserial _) fun _ =>
      local_do_unless _ (local_ensure _ _)) fun _ =>
    local_bind (local_checked_call sdk hserial _ _) fun _ => local_modify_camera hserial _

theorem local_open_session (stationId : ℕ) :
    Local S F (openSession sdk settings serial stationId) :=
  local_bind (local_modify_camera hserial _) fun _ =>
    local_bind (local_of_except _) fun group =>
    local_bind (local_checked_call sdk hserial _ _) fun _ =>
    local_catch (local_configure hserial group) fun _ =>
      local_bind (local_close_session hserial) fun _ => local_throw _

theorem local_network_counters : Local S F (networkCounters sdk serial) :=
  local_bind (local_checked_call sdk hserial _ _) fun _ => local_ask _

theorem local_drain_frames (left drained : ℕ) :
    Local S F (drainFrames sdk serial left drained) := by
  induction left generalizing drained with
  | zero => exact local_throw _
  | succ left ih =>
    refine local_bind (local_sdk_call sdk hserial _) fun _ => ?_
    split
    · exact local_pure _
    · exact local_bind (local_ensure _ _) fun _ =>
        local_bind (local_checked_call sdk hserial _ _) fun _ => ih _

omit hserial in
theorem local_save_image {path : String} (hpath : F path) (pixels : Bytes) :
    Local S F (saveImage sdk settings path pixels) := by
  refine local_bind local_get fun _ => local_bind (local_of_except _) fun _ =>
    local_bind (local_ask _) fun _ => local_bind (local_of_except _) fun _ =>
    local_bind (fun s₀ => keeps_modify fun s h => ?_) fun _ => local_pure _
  refine ⟨h.asked, h.devices, h.cameras, h.backend, fun other hother => ?_, h.actions⟩
  rw [← h.files other hother]
  exact Function.update_of_ne (fun hsame : other = path => hother (hsame ▸ hpath)) _ _

theorem local_receive_and_save {path : String} (hpath : F path) (countersBefore : NetworkCounters) :
    Local S F (receiveAndSave sdk settings serial path countersBefore) :=
  local_bind (local_checked_call sdk hserial _ _) fun _ =>
    local_bind (local_ask _) fun _ => local_bind (local_ask _) fun _ =>
    local_bind (local_finally (local_bind (local_ask _) fun _ =>
      local_bind (local_ensure _ _) fun _ => local_bind (local_ensure _ _) fun _ =>
      local_bind (local_ensure _ _) fun _ => local_pure _)
      (local_checked_call sdk hserial _ _)) fun _ =>
    local_bind (local_network_counters hserial) fun _ =>
    local_bind (local_save_image hpath _) fun _ => local_pure _

end

end InspectionLine.Mvs
