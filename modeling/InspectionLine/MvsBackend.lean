import InspectionLine.MvsSession
import InspectionLine.SuccessfulRuns
import Mathlib.Data.List.Sort

/-! # The capture backend of the cameras

`HikrobotMvsCaptureBackend`: checking the settings and the cameras that are there, opening all of
them or none, and the capture of a station. The operations come one after another. -/
namespace InspectionLine.Mvs

open ByteFrames RaisingPrograms SuccessfulRuns

/-! ### Settings -/

def require (holds : Bool) (e : MvsError) : Except MvsError Unit :=
  if holds then .ok () else .error e

def checkValue (holds : Bool) (text : String) : Except MvsError Unit :=
  require holds (valueError text)

def uint32 (n : ℤ) : Bool := 1 ≤ n && n ≤ 0xFFFFFFFF

def ActionGroup.validate (group : ActionGroup) (label : String) : Except MvsError Unit := do
  checkValue (uint32 group.groupKey) (label ++ ".group_key must be a non-zero uint32")
  checkValue (uint32 group.groupMask) (label ++ ".group_mask must be a non-zero uint32")

def CameraAcquisitionSettings.validate (acquisition : CameraAcquisitionSettings)
    (serial : String) : Except MvsError Unit := do
  checkValue (0 < acquisition.exposureTimeUs) (serial ++ ": exposure_time_us must be positive")
  checkValue (0 ≤ acquisition.gainDb) (serial ++ ": gain_db must not be negative")

namespace MvsBackendSettings

variable (settings : MvsBackendSettings)

def stationCameras (stationId : ℕ) : List String :=
  (settings.stationCameraIds.get? stationId).getD []

def expectedSerials : List String := settings.stationCameras 1 ++ settings.stationCameras 2

/-- `isIpAddress` is `ipaddress.ip_address` not raising. -/
def checkIp (isIpAddress : String → Bool) (address : String) : Except MvsError Unit :=
  checkValue (isIpAddress address)
    ("'" ++ address ++ "' does not appear to be an IPv4 or IPv6 address")

def validate (isIpAddress : String → Bool) : Except MvsError Unit := do
  checkValue ((settings.stationCameras 1).length = 3 && (settings.stationCameras 2).length = 1)
    "MVS camera groups must contain A=3 and B=1 cameras"
  let allSerials := settings.expectedSerials
  checkValue (allSerials.dedup.length = 4) "MVS camera serials must be unique"
  checkValue (settings.cameraNetworkMap.keys.toFinset = allSerials.toFinset)
    "MVS camera network map must cover exactly four cameras"
  checkValue (settings.cameraAcquisitionSettings.keys.toFinset = allSerials.toFinset)
    "MVS acquisition settings must cover exactly four cameras"
  settings.cameraAcquisitionSettings.entries.forM fun entry => entry.2.validate entry.1
  settings.cameraNetworkMap.values.forM (checkIp isIpAddress)
  checkValue (uint32 settings.actionDeviceKey) "ActionDeviceKey must be a non-zero uint32"
  checkValue (settings.actionGroups.keys.toFinset = {1, 2})
    "station A/B Action1 groups are required"
  settings.actionGroups.entries.forM fun entry =>
    entry.2.validate ("station_" ++ toString entry.1)
  checkValue (settings.actionGroups.get? 1 ≠ settings.actionGroups.get? 2)
    "station A/B Action1 groups must differ"
  checkValue (isAbsolutePath settings.dataRoot) "MVS data_root must be absolute"
  checkValue (1 ≤ settings.acquisitionTimeoutMs) "MVS acquisition timeout must be positive"
  checkValue (settings.packetSize = 1500) "MVS packet size is fixed at 1500"
  checkValue (0 ≤ settings.packetDelayTicks) "MVS packet delay must not be negative"
  checkValue (1 ≤ settings.actionAckTimeoutMs) "Action Command ACK timeout must be positive"
  checkIp isIpAddress settings.broadcastAddress
  checkValue (settings.expectedModel ≠ "") "expected HIKROBOT model is required"
  checkValue (1 ≤ settings.sdkImageBufferNodes) "MVS SDK image buffer count must be positive"
  checkValue (0 ≤ settings.reconnectIntervalMs && 1 ≤ settings.reconnectMaxAttempts &&
    1 ≤ settings.disconnectPauseAfterMs) "MVS reconnect policy is invalid"
  checkValue (0 ≤ settings.pngCompressionLevel && settings.pngCompressionLevel ≤ 9)
    "PNG compression level must be between 0 and 9"

end MvsBackendSettings

/-! ### The cameras that are there -/

/-- Up to the first zero byte; what is not ASCII is replaced. -/
def decodeCString (bytes : Bytes) : String :=
  String.ofList ((bytes.takeWhile (· ≠ 0)).map fun byte =>
    if byte < 128 then Char.ofNat byte.toNat else Char.ofNat 0xFFFD)

def ipFromUint32 (value : ℕ) : String :=
  ".".intercalate ([24, 16, 8, 0].map fun shift => toString ((value >>> shift) % 256))

def sdkError (holds : Bool) (text : String) : Except MvsError Unit :=
  require holds (.mvsSdkError text)

section
variable (sdk : Sdk) (settings : MvsBackendSettings)

def inventoryEntry (info : DeviceInfo) : Option CameraInventoryEntry :=
  let serial := decodeCString info.chSerialNumber
  (settings.stationBySerial.get? serial).map fun stationId =>
    { serial
      stationId
      ipAddress := ipFromUint32 info.nCurrentIp
      modelName := decodeCString info.chModelName
      firmwareVersion := decodeCString info.chDeviceVersion }

def enumerateDevices : MvsProgram (List CameraInventoryEntry) := do
  let (returnCode, infos) ← ofExcept (raised (← ask sdk.enumDevices))
  checkMvs returnCode "MV_CC_EnumDevices"
  return infos.filterMap (inventoryEntry settings)

def bySerial (entries : List CameraInventoryEntry) : OrderedDict String CameraInventoryEntry :=
  .collect (·.serial) id entries

def validateCamera (entries : List CameraInventoryEntry) (serial : String) :
    Except MvsError Unit := do
  let entry ← lookup (bySerial entries) serial serial
  sdkError (entry.modelName = settings.expectedModel)
    (serial ++ ": expected model " ++ settings.expectedModel ++ ", got " ++ entry.modelName)
  let expectedIp ← lookup settings.cameraNetworkMap serial serial
  sdkError (entry.ipAddress = expectedIp)
    (serial ++ ": expected IP " ++ expectedIp ++ ", got " ++ entry.ipAddress)
  sdkError (entry.firmwareVersion ≠ "") (serial ++ ": firmware version is empty")

def sortedTexts (texts : List String) : List String := texts.insertionSort fun a b => a ≤ b

def validateCameraInventory (entries : List CameraInventoryEntry) : Except MvsError String := do
  let serials := entries.map (·.serial)
  sdkError ((bySerial entries).size = entries.length)
    "duplicate HIKROBOT serial number was enumerated"
  let missing := sortedTexts ((settings.expectedSerials.filter (· ∉ serials)).dedup)
  let unexpected := sortedTexts ((serials.filter (· ∉ settings.expectedSerials)).dedup)
  sdkError (missing = [] && unexpected = []) ("camera inventory mismatch: missing=" ++
    sdk.listText missing ++ ", unexpected=" ++ sdk.listText unexpected)
  settings.expectedSerials.forM (validateCamera settings entries)
  match (entries.map (·.firmwareVersion)).dedup with
  | [commonFirmware] => do
    sdkError (settings.expectedFirmwareVersion = "" ||
      commonFirmware = settings.expectedFirmwareVersion)
      ("camera firmware differs from configured expected version: expected=" ++
        settings.expectedFirmwareVersion ++ ", actual=" ++ commonFirmware)
    return commonFirmware
  | _ => throw (.mvsSdkError ("camera firmware versions differ: " ++ ", ".intercalate
      (entries.map fun entry => entry.serial ++ "=" ++ entry.firmwareVersion)))

/-! ### Open and close -/

def modifyBackend (f : BackendState → BackendState) : MvsProgram Unit :=
  modify fun s => { s with backend := f s.backend }

def loadModules : MvsProgram Unit := do
  ofExcept (← ask sdk.loadModules)
  modifyBackend fun b => { b with modulesLoaded := true }
  let version ← ofExcept (raised (← ask sdk.sdkVersion))
  modifyBackend fun b => { b with sdkVersion := codeText version }

def closeAll (serials : List String) : MvsProgram Unit := serials.reverse.forM (closeSession sdk)

/-- The cameras of `opened` are open already; if the next one cannot be opened they are closed. -/
def openAll (records : OrderedDict String CameraInventoryEntry) :
    List String → List String → MvsProgram (List String)
  | [], opened => return opened
  | serial :: serials, opened => do
    tryCatch (do
      let record ← ofExcept (lookup records serial serial)
      openSession sdk settings serial record.stationId) fun e => do
        closeAll sdk opened
        throw e
    openAll records serials (opened ++ [serial])

def initializeOnce : MvsProgram Unit := do
  doUnless (← get).backend.modulesLoaded (loadModules sdk)
  let entries ← enumerateDevices sdk settings
  let firmware ← ofExcept (validateCameraInventory sdk settings entries)
  modifyBackend fun b => { b with firmwareVersion := firmware }
  let records := bySerial entries
  let opened ← openAll sdk settings records settings.expectedSerials []
  let cameras := (← get).cameras
  modifyBackend fun b => { b with
    sessions := opened
    inventory := settings.expectedSerials.filterMap records.get?
    correctionStatusBySerial :=
      settings.expectedSerials.map fun serial => (serial, (cameras serial).correctionStatus)
    initialized := true }

def initializeBackend : MvsProgram Unit := do
  let s ← get
  ensure (!s.backend.closed) (.mvsSdkError "MVS backend is already closed")
  doUnless s.backend.initialized do
    ofExcept (settings.validate sdk.isIpAddress)
    initializeOnce sdk settings

def closeSessions : MvsProgram Unit := do
  closeAll sdk (← get).backend.sessions
  modifyBackend fun b => { b with sessions := [], initialized := false }

def deinitialize : MvsProgram Unit := closeSessions sdk

def close : MvsProgram Unit := do
  doUnless (← get).backend.closed do
    closeSessions sdk
    modifyBackend fun b => { b with closed := true }

/-- So many attempts are left. -/
def reconnect : ℕ → Option MvsError → MvsProgram Unit
  | 0, lastError => throw (.mvsSdkError ("MVS camera reconnect attempts exhausted: " ++
      (lastError.map MvsError.typeName).getD "unknown"))
  | attempts + 1, _ =>
    tryCatch (initializeBackend sdk settings) fun e => do
      closeSessions sdk
      reconnect attempts (some e)

def initializeWithReconnect : MvsProgram Unit :=
  reconnect sdk settings settings.reconnectMaxAttempts.toNat none

/-! ### Capture -/

def noteAction (stationId : ℕ) : MvsProgram Unit := modify fun s =>
  let cameras := settings.stationCameras stationId
  { s with actions := s.actions ++ [{
      stationId
      allRunning := cameras.all fun c => (s.devices c).owed = Owed.of true true true
      allEmptied := cameras.all fun c => (s.devices c).emptied }] }

def checkAcknowledgements (stationId : ℕ) (results : List (String × ℤ)) :
    Except MvsError Unit := do
  let received : OrderedDict String ℤ := .collect Prod.fst Prod.snd results
  let expected ← (settings.stationCameras stationId).mapM fun serial =>
    lookup settings.cameraNetworkMap serial serial
  sdkError (received.keys.toFinset = expected.toFinset)
    ("station " ++ toString stationId ++ ": Action1 ACK set mismatch: expected=" ++
      sdk.listText (sortedTexts expected.dedup) ++ ", actual=" ++
      sdk.listText (sortedTexts received.keys))
  let failed := received.entries.filter fun entry => entry.2 ≠ 0
  sdkError (failed = []) ("station " ++ toString stationId ++ ": Action1 device ACK failed: " ++
    ", ".intercalate ((sortedTexts (failed.map Prod.fst)).map fun address =>
      address ++ "=" ++ codeText ((received.get? address).getD 0)))

def issueAction (stationId : ℕ) : MvsProgram Unit := do
  ensure (← get).backend.modulesLoaded (.mvsSdkError "MVS modules are not loaded")
  let _ ← ofExcept (lookup settings.actionGroups stationId (toString stationId))
  noteAction settings stationId
  let returnCode ← ofExcept (raised (← ask fun n => sdk.issueActionCommand n stationId))
  checkMvs returnCode ("station " ++ toString stationId ++ ": MV_GIGE_IssueActionCommand")
  let results ← ask fun n => sdk.actionResults n stationId
  ofExcept (checkAcknowledgements sdk settings stationId results)

structure CaptureRequest where
  productId : String
  fifoSequence : ℕ
  stationId : ℕ
  captureId : String
  attempt : ℕ
  requiredCameraIds : List String

def batchDirectory (request : CaptureRequest) (frameBatchId : String) : String :=
  settings.dataRoot ++ "/raw/station_" ++ toString request.stationId ++ "/product_" ++
    String.ofList ((Nat.toDigits 10 request.fifoSequence).leftpad 6 '0') ++ "_" ++ frameBatchId

def imagePath (batchDir serial : String) : String := batchDir ++ "/" ++ serial ++ ".png"

/-- The frames left over from before are dropped, and the counters read. -/
def prepareCamera (serial : String) : MvsProgram NetworkCounters := do
  ensure (serial ∈ (← get).backend.sessions) (keyError serial)
  let _ ← drainStaleFrames sdk serial
  networkCounters sdk serial

def prepareCameras : List String → MvsProgram (List (String × NetworkCounters))
  | [] => return []
  | serial :: serials => do
    let counters ← prepareCamera sdk serial
    return (serial, counters) :: (← prepareCameras serials)

/-- The receiver of each camera ends with an image or an error. -/
def receiveAll (batchDir : String) (counters : List (String × NetworkCounters)) :
    List String → MvsProgram (List (String × ImageArtifact) × List MvsError)
  | [] => return ([], [])
  | serial :: serials => do
    let before := (counters.lookup serial).getD ⟨0, 0, 0⟩
    let ended ← attempt (receiveAndSave sdk settings serial (imagePath batchDir serial) before)
    let (artifacts, errors) ← receiveAll batchDir counters serials
    return match ended with
    | .ok image => ((serial, image) :: artifacts, errors)
    | .error e => (artifacts, e :: errors)

/-- `artifacts[serial]`. -/
def imageOf (artifacts : List (String × ImageArtifact)) (serial : String) :
    Except MvsError ImageArtifact :=
  match artifacts.lookup serial with
  | some image => .ok image
  | none => .error (keyError serial)

def takeBatch (request : CaptureRequest) (cameras : List String) (frameBatchId batchDir : String) :
    MvsProgram CaptureBatch := do
  let counters ← prepareCameras sdk cameras
  let ready ← ask sdk.receiversReady
  let order ← ask fun n => (sdk.completion n cameras).1
  if ready then
    let triggerRequestedMonotonicNs ← ask sdk.monotonicNs
    let triggerRequestedWallTimeNs ← ask sdk.wallNs
    let actionEnded ← attempt (issueAction sdk settings request.stationId)
    let triggerReturnedMonotonicNs ← ask sdk.monotonicNs
    let triggerReturnedWallTimeNs ← ask sdk.wallNs
    let (artifacts, frameErrors) ← receiveAll sdk settings batchDir counters order
    ofExcept actionEnded
    ofExcept (match frameErrors with
      | [] => .ok ()
      | e :: _ => .error e)
    let images ← ofExcept (cameras.mapM (imageOf artifacts))
    return {
      productId := request.productId
      stationId := request.stationId
      captureId := request.captureId
      frameBatchId
      attempt := request.attempt
      triggerRequestedMonotonicNs
      triggerReturnedMonotonicNs
      triggerRequestedWallTimeNs
      triggerReturnedWallTimeNs
      images }
  else
    let _ ← receiveAll sdk settings batchDir counters order
    throw (.mvsSdkError ("station " ++ toString request.stationId ++
      ": frame receiver threads did not become ready"))

def unlinkImage (path : String) : MvsProgram Unit := do
  let fails ← ask fun n => sdk.unlinkFails n path
  doUnless fails (modify fun s => { s with files := Function.update s.files path none })

def cleanupIncompleteBatch (paths : List String) : MvsProgram Unit := paths.forM (unlinkImage sdk)

/-- Only an error of the cameras costs the connection. -/
def abandonBatch (paths : List String) (e : MvsError) : MvsProgram Unit := do
  doUnless (!e.isSdkError) (closeSessions sdk)
  cleanupIncompleteBatch sdk paths

def checkRequest (request : CaptureRequest) : Except MvsError (List String) := do
  checkValue (request.stationId = 1 || request.stationId = 2) "station_id must be 1 or 2"
  let cameras ← lookup settings.stationCameraIds request.stationId (toString request.stationId)
  checkValue (request.requiredCameraIds.length = cameras.length &&
    request.requiredCameraIds.toFinset = cameras.toFinset)
    "required cameras differ from configured station group"
  checkValue (request.productId ≠ "" && 1 ≤ request.fifoSequence && request.captureId ≠ "" &&
    1 ≤ request.attempt) "capture identity is incomplete"
  return cameras

def captureBatch (request : CaptureRequest) (cameras : List String) : MvsProgram CaptureBatch := do
  let frameBatchId ← ask sdk.uuidHex
  let batchDir := batchDirectory settings request frameBatchId
  ofExcept (raised (← ask fun n => sdk.makeDirectory n batchDir))
  tryCatch (takeBatch sdk settings request cameras frameBatchId batchDir) fun e => do
    abandonBatch sdk (cameras.map (imagePath batchDir)) e
    throw e

def captureStation (request : CaptureRequest) : MvsProgram CaptureBatch := do
  let cameras ← ofExcept (checkRequest settings request)
  doUnless (← get).backend.initialized (initializeWithReconnect sdk settings)
  captureBatch sdk settings request cameras

end

/-! ### What was checked -/

structure ValidSettings (settings : MvsBackendSettings) : Prop where
  stationA : (settings.stationCameras 1).length = 3
  stationB : (settings.stationCameras 2).length = 1
  nodup : settings.expectedSerials.Nodup
  acquisitions : ∀ serial ∈ settings.expectedSerials,
    ∃ acquisition, settings.cameraAcquisitionSettings.get? serial = some acquisition
  groups : ∀ stationId, stationId = 1 ∨ stationId = 2 →
    ∃ group, settings.actionGroups.get? stationId = some group
  dataRoot : isAbsolutePath settings.dataRoot = true
  attempts : 1 ≤ settings.reconnectMaxAttempts
  pngLevel : 0 ≤ settings.pngCompressionLevel ∧ settings.pngCompressionLevel ≤ 9

theorem check_value_ok {holds : Bool} {text : String} (h : checkValue holds text = .ok ()) :
    holds = true := by
  unfold checkValue require at h
  split at h
  · assumption
  · cases h

theorem sdk_error_ok {holds : Bool} {text : String} (h : sdkError holds text = .ok ()) :
    holds = true := by
  unfold sdkError require at h
  split at h
  · assumption
  · cases h

theorem validate_ok {settings : MvsBackendSettings} {isIpAddress : String → Bool}
    (h : settings.validate isIpAddress = .ok ()) : ValidSettings settings := by
  unfold MvsBackendSettings.validate at h
  obtain ⟨_, hgroups, h⟩ := bind_ok.mp h
  obtain ⟨_, hunique, h⟩ := bind_ok.mp h
  have hcount := Bool.and_eq_true_iff.mp (check_value_ok hgroups)
  have hA := of_decide_eq_true hcount.1
  have hB := of_decide_eq_true hcount.2
  have hlength : settings.expectedSerials.dedup.length = settings.expectedSerials.length := by
    rw [of_decide_eq_true (check_value_ok hunique), MvsBackendSettings.expectedSerials,
      List.length_append, hA, hB]
  have hnodup : settings.expectedSerials.Nodup := List.dedup_eq_self.mp
    ((List.dedup_sublist _).eq_of_length hlength)
  obtain ⟨_, _, h⟩ := bind_ok.mp h
  obtain ⟨_, hacquisitions, h⟩ := bind_ok.mp h
  iterate 3 obtain ⟨_, _, h⟩ := bind_ok.mp h
  obtain ⟨_, hgroups, h⟩ := bind_ok.mp h
  iterate 2 obtain ⟨_, _, h⟩ := bind_ok.mp h
  obtain ⟨_, hroot, h⟩ := bind_ok.mp h
  iterate 7 obtain ⟨_, _, h⟩ := bind_ok.mp h
  obtain ⟨_, hpolicy, h⟩ := bind_ok.mp h
  have hattempts := Bool.and_eq_true_iff.mp (Bool.and_eq_true_iff.mp (check_value_ok hpolicy)).1
  have hlevel := Bool.and_eq_true_iff.mp (check_value_ok h)
  have hcovered := of_decide_eq_true (check_value_ok hacquisitions)
  have hpresent := of_decide_eq_true (check_value_ok hgroups)
  refine ⟨hA, hB, hnodup, fun serial hserial => ?_, fun stationId hstation => ?_,
    check_value_ok hroot, of_decide_eq_true hattempts.2, of_decide_eq_true hlevel.1,
    of_decide_eq_true hlevel.2⟩
  · rw [← List.mem_toFinset, ← hcovered, List.mem_toFinset] at hserial
    exact OrderedDict.mem_keys.mp hserial
  · refine OrderedDict.mem_keys.mp (List.mem_toFinset.mp ?_)
    rw [hpresent, Finset.mem_insert, Finset.mem_singleton]
    exact hstation

structure InventoryChecked (settings : MvsBackendSettings) (version : String)
    (inventory : List CameraInventoryEntry) : Prop where
  serials : inventory.map (·.serial) = settings.expectedSerials
  model : ∀ entry ∈ inventory, entry.modelName = settings.expectedModel
  address : ∀ entry ∈ inventory,
    settings.cameraNetworkMap.get? entry.serial = some entry.ipAddress
  firmware : ∀ entry ∈ inventory, entry.firmwareVersion = version ∧ version ≠ ""
  expected : settings.expectedFirmwareVersion = "" ∨ version = settings.expectedFirmwareVersion

theorem by_serial_mem {entries : List CameraInventoryEntry} {serial : String}
    {entry : CameraInventoryEntry} (h : (bySerial entries).get? serial = some entry) :
    entry ∈ entries ∧ entry.serial = serial := by
  obtain ⟨e, hmem, hserial, heq⟩ := OrderedDict.get?_collect h
  subst heq
  exact ⟨hmem, hserial⟩

theorem map_filter_map_self {α β : Type} {f : α → Option β} {g : β → α} {l : List α}
    (h : ∀ a ∈ l, ∃ b, f a = some b ∧ g b = a) : (l.filterMap f).map g = l := by
  induction l with
  | nil => rfl
  | cons a l ih =>
    obtain ⟨b, hb, hg⟩ := h a List.mem_cons_self
    rw [List.filterMap_cons_some hb, List.map_cons, hg,
      ih fun x hx => h x (List.mem_cons_of_mem a hx)]

theorem validate_camera_ok {settings : MvsBackendSettings} {entries : List CameraInventoryEntry}
    {serial : String} (h : validateCamera settings entries serial = .ok ()) :
    ∃ entry, (bySerial entries).get? serial = some entry ∧
      entry.modelName = settings.expectedModel ∧
      settings.cameraNetworkMap.get? serial = some entry.ipAddress ∧
      entry.firmwareVersion ≠ "" := by
  obtain ⟨entry, hentry, h⟩ := bind_ok.mp h
  obtain ⟨_, hmodel, h⟩ := bind_ok.mp h
  obtain ⟨expectedIp, hip, h⟩ := bind_ok.mp h
  obtain ⟨_, haddress, hfirmware⟩ := bind_ok.mp h
  have hsame := of_decide_eq_true (sdk_error_ok haddress)
  subst hsame
  exact ⟨entry, lookup_ok hentry, of_decide_eq_true (sdk_error_ok hmodel), lookup_ok hip,
    of_decide_eq_true (sdk_error_ok hfirmware)⟩

theorem validate_inventory_ok {sdk : Sdk} {settings : MvsBackendSettings}
    {entries : List CameraInventoryEntry} {firmware : String}
    (h : validateCameraInventory sdk settings entries = .ok firmware) :
    InventoryChecked settings firmware
      (settings.expectedSerials.filterMap (bySerial entries).get?) := by
  obtain ⟨_, _, h⟩ := bind_ok.mp h
  obtain ⟨_, _, h⟩ := bind_ok.mp h
  obtain ⟨_, hcameras, h⟩ := bind_ok.mp h
  have hcamera := fun serial hserial => validate_camera_ok (for_m_ok.mp hcameras serial hserial)
  have hentry : ∀ entry ∈ settings.expectedSerials.filterMap (bySerial entries).get?,
      (bySerial entries).get? entry.serial = some entry ∧ entry ∈ entries ∧
        entry.serial ∈ settings.expectedSerials := by
    intro entry hmem
    obtain ⟨serial, hserial, hget⟩ := List.mem_filterMap.mp hmem
    obtain ⟨hentries, heq⟩ := by_serial_mem hget
    subst heq
    exact ⟨hget, hentries, hserial⟩
  split at h
  · rename_i common hdedup
    obtain ⟨_, hexpected, h⟩ := bind_ok.mp h
    cases h
    have hfirmware : ∀ entry ∈ entries, entry.firmwareVersion = firmware := by
      intro entry hmem
      have hversion := List.mem_dedup.mpr (List.mem_map_of_mem (f := (·.firmwareVersion)) hmem)
      rw [hdedup] at hversion
      exact List.mem_singleton.mp hversion
    have hunique : ∀ entry ∈ settings.expectedSerials.filterMap (bySerial entries).get?,
        entry.modelName = settings.expectedModel ∧
          settings.cameraNetworkMap.get? entry.serial = some entry.ipAddress ∧
          entry.firmwareVersion ≠ "" := by
      intro entry hmem
      obtain ⟨hget, _, hserial⟩ := hentry entry hmem
      obtain ⟨found, hfound, hfacts⟩ := hcamera entry.serial hserial
      rw [hget] at hfound
      cases hfound
      exact hfacts
    refine ⟨map_filter_map_self fun serial hserial => ?_, fun e he => (hunique e he).1,
      fun e he => (hunique e he).2.1, fun e he => ?_, ?_⟩
    · obtain ⟨entry, hget, _⟩ := hcamera serial hserial
      exact ⟨entry, hget, (by_serial_mem hget).2⟩
    · have hversion := hfirmware e (hentry e he).2.1
      exact ⟨hversion, hversion ▸ (hunique e he).2.2⟩
    · rcases Bool.or_eq_true_iff.mp (sdk_error_ok hexpected) with hnone | hsame
      · exact .inl (of_decide_eq_true hnone)
      · exact .inr (of_decide_eq_true hsame)
  · cases h

end InspectionLine.Mvs
