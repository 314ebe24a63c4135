import InspectionLine.CaptureContract
import InspectionLine.OrderedDict
import InspectionLine.PngFiles
import InspectionLine.RaisingPrograms
import Mathlib.Algebra.Order.Ring.Rat
import Mathlib.Logic.Function.Basic

/-! # Cameras and their library

The calls that the capture backend makes of the camera vendor's library. What the world answers to
each of its questions is left open. Each device counts the closing calls that are owed to it, and
keeps what was written to its registers and what was read back. -/
namespace InspectionLine.Mvs

open ByteFrames RaisingPrograms

inductive MvsError where
  | mvsSdkError (text : String)
  | other (typeName text : String)
  deriving DecidableEq, Repr

def MvsError.typeName : MvsError → String
  | .mvsSdkError _ => "MvsSdkError"
  | .other typeName _ => typeName

def MvsError.isSdkError : MvsError → Bool
  | .mvsSdkError _ => true
  | .other _ _ => false

def valueError (text : String) : MvsError := .other "ValueError" text

def keyError (text : String) : MvsError := .other "KeyError" text

inductive RegisterValue where
  | symbol (name : String)
  | integer (n : ℤ)
  | number (x : ℚ)
  | boolean (b : Bool)
  deriving DecidableEq

inductive SdkCall where
  | createHandle | openDevice | closeDevice | destroyHandle
  | startGrabbing | stopGrabbing
  | setValue (name : String) (value : RegisterValue)
  | getBoolValue (name : String)
  | setResend (maxPercent timeoutMs : ℤ)
  | setResendMaxRetryTimes (times : ℤ)
  | setResendTimeInterval (ms : ℤ)
  | setImageNodeNum (nodes : ℤ)
  | setGrabStrategy
  | getAllMatchInfo
  | getImageBuffer (timeoutMs : ℤ)
  | freeImageBuffer
  deriving DecidableEq

structure DeviceInfo where
  chSerialNumber : Bytes
  nCurrentIp : ℕ
  chModelName : Bytes
  chDeviceVersion : Bytes

structure Frame where
  nWidth : ℤ
  nHeight : ℤ
  nExtendWidth : ℤ
  nExtendHeight : ℤ
  enPixelType : ℤ
  nFrameLen : ℤ
  nFrameLenEx : ℤ
  /-- The memory from `pBufAddr` on. -/
  pBufAddr : Option (ℕ → UInt8)
  nLostPacket : ℤ
  nDevTimeStampHigh : ℕ
  nDevTimeStampLow : ℕ

structure NetworkCounters where
  lostPackets : ℤ
  requestResendPackets : ℤ
  resendPackets : ℤ
  deriving DecidableEq, Repr

/-- What a call of the library raises, by its type's name and its text; a call that raises has no
return code. -/
abbrev Outcome := Except (String × String) ℤ

/-- The world around the backend: what it answers to the first question, to the second and so
on. -/
structure Sdk where
  loadModules : ℕ → Except MvsError Unit
  sdkVersion : ℕ → Outcome
  enumDevices : ℕ → Except (String × String) (ℤ × List DeviceInfo)
  call : ℕ → String → SdkCall → Outcome
  boolValue : ℕ → String → String → Bool
  counters : ℕ → String → NetworkCounters
  frame : ℕ → String → Frame
  issueActionCommand : ℕ → ℕ → Outcome
  actionResults : ℕ → ℕ → List (String × ℤ)
  receiversReady : ℕ → Bool
  /-- The order in which the receivers finish. -/
  completion : ℕ → (serials : List String) → {order : List String // order.Perm serials}
  monotonicNs : ℕ → ℤ
  wallNs : ℕ → ℤ
  uuidHex : ℕ → String
  makeDirectory : ℕ → String → Except (String × String) Unit
  writeFile : ℕ → String → Except (String × String) Unit
  unlinkFails : ℕ → String → Bool
  zlib : Zlib
  sha256 : Bytes → String
  numberText : ℚ → String
  listText : List String → String
  isIpAddress : String → Bool
  gcAccess : ℤ
  notSupported : ℤ
  noData : ℤ
  timedOut : ℤ
  mono8 : ℤ

/-! ### Devices -/

/-- The closing calls that are owed: for each opening call that succeeded one that was not made yet.
A closing call that fails is not made again. -/
structure Owed where
  handles : ℤ
  opens : ℤ
  grabs : ℤ
  buffers : ℤ
  deriving DecidableEq

/-- A handle, opened and grabbing, if so. -/
def Owed.of (handle opened grabbing : Bool) : Owed :=
  ⟨handle.toInt, opened.toInt, grabbing.toInt, 0⟩

/-- What came of the last look at a switch. -/
inductive SwitchReading where
  | unread
  | denied
  | read (on : Bool)
  deriving DecidableEq

structure Device where
  owed : Owed
  registers : String → Option RegisterValue
  /-- Since the device was opened. -/
  readings : String → SwitchReading
  /-- The last request for a frame found none. -/
  emptied : Bool

def Owed.after (b : Owed) (call : SdkCall) (done : Bool) : Owed :=
  match call with
  | .createHandle => { b with handles := b.handles + done.toInt }
  | .openDevice => { b with opens := b.opens + done.toInt }
  | .startGrabbing => { b with grabs := b.grabs + done.toInt }
  | .getImageBuffer _ => { b with buffers := b.buffers + done.toInt }
  | .destroyHandle => { b with handles := b.handles - 1 }
  | .closeDevice => { b with opens := b.opens - 1 }
  | .stopGrabbing => { b with grabs := b.grabs - 1 }
  | .freeImageBuffer => { b with buffers := b.buffers - 1 }
  | _ => b

/-- Return codes are compared as 32-bit words. -/
def sameCode (a b : ℤ) : Bool := a % 2 ^ 32 = b % 2 ^ 32

def succeeded (outcome : Outcome) : Bool := outcome.toOption = some 0

def noFrame (sdk : Sdk) (code : ℤ) : Bool := sameCode code sdk.noData || sameCode code sdk.timedOut

def Device.after (sdk : Sdk) (d : Device) (call : SdkCall) (outcome : Outcome) :
    Device where
  owed := d.owed.after call (succeeded outcome)
  registers := match call with
    | .setValue name value =>
      if succeeded outcome then Function.update d.registers name (some value) else d.registers
    | _ => d.registers
  readings := match call with
    | .openDevice => fun _ => .unread
    | .getBoolValue name => Function.update d.readings name
      (if outcome.toOption.any fun code => sameCode code sdk.gcAccess then .denied else .unread)
    | _ => d.readings
  emptied := match call with
    | .getImageBuffer _ => !succeeded outcome && outcome.toOption.any (noFrame sdk)
    | _ => d.emptied

/-! ### The state of the backend -/

structure CameraInventoryEntry where
  serial : String
  stationId : ℕ
  ipAddress : String
  modelName : String
  firmwareVersion : String
  deriving DecidableEq, Repr

structure CameraSession where
  opened : Bool
  grabbing : Bool
  correctionStatus : OrderedDict String String

def CameraSession.fresh : CameraSession := ⟨false, false, .empty⟩

/-- An Action1 command that was issued, and whether its cameras were ready for it. -/
structure IssuedAction where
  stationId : ℕ
  allRunning : Bool
  allEmptied : Bool
  deriving DecidableEq

structure BackendState where
  modulesLoaded : Bool
  sdkVersion : String
  /-- The cameras that are open, in the order in which they were opened. -/
  sessions : List String
  inventory : List CameraInventoryEntry
  correctionStatusBySerial : List (String × OrderedDict String String)
  firmwareVersion : String
  initialized : Bool
  closed : Bool

structure MvsState where
  /-- How many questions the world has answered. -/
  asked : ℕ
  devices : String → Device
  cameras : String → CameraSession
  backend : BackendState
  files : String → Option Bytes
  actions : List IssuedAction

abbrev MvsProgram := EStateM MvsError MvsState

def ofExcept {α : Type} : Except MvsError α → MvsProgram α
  | .ok a => pure a
  | .error e => throw e

/-- What the interpreter raises. -/
def raised {α : Type} (x : Except (String × String) α) : Except MvsError α :=
  x.mapError fun e => .other e.1 e.2

def ensure (holds : Bool) (e : MvsError) : MvsProgram Unit := if holds then pure () else throw e

def doUnless (holds : Bool) (p : MvsProgram Unit) : MvsProgram Unit := if holds then pure () else p

def ask {α : Type} (answers : ℕ → α) : MvsProgram α := fun s =>
  .ok (answers s.asked) { s with asked := s.asked + 1 }

/-! ### Calls -/

def hexDigit (n : ℕ) : Char := if n < 10 then Char.ofNat (n + 48) else Char.ofNat (n + 55)

/-- `f"0x{code & 0xFFFFFFFF:08X}"`. -/
def codeText (code : ℤ) : String :=
  "0x" ++ String.ofList ((List.range 8).reverse.map fun i =>
    hexDigit ((code % 2 ^ 32).toNat / 16 ^ i % 16))

def checkMvs (returnCode : ℤ) (operation : String) : MvsProgram Unit :=
  ensure (returnCode = 0) (.mvsSdkError (operation ++ " failed: " ++ codeText returnCode))

def MvsState.called (s : MvsState) (sdk : Sdk) (serial : String) (call : SdkCall)
    (outcome : Outcome) : MvsState :=
  { s with
    asked := s.asked + 1
    devices := Function.update s.devices serial ((s.devices serial).after sdk call outcome) }

def sdkCall (sdk : Sdk) (serial : String) (call : SdkCall) : MvsProgram ℤ := fun s =>
  match sdk.call s.asked serial call with
  | .ok code => .ok code (s.called sdk serial call (.ok code))
  | .error (typeName, text) =>
    .error (.other typeName text) (s.called sdk serial call (.error (typeName, text)))

def checkedCall (sdk : Sdk) (serial : String) (call : SdkCall) (operation : String) :
    MvsProgram Unit := do
  checkMvs (← sdkCall sdk serial call) (serial ++ ": " ++ operation)

def MvsState.read (s : MvsState) (serial name : String) (on : Bool) : MvsState :=
  { s with
    asked := s.asked + 1
    devices := Function.update s.devices serial { s.devices serial with
      readings := Function.update (s.devices serial).readings name (.read on) } }

/-- What the last look at a switch has found. -/
def askSwitch (sdk : Sdk) (serial name : String) : MvsProgram Bool := fun s =>
  .ok (sdk.boolValue s.asked serial name) (s.read serial name (sdk.boolValue s.asked serial name))

def ignoredCall (sdk : Sdk) (serial : String) (call : SdkCall) : MvsProgram Unit :=
  tryCatch (do let _ ← sdkCall sdk serial call) fun _ => pure ()

def MvsState.withCamera (s : MvsState) (serial : String) (c : CameraSession) : MvsState :=
  { s with cameras := Function.update s.cameras serial c }

def modifyCamera (serial : String) (f : CameraSession → CameraSession) : MvsProgram Unit :=
  modify fun s => s.withCamera serial (f (s.cameras serial))

/-! ### What a call changes -/

/-- Calls that hand something back. -/
def SdkCall.closes : SdkCall → Bool
  | .closeDevice | .destroyHandle | .stopGrabbing | .freeImageBuffer => true
  | _ => false

/-- Calls that neither open nor close anything. -/
def SdkCall.quiet : SdkCall → Bool
  | .createHandle | .openDevice | .startGrabbing | .getImageBuffer _ => false
  | call => !call.closes

def SdkCall.writes : SdkCall → Bool
  | .setValue _ _ => true
  | _ => false

theorem owed_after_quiet {call : SdkCall} (h : call.quiet = true) (b : Owed) (done : Bool) :
    b.after call done = b := by
  cases call with
  | createHandle | openDevice | closeDevice | destroyHandle => cases h
  | startGrabbing | stopGrabbing | getImageBuffer | freeImageBuffer => cases h
  | _ => rfl

theorem owed_after_failed {call : SdkCall} (h : call.closes = false) (b : Owed) :
    b.after call false = b := by
  have hzero : ∀ n : ℤ, n + Bool.toInt false = n := Int.add_zero
  cases call with
  | closeDevice | destroyHandle | stopGrabbing | freeImageBuffer => cases h
  | createHandle | openDevice | startGrabbing | getImageBuffer => simp only [Owed.after, hzero]
  | _ => rfl

theorem registers_after (sdk : Sdk) (d : Device) {call : SdkCall} (outcome : Outcome)
    (h : call.writes = false ∨ succeeded outcome = false) :
    (d.after sdk call outcome).registers = d.registers := by
  cases call with
  | setValue name value =>
    rcases h with h | h
    · cases h
    · simp only [Device.after, h, Bool.false_eq_true, if_false]
  | _ => rfl

/-- Calls that look at a switch, or forget what was found. -/
def SdkCall.looks : SdkCall → Bool
  | .openDevice | .getBoolValue _ => true
  | _ => false

theorem readings_after (sdk : Sdk) (d : Device) {call : SdkCall} (outcome : Outcome)
    (h : call.looks = false) : (d.after sdk call outcome).readings = d.readings := by
  cases call with
  | openDevice | getBoolValue => cases h
  | _ => rfl

theorem called_device (s : MvsState) (sdk : Sdk) (serial : String) (call : SdkCall)
    (outcome : Outcome) : (s.called sdk serial call outcome).devices serial =
      (s.devices serial).after sdk call outcome := Function.update_self ..

theorem read_device (s : MvsState) (serial name : String) (on : Bool) :
    (s.read serial name on).devices serial = { s.devices serial with
      readings := Function.update (s.devices serial).readings name (.read on) } :=
  Function.update_self ..

theorem with_camera (s : MvsState) (serial : String) (c : CameraSession) :
    (s.withCamera serial c).cameras serial = c := Function.update_self ..

/-! ### What the steps of a program do -/

section
variable {α : Type} {P : MvsState → Prop} {Q : α → MvsState → Prop} {E : MvsError → MvsState → Prop}

theorem meets_of_except {x : Except MvsError α} (hok : ∀ a, x = .ok a → ∀ s, P s → Q a s)
    (herror : ∀ e, x = .error e → ∀ s, P s → E e s) : Meets P (ofExcept x) Q E := by
  cases x with
  | ok a => exact hok a rfl
  | error e => exact herror e rfl

theorem meets_ask {answers : ℕ → α}
    (h : ∀ s, P s → Q (answers s.asked) { s with asked := s.asked + 1 }) :
    Meets P (ask answers) Q E := h

theorem meets_ensure {Q : Unit → MvsState → Prop} {holds : Bool} {e : MvsError}
    (hok : holds = true → ∀ s, P s → Q () s) (herror : holds = false → ∀ s, P s → E e s) :
    Meets P (ensure holds e) Q E := by
  cases holds with
  | true => exact hok rfl
  | false => exact herror rfl

theorem meets_do_unless {Q : Unit → MvsState → Prop} {holds : Bool} {p : MvsProgram Unit}
    (hskip : holds = true → ∀ s, P s → Q () s) (hdo : holds = false → Meets P p Q E) :
    Meets P (doUnless holds p) Q E := by
  cases holds with
  | true => exact hskip rfl
  | false => exact hdo rfl

theorem meets_modify_camera {Q : Unit → MvsState → Prop} {serial : String}
    {f : CameraSession → CameraSession}
    (h : ∀ s, P s → Q () (s.withCamera serial (f (s.cameras serial)))) :
    Meets P (modifyCamera serial f) Q E := h

theorem meets_sdk_call {Q : ℤ → MvsState → Prop} {sdk : Sdk} {serial : String} {call : SdkCall}
    (hreturn : ∀ s code, P s → Q code (s.called sdk serial call (.ok code)))
    (hraise : ∀ s typeName text, P s →
      E (.other typeName text) (s.called sdk serial call (.error (typeName, text)))) :
    Meets P (sdkCall sdk serial call) Q E := by
  intro s hs
  unfold sdkCall
  cases hcall : sdk.call s.asked serial call with
  | ok code => exact hreturn s code hs
  | error raised => exact hraise s raised.1 raised.2 hs

theorem meets_checked_call {Q : Unit → MvsState → Prop} {sdk : Sdk} {serial operation : String}
    {call : SdkCall} (hok : ∀ s, P s → Q () (s.called sdk serial call (.ok 0)))
    (hfail : ∀ s outcome e, P s → succeeded outcome = false →
      E e (s.called sdk serial call outcome)) :
    Meets P (checkedCall sdk serial call operation) Q E := by
  intro s hs
  have hrun : checkedCall sdk serial call operation s =
      match sdk.call s.asked serial call with
      | .ok code =>
        checkMvs code (serial ++ ": " ++ operation) (s.called sdk serial call (.ok code))
      | .error (typeName, text) =>
        .error (.other typeName text) (s.called sdk serial call (.error (typeName, text))) := by
    change EStateM.bind (sdkCall sdk serial call) _ s = _
    unfold EStateM.bind sdkCall
    cases sdk.call s.asked serial call <;> rfl
  rw [hrun]
  cases sdk.call s.asked serial call with
  | error raised => exact hfail s (.error raised) _ hs rfl
  | ok code =>
    by_cases hzero : code = 0
    · subst hzero
      exact hok s hs
    · simp only [checkMvs, ensure, decide_eq_false hzero]
      exact hfail s (.ok code) _ hs (decide_eq_false fun h => hzero (Option.some.inj h))

theorem meets_ignored_call {Q : Unit → MvsState → Prop} {sdk : Sdk} {serial : String}
    {call : SdkCall} (h : ∀ s outcome, P s → Q () (s.called sdk serial call outcome)) :
    Meets P (ignoredCall sdk serial call) Q E := by
  refine meets_catch (R := fun _ => Q ()) (meets_bind (R := fun _ => Q ()) ?_ ?_) ?_
  · exact meets_sdk_call (fun s code hs => h s _ hs) (fun s _ _ hs => h s _ hs)
  · exact fun _ => meets_pure (fun _ => Q ()) _ ()
  · exact fun _ => meets_pure (fun _ => Q ()) _ ()

end

/-! ### Programs of some cameras -/

/-- From `s` to `s'` only cameras of `S` were at work, and only files of `F` were written. -/
structure Within (S F : String → Prop) (s s' : MvsState) : Prop where
  asked : s.asked ≤ s'.asked
  devices : ∀ serial, ¬ S serial → s'.devices serial = s.devices serial
  cameras : ∀ serial, ¬ S serial → s'.cameras serial = s.cameras serial
  backend : s'.backend = s.backend
  files : ∀ path, ¬ F path → s'.files path = s.files path
  actions : s'.actions = s.actions

def NoFile : String → Prop := fun _ => False

/-- The program is one of the cameras of `S` and the files of `F`. -/
def Local {α : Type} (S F : String → Prop) (p : MvsProgram α) : Prop :=
  ∀ s₀, Keeps (Within S F s₀) p

section
variable {α β : Type} {S F : String → Prop}

theorem Within.refl (s : MvsState) : Within S F s s :=
  ⟨le_rfl, fun _ _ => rfl, fun _ _ => rfl, rfl, fun _ _ => rfl, rfl⟩

theorem Within.trans {s s' s'' : MvsState} (h : Within S F s s') (h' : Within S F s' s'') :
    Within S F s s'' where
  asked := h.asked.trans h'.asked
  devices c hc := (h'.devices c hc).trans (h.devices c hc)
  cameras c hc := (h'.cameras c hc).trans (h.cameras c hc)
  backend := h'.backend.trans h.backend
  files path hpath := (h'.files path hpath).trans (h.files path hpath)
  actions := h'.actions.trans h.actions

theorem Within.mono {S' F' : String → Prop} {s s' : MvsState} (h : Within S F s s')
    (hS : ∀ serial, S serial → S' serial) (hF : ∀ path, F path → F' path) : Within S' F' s s' where
  asked := h.asked
  devices c hc := h.devices c (hc ∘ hS c)
  cameras c hc := h.cameras c (hc ∘ hS c)
  backend := h.backend
  files path hpath := h.files path (hpath ∘ hF path)
  actions := h.actions

theorem Local.mono {S' F' : String → Prop} {p : MvsProgram α} (h : Local S F p)
    (hS : ∀ serial, S serial → S' serial) (hF : ∀ path, F path → F' path) : Local S' F' p := by
  intro s₀ s hs
  have hend := h s s (Within.refl s)
  cases hrun : p s with
  | ok a s' =>
    rw [hrun] at hend
    exact hs.trans (hend.mono hS hF)
  | error e s' =>
    rw [hrun] at hend
    exact hs.trans (hend.mono hS hF)

theorem local_sdk_call (sdk : Sdk) {serial : String} (hserial : S serial) (call : SdkCall) :
    Local S F (sdkCall sdk serial call) := by
  have hcalled : ∀ s₀ s outcome, Within S F s₀ s →
      Within S F s₀ (s.called sdk serial call outcome) := by
    intro s₀ s outcome h
    refine ⟨Nat.le_succ_of_le h.asked, fun c hc => ?_, h.cameras, h.backend, h.files, h.actions⟩
    rw [← h.devices c hc]
    exact Function.update_of_ne (fun hsame : c = serial => hc (hsame ▸ hserial)) _ _
  exact fun s₀ => meets_sdk_call (fun s _ h => hcalled s₀ s _ h) (fun s _ _ h => hcalled s₀ s _ h)

theorem local_ask_switch (sdk : Sdk) {serial : String} (hserial : S serial) (name : String) :
    Local S F (askSwitch sdk serial name) := by
  intro s₀ s h
  refine ⟨Nat.le_succ_of_le h.asked, fun c hc => ?_, h.cameras, h.backend, h.files, h.actions⟩
  rw [← h.devices c hc]
  exact Function.update_of_ne (fun hsame : c = serial => hc (hsame ▸ hserial)) _ _

theorem local_modify_camera {serial : String} (hserial : S serial)
    (f : CameraSession → CameraSession) : Local S F (modifyCamera serial f) := by
  refine fun s₀ => meets_modify_camera fun s h => ?_
  refine ⟨h.asked, h.devices, fun c hc => ?_, h.backend, h.files, h.actions⟩
  rw [← h.cameras c hc]
  exact Function.update_of_ne (fun hsame : c = serial => hc (hsame ▸ hserial)) _ _

theorem local_ask (answers : ℕ → α) : Local S F (ask answers) := fun _ =>
  meets_ask fun _ h =>
    ⟨Nat.le_succ_of_le h.asked, h.devices, h.cameras, h.backend, h.files, h.actions⟩

theorem local_pure (a : α) : Local S F (pure a : MvsProgram α) := fun _ => keeps_pure a

theorem local_throw (e : MvsError) : Local S F (throw e : MvsProgram α) := fun _ => keeps_throw e

theorem local_get : Local S F (get : MvsProgram MvsState) := fun _ => keeps_get

theorem local_bind {p : MvsProgram α} {f : α → MvsProgram β} (hp : Local S F p)
    (hf : ∀ a, Local S F (f a)) : Local S F (p >>= f) :=
  fun s₀ => keeps_bind (hp s₀) fun a => hf a s₀

theorem local_catch {p : MvsProgram α} {handler : MvsError → MvsProgram α} (hp : Local S F p)
    (hh : ∀ e, Local S F (handler e)) : Local S F (tryCatch p handler) :=
  fun s₀ => keeps_catch (hp s₀) fun e => hh e s₀

theorem local_finally {p : MvsProgram α} {cleanup : MvsProgram β} (hp : Local S F p)
    (hc : Local S F cleanup) : Local S F (tryFinally p cleanup) :=
  fun s₀ => keeps_finally (hp s₀) (hc s₀)

theorem local_for_m {γ : Type} {f : γ → MvsProgram PUnit} {cs : List γ}
    (h : ∀ c ∈ cs, Local S F (f c)) : Local S F (cs.forM f) :=
  fun s₀ => keeps_for_m fun c hc => h c hc s₀

theorem local_ensure (holds : Bool) (e : MvsError) : Local S F (ensure holds e) :=
  fun _ => meets_ensure (fun _ _ h => h) fun _ _ h => h

theorem local_of_except (x : Except MvsError α) : Local S F (ofExcept x) :=
  fun _ => meets_of_except (fun _ _ _ h => h) fun _ _ _ h => h

theorem local_do_unless (holds : Bool) {p : MvsProgram Unit} (hp : Local S F p) :
    Local S F (doUnless holds p) := fun s₀ => meets_do_unless (fun _ _ h => h) fun _ => hp s₀

theorem local_checked_call (sdk : Sdk) {serial : String} (hserial : S serial) (call : SdkCall)
    (operation : String) : Local S F (checkedCall sdk serial call operation) :=
  local_bind (local_sdk_call sdk hserial call) fun _ => local_ensure _ _

theorem local_ignored_call (sdk : Sdk) {serial : String} (hserial : S serial) (call : SdkCall) :
    Local S F (ignoredCall sdk serial call) :=
  local_catch (local_bind (local_sdk_call sdk hserial call) fun _ => local_pure _) fun _ =>
    local_pure _

theorem local_attempt {p : MvsProgram α} (hp : Local S F p) : Local S F (attempt p) :=
  local_catch (local_bind hp fun _ => local_pure _) fun _ => local_pure _

/-- What the work of the cameras and files does not touch stays true. -/
theorem Local.keeps {p : MvsProgram α} (h : Local S F p) {I : MvsState → Prop}
    (hI : ∀ s s', Within S F s s' → I s → I s') : Keeps I p := by
  intro s hs
  have hend := h s s (Within.refl s)
  cases hrun : p s with
  | ok a s' =>
    rw [hrun] at hend
    exact hI s s' hend hs
  | error e s' =>
    rw [hrun] at hend
    exact hI s s' hend hs

end

end InspectionLine.Mvs
