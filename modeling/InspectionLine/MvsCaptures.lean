import InspectionLine.MvsLifecycle

/-! # Captures of the cameras

An Action1 command is issued only when all cameras of its station stream and have no frame
waiting; a batch that is handed over is complete, and one that is given up leaves no image. -/
namespace InspectionLine.Mvs

open ByteFrames RaisingPrograms SuccessfulRuns

section
variable {sdk : Sdk} {settings : MvsBackendSettings} {S D F : String → Prop} {s₀ : MvsState}
  {b : BackendState} {actions : List IssuedAction}

/-! ### Before the action -/

theorem meets_drain {serial : String} (stationId : ℕ) :
    Meets (Streaming settings stationId 0 serial) (do
        let _ ← drainStaleFrames sdk serial
        networkCounters sdk serial)
      (fun _ => Drained settings stationId serial)
      (fun _ => Streaming settings stationId 0 serial) := by
  refine meets_bind (meets_drain_frames 32 0) fun _ => ?_
  exact meets_weaken (meets_network_counters (P := Drained settings stationId serial)
    (fun _ _ h => h.counted) fun _ h => ⟨h.1.asked, h.2⟩) (fun _ h => h) (fun _ _ h => h)
    fun _ _ h => h.1

theorem meets_drain_open {serial : String} {on dry : Prop} (hon : on) :
    Meets (Mode settings on dry serial) (do
        let _ ← drainStaleFrames sdk serial
        networkCounters sdk serial)
      (fun _ => Mode settings on True serial)
      (fun _ s => True ∧ Mode settings on False serial s) := by
  refine meets_weaken (meets_exists (P := fun stationId => Streaming settings stationId 0 serial)
    fun stationId hstation => meets_weaken (meets_drain stationId) (fun _ h => h)
      (fun _ _ h => ?_) fun _ _ h => ?_) (fun _ h => h.held hon) (fun _ _ h => h) fun _ _ h => h
  · exact ⟨fun _ => ⟨stationId, hstation, h.1⟩, fun hoff => absurd hon hoff, fun _ => h.2⟩
  · exact ⟨trivial, fun _ => ⟨stationId, hstation, h⟩, fun hoff => absurd hon hoff, False.elim⟩

theorem stands_prepare_camera {serial : String} (hserial : S serial) :
    Meets (Stands settings S D F s₀ b actions) (prepareCamera sdk serial)
      (fun _ => Stands settings S (fun c => D c ∨ c = serial) F s₀ b actions)
      (fun _ => Stands settings S NoCamera F s₀ b actions) := by
  refine meets_get_bind fun s₁ => meets_bind (R := fun _ => Stands settings S D F s₀ b actions)
    (meets_ensure (fun _ _ h => h.2) fun _ _ h => h.2.weaken fun _ => False.elim) fun _ => ?_
  refine meets_weaken (stands_step (N := True) (T := S) (V := fun c => D c ∨ c = serial)
    (U := S) (W := NoCamera) ?_ (meets_weaken (meets_drain_open hserial) (fun _ h => h)
      (fun _ _ h => ⟨h.held, h.idle, fun _ => h.emptied trivial⟩) fun _ _ h => h) ?_ ?_)
    (fun _ h => h) (fun _ _ h => h) fun _ _ h => h.2
  · exact local_bind (local_drain_frames (S := (· = serial)) rfl 32 0) fun _ =>
      local_network_counters rfl
  · exact fun c hc => ⟨Iff.rfl, fun h => h.resolve_right hc⟩
  · exact fun c _ => ⟨Iff.rfl, False.elim⟩

theorem stands_prepare_cameras (serials : List String) (hserials : ∀ c ∈ serials, S c) :
    Meets (Stands settings S D F s₀ b actions) (prepareCameras sdk serials)
      (fun _ => Stands settings S (fun c => D c ∨ c ∈ serials) F s₀ b actions)
      (fun _ => Stands settings S NoCamera F s₀ b actions) := by
  induction serials generalizing D with
  | nil =>
    exact meets_weaken (meets_pure (fun _ => Stands settings S D F s₀ b actions) _ [])
      (fun _ h => h) (fun _ _ h => h.weaken fun c hc => hc.resolve_right List.not_mem_nil)
      fun _ _ h => h
  | cons serial serials ih =>
    refine meets_bind (stands_prepare_camera (hserials serial List.mem_cons_self)) fun counters =>
      meets_bind (ih fun c hc => hserials c (List.mem_cons_of_mem serial hc)) fun rest => ?_
    intro s h
    refine h.weaken fun c hc => ?_
    rcases hc with hc | hc
    · exact .inl (.inl hc)
    · rcases List.mem_cons.mp hc with rfl | hc
      · exact .inl (.inr rfl)
      · exact .inr hc

/-! ### The action -/

/-- What every issued action is: its cameras streamed, and had no frame waiting. -/
def readyAction (stationId : ℕ) : IssuedAction := ⟨stationId, true, true⟩

def OneMore (stationId : ℕ) (actions actions' : List IssuedAction) : Prop :=
  actions' = actions ∨ actions' = actions ++ [readyAction stationId]

theorem stands_note_action {stationId : ℕ}
    (hstation : ∀ c ∈ settings.stationCameras stationId, S c ∧ D c)
    {E : MvsError → MvsState → Prop} :
    Meets (Stands settings S D F s₀ b actions) (noteAction settings stationId)
      (fun _ => Stands settings S D F s₀ b (actions ++ [readyAction stationId])) E := by
  intro s h
  have hrunning : ((settings.stationCameras stationId).all fun c =>
      (s.devices c).owed = Owed.of true true true) = true := by
    rw [List.all_eq_true]
    intro c hc
    obtain ⟨_, _, hstream⟩ := (h.held c).held (hstation c hc).1
    exact decide_eq_true hstream.owed
  have hemptied : ((settings.stationCameras stationId).all fun c => (s.devices c).emptied) =
      true := by
    rw [List.all_eq_true]
    exact fun c hc => (h.held c).emptied (hstation c hc).2
  refine ⟨h.held.moved rfl rfl, h.kept.asked, h.kept.backend, h.kept.files, ?_⟩
  change s.actions ++ [_] = _
  rw [h.kept.actions, hrunning, hemptied, readyAction]

structure Acknowledged (settings : MvsBackendSettings) (stationId : ℕ)
    (results : List (String × ℤ)) : Prop where
  addresses : ∀ address, address ∈ results.map Prod.fst ↔
    ∃ serial ∈ settings.stationCameras stationId,
      settings.cameraNetworkMap.get? serial = some address
  succeeded : ∀ address, address ∈ results.map Prod.fst →
    (OrderedDict.collect Prod.fst Prod.snd results).get? address = some 0

theorem acknowledged {stationId : ℕ} {results : List (String × ℤ)}
    (h : checkAcknowledgements sdk settings stationId results = .ok ()) :
    Acknowledged settings stationId results := by
  obtain ⟨expected, hexpected, h⟩ := bind_ok.mp h
  obtain ⟨_, hkeys, hfailed⟩ := bind_ok.mp h
  have haddresses := of_decide_eq_true (sdk_error_ok hkeys)
  have hnone := of_decide_eq_true (sdk_error_ok hfailed)
  have hlookups := map_m_forall₂.mp hexpected
  constructor
  · intro address
    have hmem : address ∈ results.map Prod.fst ↔ address ∈ expected := by
      rw [← @OrderedDict.mem_keys_collect _ _ _ _ _ Prod.snd, ← List.mem_toFinset, haddresses,
        List.mem_toFinset]
    rw [hmem]
    constructor
    · intro hin
      obtain ⟨serial, hserial, hget⟩ := exists_of_mem_right hlookups hin
      exact ⟨serial, hserial, lookup_ok hget⟩
    · rintro ⟨serial, hserial, hget⟩
      obtain ⟨found, hfound, hlookup⟩ := exists_of_mem_left hlookups hserial
      have hsame := hget.symm.trans (lookup_ok hlookup)
      cases hsame
      exact hfound
  · intro address hin
    rw [← @OrderedDict.mem_keys_collect _ _ _ _ _ Prod.snd] at hin
    obtain ⟨status, hstatus⟩ := OrderedDict.mem_keys.mp hin
    have hentry := List.eq_nil_iff_forall_not_mem.mp hnone (address, status)
    rw [List.mem_filter, not_and] at hentry
    have hzero := hentry (OrderedDict.get?_eq_some.mp hstatus)
    rw [decide_eq_true_eq, not_not] at hzero
    subst hzero
    exact hstatus

theorem stands_issue_action {stationId : ℕ}
    (hstation : ∀ c ∈ settings.stationCameras stationId, S c ∧ D c) :
    Meets (Stands settings S D F s₀ b actions) (issueAction sdk settings stationId)
      (fun _ s => (∃ asked, s₀.asked ≤ asked ∧
          Acknowledged settings stationId (sdk.actionResults asked stationId)) ∧
        Stands settings S NoCamera F s₀ b (actions ++ [readyAction stationId]) s)
      (fun _ s => ∃ actions', OneMore stationId actions actions' ∧
        Stands settings S NoCamera F s₀ b actions' s) := by
  have hbefore : ∀ s, Stands settings S D F s₀ b actions s → ∃ actions',
      OneMore stationId actions actions' ∧ Stands settings S NoCamera F s₀ b actions' s :=
    fun s h => ⟨actions, .inl rfl, h.weaken fun _ => False.elim⟩
  have hafter : ∀ s, Stands settings S NoCamera F s₀ b (actions ++ [readyAction stationId]) s →
      ∃ actions', OneMore stationId actions actions' ∧
        Stands settings S NoCamera F s₀ b actions' s := fun s h => ⟨_, .inr rfl, h⟩
  let issued := Stands settings S NoCamera F s₀ b (actions ++ [readyAction stationId])
  have hnoted : Meets (Stands settings S D F s₀ b actions) (noteAction settings stationId)
      (fun _ => issued) (fun _ s => ∃ actions', OneMore stationId actions actions' ∧
        Stands settings S NoCamera F s₀ b actions' s) :=
    meets_weaken (stands_note_action hstation) (fun _ h => h)
      (fun _ _ h => h.weaken fun _ => False.elim) fun _ => hafter
  have hexcept : ∀ {α : Type} (x : Except MvsError α), Meets issued (ofExcept x)
      (fun a s => x = .ok a ∧ issued s)
      (fun _ s => ∃ actions', OneMore stationId actions actions' ∧
        Stands settings S NoCamera F s₀ b actions' s) :=
    fun _ => meets_weaken stands_of_except (fun _ h => h) (fun _ _ h => h) fun _ => hafter
  have hresults : Meets issued (ask fun n => sdk.actionResults n stationId)
      (fun results s => (∃ asked, s₀.asked ≤ asked ∧ results = sdk.actionResults asked stationId) ∧
        issued s)
      (fun _ s => ∃ actions', OneMore stationId actions actions' ∧
        Stands settings S NoCamera F s₀ b actions' s) := by
    refine meets_ask fun s h => ⟨⟨s.asked, h.kept.asked, rfl⟩, ?_⟩
    exact ⟨h.held.moved rfl rfl, Nat.le_succ_of_le h.kept.asked, h.kept.backend, h.kept.files,
      h.kept.actions⟩
  refine meets_get_bind fun s₁ => meets_bind (R := fun _ => Stands settings S D F s₀ b actions)
    (meets_ensure (fun _ _ h => h.2) fun _ s h => hbefore s h.2) fun _ => ?_
  refine meets_bind (R := fun _ => Stands settings S D F s₀ b actions)
    (meets_weaken stands_of_except (fun _ h => h) (fun _ _ h => h.2) fun _ => hbefore) fun _ => ?_
  refine meets_bind hnoted fun _ => meets_bind (stands_ask _) fun answer => ?_
  refine meets_bind (hexcept _) fun returnCode => meets_of_fact fun _ => ?_
  refine meets_bind (R := fun _ => issued)
    (meets_ensure (fun _ _ h => h) fun _ s h => hafter s h) fun _ => ?_
  refine meets_bind hresults fun results => meets_of_fact fun ⟨asked, hasked, heq⟩ => ?_
  refine meets_weaken (hexcept _) (fun _ h => h) (fun _ s h => ⟨?_, h.2⟩) fun _ _ h => h
  exact ⟨asked, hasked, heq ▸ acknowledged h.1⟩

/-! ### The images -/

theorem image_path_injective (batchDir : String) {a c : String}
    (h : imagePath batchDir a = imagePath batchDir c) : a = c := by
  have hlist := congrArg String.toList h
  simp only [imagePath, String.toList_append, List.append_assoc, List.append_cancel_left_eq,
    List.append_cancel_right_eq] at hlist
  exact String.toList_injective hlist

theorem local_receive_all {batchDir : String} {counters : List (String × NetworkCounters)}
    (serials : List String)
    (hserials : ∀ c ∈ serials, S c ∧ F (imagePath batchDir c)) :
    Local S F (receiveAll sdk settings batchDir counters serials) := by
  induction serials with
  | nil => exact local_pure _
  | cons serial serials ih =>
    have hhead := hserials serial List.mem_cons_self
    exact local_bind (local_attempt (local_receive_and_save hhead.1 hhead.2 _)) fun _ =>
      local_bind (ih fun c hc => hserials c (List.mem_cons_of_mem serial hc)) fun _ => local_pure _

theorem stands_receive {serial path : String} {counters : NetworkCounters} (hserial : S serial)
    (hpath : F path) {E : MvsError → MvsState → Prop} :
    Meets (Stands settings S NoCamera F s₀ b actions)
      (attempt (receiveAndSave sdk settings serial path counters))
      (fun _ => Stands settings S NoCamera F s₀ b actions) E := by
  have hopen : Keeps (Mode settings (S serial) False serial)
      (receiveAndSave sdk settings serial path counters) := by
    refine meets_weaken (meets_exists (P := fun stationId => Streaming settings stationId 0 serial)
      fun stationId hstation => meets_weaken keeps_receive_and_save (fun _ h => h)
        (fun _ _ h => ?_) fun _ _ h => ?_) (fun _ h => h.held hserial) (fun _ _ h => h)
      fun _ _ h => h
    all_goals exact ⟨fun _ => ⟨stationId, hstation, h⟩, fun hoff => absurd hserial hoff, False.elim⟩
  refine meets_attempt (meets_weaken (stands_step (N := True) (T := S) (V := NoCamera) (U := S)
    (W := NoCamera) (local_receive_and_save (S := (· = serial)) rfl hpath counters)
    (meets_weaken hopen (fun _ h => h) (fun _ _ h => h) fun _ _ h => ⟨trivial, h⟩)
    (fun _ _ => ⟨Iff.rfl, id⟩) fun _ _ => ⟨Iff.rfl, id⟩) (fun _ h => h) (fun _ _ h => h)
    fun _ _ h => h.2)

theorem stands_receive_all {batchDir : String} {counters : List (String × NetworkCounters)}
    (serials : List String) (hserials : ∀ c ∈ serials, S c ∧ F (imagePath batchDir c))
    {E : MvsError → MvsState → Prop} :
    Meets (Stands settings S NoCamera F s₀ b actions)
      (receiveAll sdk settings batchDir counters serials)
      (fun _ => Stands settings S NoCamera F s₀ b actions) E := by
  induction serials with
  | nil => exact fun _ h => h
  | cons serial serials ih =>
    have hhead := hserials serial List.mem_cons_self
    exact meets_bind (stands_receive hhead.1 hhead.2) fun _ =>
      meets_bind (ih fun c hc => hserials c (List.mem_cons_of_mem serial hc)) fun _ => fun _ h => h

theorem SavedImage.within {start : ℕ} {serial path : String} {image : ImageArtifact}
    {s s' : MvsState} (h : SavedImage sdk settings start serial path image s)
    (hwithin : Within S F s s') (hpath : ¬ F path) :
    SavedImage sdk settings start serial path image s' := by
  obtain ⟨asked, content, hasked, haccepted, hlost, hwrite, hfile, hdigest⟩ := h.content
  exact ⟨h.cameraId, h.filePath, h.dimensions, h.pixelFormat, h.resends, asked, content, hasked,
    haccepted, hlost, hwrite, (hwithin.files path hpath).trans hfile, hdigest⟩

/-- Without an error every camera has its image, which those that come later leave alone. -/
theorem meets_receive_all (start : ℕ) {batchDir : String}
    {counters : List (String × NetworkCounters)} (serials : List String) (hnodup : serials.Nodup)
    {E : MvsError → MvsState → Prop} :
    Meets (fun s => start ≤ s.asked) (receiveAll sdk settings batchDir counters serials)
      (fun r s => (r.2 = [] → r.1.map Prod.fst = serials) ∧ ∀ saved ∈ r.1,
        SavedImage sdk settings start saved.1 (imagePath batchDir saved.1) saved.2 s) E := by
  induction serials with
  | nil => exact fun _ _ => ⟨fun _ => rfl, fun _ hmem => absurd hmem List.not_mem_nil⟩
  | cons serial serials ih =>
    obtain ⟨hnew, hrest⟩ := List.nodup_cons.mp hnodup
    let path := imagePath batchDir serial
    let saved (ended : Except MvsError ImageArtifact) (s : MvsState) : Prop :=
      ∀ image, ended = .ok image → SavedImage sdk settings start serial path image s
    refine meets_bind (R := fun ended s => start ≤ s.asked ∧ saved ended s) ?_ fun ended => ?_
    · refine meets_attempt (meets_weaken (meets_and ((local_receive_and_save (S := (· = serial))
        (F := (· = path)) rfl rfl _).keeps fun _ _ hwithin h => le_trans h hwithin.asked)
        (meets_receive_and_save start path _)) (fun _ h => ⟨h, h⟩) (fun image _ h => ⟨h.1, ?_⟩)
        fun _ _ h => ⟨h.1, ?_⟩)
      · intro found hfound
        cases hfound
        exact h.2
      · intro found hfound
        cases hfound
    · have hlocal : Local (· ∈ serials) (· ∈ serials.map (imagePath batchDir))
          (receiveAll sdk settings batchDir counters serials) :=
        local_receive_all serials fun c hc => ⟨hc, List.mem_map_of_mem hc⟩
      have hpath : path ∉ serials.map (imagePath batchDir) := by
        rintro hmem
        obtain ⟨c, hc, hsame⟩ := List.mem_map.mp hmem
        exact hnew (image_path_injective batchDir hsame ▸ hc)
      have hkept : Keeps (saved ended) (receiveAll sdk settings batchDir counters serials) :=
        hlocal.keeps fun s s' hwithin h image hended => (h image hended).within hwithin hpath
      refine meets_bind (R := fun r s => ((r.2 = [] → r.1.map Prod.fst = serials) ∧
        ∀ saved ∈ r.1, SavedImage sdk settings start saved.1 (imagePath batchDir saved.1) saved.2
          s) ∧ saved ended s) ?_ fun r => ?_
      · exact meets_weaken (meets_and (ih hrest) hkept) (fun _ h => h) (fun _ _ h => h)
          fun _ _ h => h.1
      · intro s h
        cases ended with
        | error e => exact ⟨fun hnone => absurd hnone (List.cons_ne_nil _ _), h.1.2⟩
        | ok image =>
          refine ⟨fun hnone => congrArg (serial :: ·) (h.1.1 hnone), fun found hfound => ?_⟩
          rcases List.mem_cons.mp hfound with rfl | hfound
          · exact h.2 image rfl
          · exact h.1.2 found hfound

/-! ### A batch -/

/-- What is handed over: an image of each camera in the configured order, in its file, behind an
action that all cameras of the station have acknowledged. -/
structure Captured (sdk : Sdk) (settings : MvsBackendSettings) (request : CaptureRequest)
    (frameBatchId batchDir : String) (start : ℕ) (batch : CaptureBatch) (s : MvsState) : Prop where
  productId : batch.productId = request.productId
  stationId : batch.stationId = request.stationId
  captureId : batch.captureId = request.captureId
  frameBatchId : batch.frameBatchId = frameBatchId
  attempt : batch.attempt = request.attempt
  required : request.requiredCameraIds.toFinset =
    (settings.stationCameras request.stationId).toFinset
  cameras : batch.images.map (·.cameraId) = settings.stationCameras request.stationId
  saved : ∀ image ∈ batch.images, SavedImage sdk settings start image.cameraId
    (imagePath batchDir image.cameraId) image s
  acknowledged : ∃ asked, start ≤ asked ∧
    Acknowledged settings request.stationId (sdk.actionResults asked request.stationId)

def batchFiles (settings : MvsBackendSettings) (stationId : ℕ) (batchDir : String) : List String :=
  (settings.stationCameras stationId).map (imagePath batchDir)

theorem mem_of_lookup {serial : String} {image : ImageArtifact}
    {artifacts : List (String × ImageArtifact)} (h : artifacts.lookup serial = some image) :
    (serial, image) ∈ artifacts := by
  obtain ⟨before, after, heq, -⟩ := List.lookup_eq_some_iff.mp h
  exact heq ▸ List.mem_append_right _ List.mem_cons_self

theorem images_found {cameras : List String} {artifacts : List (String × ImageArtifact)}
    (h : ∀ serial ∈ cameras, serial ∈ artifacts.map Prod.fst) :
    ∃ images, cameras.mapM (imageOf artifacts) = .ok images := by
  refine map_m_total fun serial hserial => ?_
  obtain ⟨saved, hsaved, rfl⟩ := List.mem_map.mp (h serial hserial)
  unfold imageOf
  cases hlookup : artifacts.lookup saved.1 with
  | some image => exact ⟨image, rfl⟩
  | none =>
    have hnever := List.lookup_eq_none_iff.mp hlookup saved hsaved
    rw [bne_self_eq_false] at hnever
    cases hnever

theorem images_in_order {start : ℕ} {batchDir : String} {s : MvsState} {cameras : List String}
    {artifacts : List (String × ImageArtifact)} {images : List ImageArtifact}
    (hsaved : ∀ saved ∈ artifacts,
      SavedImage sdk settings start saved.1 (imagePath batchDir saved.1) saved.2 s)
    (himages : cameras.mapM (imageOf artifacts) = .ok images) :
    images.map (·.cameraId) = cameras ∧ ∀ image ∈ images, SavedImage sdk settings start
      image.cameraId (imagePath batchDir image.cameraId) image s := by
  have hpairs := map_m_forall₂.mp himages
  have hfound : ∀ serial image, imageOf artifacts serial = .ok image →
      image.cameraId = serial ∧ SavedImage sdk settings start image.cameraId
        (imagePath batchDir image.cameraId) image s := by
    intro serial image h
    unfold imageOf at h
    split at h
    · rename_i found hlookup
      cases h
      have himage := hsaved _ (mem_of_lookup hlookup)
      rw [himage.cameraId]
      exact ⟨rfl, himage⟩
    · cases h
  constructor
  · clear himages hsaved
    induction hpairs with
    | nil => rfl
    | cons hfirst _ ih => rw [List.map_cons, (hfound _ _ hfirst).1, ih]
  · intro image hmem
    obtain ⟨serial, _, h⟩ := exists_of_mem_right hpairs hmem
    exact (hfound serial image h).2

/-- However the command ends, at most one action more was issued, and one if it went well. -/
theorem stands_attempt_action {stationId : ℕ}
    (hstation : ∀ c ∈ settings.stationCameras stationId, S c ∧ D c)
    {E : MvsError → MvsState → Prop} :
    Meets (Stands settings S D F s₀ b actions) (attempt (issueAction sdk settings stationId))
      (fun ended s => ∃ actions', (OneMore stationId actions actions' ∧
          (ended = .ok () → (∃ asked, s₀.asked ≤ asked ∧
              Acknowledged settings stationId (sdk.actionResults asked stationId)) ∧
            actions' = actions ++ [readyAction stationId])) ∧
        Stands settings S NoCamera F s₀ b actions' s) E := by
  refine meets_attempt (meets_weaken (stands_issue_action hstation) (fun _ h => h)
    (fun _ s h => ⟨_, ⟨.inr rfl, fun _ => ⟨h.1, rfl⟩⟩, h.2⟩) fun e s h => ?_)
  obtain ⟨actions', hone, hs⟩ := h
  refine ⟨actions', ⟨hone, fun hok => ?_⟩, hs⟩
  cases hok

theorem meets_take_batch {request : CaptureRequest} {batchDir frameBatchId : String}
    (hrequired : request.requiredCameraIds.toFinset =
      (settings.stationCameras request.stationId).toFinset)
    (hcameras : (settings.stationCameras request.stationId).Nodup)
    (hheld : ∀ c ∈ settings.stationCameras request.stationId, S c)
    (hfiles : ∀ path ∈ batchFiles settings request.stationId batchDir, F path) :
    Meets (Stands settings S NoCamera F s₀ b actions)
      (takeBatch sdk settings request (settings.stationCameras request.stationId) frameBatchId
        batchDir)
      (fun batch s => Captured sdk settings request frameBatchId batchDir s₀.asked batch s ∧
        Stands settings S NoCamera F s₀ b (actions ++ [readyAction request.stationId]) s)
      (fun _ s => ∃ actions', OneMore request.stationId actions actions' ∧
        Stands settings S NoCamera F s₀ b actions' s) := by
  have hsame : ∀ s, Stands settings S NoCamera F s₀ b actions s → ∃ actions',
      OneMore request.stationId actions actions' ∧ Stands settings S NoCamera F s₀ b actions' s :=
    fun s h => ⟨actions, .inl rfl, h⟩
  have hmember : ∀ {order : List String}, order.Perm (settings.stationCameras request.stationId) →
      ∀ c ∈ order, S c ∧ F (imagePath batchDir c) := fun horder c hc =>
    ⟨hheld c (horder.mem_iff.mp hc), hfiles _ (List.mem_map_of_mem (horder.mem_iff.mp hc))⟩
  let drained := Stands settings S (fun c => NoCamera c ∨
    c ∈ settings.stationCameras request.stationId) F s₀ b actions
  refine meets_bind (meets_weaken (stands_prepare_cameras _ hheld) (fun _ h => h) (fun _ _ h => h)
    fun _ => hsame) fun counters => meets_bind (stands_ask _) fun ready =>
    meets_bind (R := fun order s => order.Perm (settings.stationCameras request.stationId) ∧
      drained s) ?_ fun order => meets_of_fact fun horder => ?_
  · exact meets_ask fun s h => ⟨(sdk.completion s.asked _).2, h.held.moved rfl rfl,
      Nat.le_succ_of_le h.kept.asked, h.kept.backend, h.kept.files, h.kept.actions⟩
  cases ready with
  | false =>
    refine meets_bind (meets_weaken (stands_receive_all order (hmember horder))
      (fun _ h => h.weaken fun _ => False.elim) (fun _ _ h => h) fun _ => hsame) fun _ => ?_
    exact fun s h => hsame s h
  | true =>
    refine meets_bind (stands_ask _) fun requestedMonotonic => meets_bind (stands_ask _)
      fun requestedWall => ?_
    refine meets_bind (stands_attempt_action fun c hc => ⟨hheld c hc, .inr hc⟩) fun ended =>
      meets_exists fun actions' ⟨hactions, hended⟩ => ?_
    have hfailed : ∀ s, Stands settings S NoCamera F s₀ b actions' s → ∃ actions',
        OneMore request.stationId actions actions' ∧
          Stands settings S NoCamera F s₀ b actions' s := fun s h => ⟨actions', hactions, h⟩
    refine meets_bind (stands_ask _) fun returnedMonotonic => meets_bind (stands_ask _)
      fun returnedWall => meets_bind (meets_weaken (meets_and
        (stands_receive_all order (hmember horder) (E := fun _ _ => True))
        (meets_receive_all s₀.asked order (horder.nodup_iff.mpr hcameras)))
        (fun _ h => ⟨h, h.kept.asked⟩) (fun _ _ h => And.intro h.1 h.2.2) fun _ _ h => h.2)
        fun received => ?_
    obtain ⟨artifacts, frameErrors⟩ := received
    refine meets_bind (meets_of_except (fun _ hok s h => And.intro hok h) fun _ _ s h =>
      hfailed s h.1) fun _ => meets_of_fact fun hok => ?_
    obtain ⟨hacknowledged, hactions'⟩ := hended hok
    subst hactions'
    refine meets_bind (meets_of_except (fun _ _ s h => h) fun _ _ s h => hfailed s h.1) fun _ =>
      meets_bind (meets_of_except (fun _ himages s h => And.intro himages h) fun _ _ s h =>
        hfailed s h.1) fun images => meets_of_fact fun himages => ?_
    intro s ⟨hs, hsaved⟩
    obtain ⟨hids, himage⟩ := images_in_order hsaved himages
    exact ⟨⟨rfl, rfl, rfl, rfl, rfl, hrequired, hids, himage, hacknowledged⟩, hs⟩

/-! ### A batch that is given up -/

/-- The file is gone, or could not be removed when that was tried since `start`. -/
def Cleared (sdk : Sdk) (start : ℕ) (path : String) (s : MvsState) : Prop :=
  s.files path = none ∨
    ∃ asked, start ≤ asked ∧ asked < s.asked ∧ sdk.unlinkFails asked path = true

theorem meets_unlink_image {path : String} (hpath : F path) {E : MvsError → MvsState → Prop} :
    Meets (Stands settings S D F s₀ b actions) (unlinkImage sdk path)
      (fun _ s => Cleared sdk s₀.asked path s ∧ Stands settings S D F s₀ b actions s) E := by
  refine meets_bind (R := fun fails s => (fails = true → ∃ asked, s₀.asked ≤ asked ∧
    asked < s.asked ∧ sdk.unlinkFails asked path = true) ∧ Stands settings S D F s₀ b actions s) ?_
    fun fails => ?_
  · exact meets_ask fun s h => ⟨fun hfails => ⟨s.asked, h.kept.asked, Nat.lt_succ_self _, hfails⟩,
      h.held.moved rfl rfl, Nat.le_succ_of_le h.kept.asked, h.kept.backend, h.kept.files,
      h.kept.actions⟩
  · refine meets_do_unless (fun hskip s h => ⟨.inr (h.1 hskip), h.2⟩) fun _ s ⟨_, h⟩ => ?_
    refine ⟨.inl (Function.update_self ..), h.held.moved rfl rfl, h.kept.asked, h.kept.backend,
      fun other hother => ?_, h.kept.actions⟩
    rw [← h.kept.files other hother]
    exact Function.update_of_ne (fun hsame : other = path => hother (hsame ▸ hpath)) _ _

theorem Cleared.asked {start : ℕ} {path : String} {s : MvsState} (h : Cleared sdk start path s) :
    Cleared sdk start path { s with asked := s.asked + 1 } :=
  h.imp_right fun ⟨asked, hstart, hbefore, hfails⟩ =>
    ⟨asked, hstart, Nat.lt_succ_of_lt hbefore, hfails⟩

theorem keeps_cleared (paths : List String) (path : String) :
    Keeps (Cleared sdk s₀.asked path) (cleanupIncompleteBatch sdk paths) := by
  refine keeps_for_m fun other _ => keeps_bind (meets_ask fun _ h => h.asked) fun fails => ?_
  refine meets_do_unless (fun _ _ h => h) fun _ => keeps_modify fun s h =>
    h.imp_left fun hnone => ?_
  by_cases hsame : path = other
  · subst hsame
    exact Function.update_self ..
  · exact (Function.update_of_ne hsame _ _).trans hnone

theorem meets_cleanup (paths : List String) (hpaths : ∀ path ∈ paths, F path)
    {E : MvsError → MvsState → Prop} :
    Meets (Stands settings S D F s₀ b actions) (cleanupIncompleteBatch sdk paths)
      (fun _ s => (∀ path ∈ paths, Cleared sdk s₀.asked path s) ∧
        Stands settings S D F s₀ b actions s) E := by
  induction paths with
  | nil => exact fun _ h => ⟨fun _ hmem => absurd hmem List.not_mem_nil, h⟩
  | cons path paths ih =>
    refine meets_bind (meets_unlink_image (hpaths path List.mem_cons_self)) fun _ => ?_
    refine meets_weaken (meets_and (keeps_cleared paths path)
      (ih fun other hmem => hpaths other (List.mem_cons_of_mem path hmem))) (fun _ h => h)
      (fun _ s h => ⟨fun other hmem => ?_, h.2.2⟩) fun _ _ h => h.2
    rcases List.mem_cons.mp hmem with rfl | hmem
    · exact h.1
    · exact h.2.1 other hmem

/-- The cameras are let go after an error of theirs, and kept after any other. -/
theorem meets_abandon_batch {paths : List String} (hpaths : ∀ path ∈ paths, F path)
    (e : MvsError) {E : MvsError → MvsState → Prop} :
    Meets (Up sdk settings F s₀ actions) (abandonBatch sdk paths e)
      (fun _ s => (∀ path ∈ paths, Cleared sdk s₀.asked path s) ∧
        if e.isSdkError then Down settings F s₀ actions s else Up sdk settings F s₀ actions s)
      E := by
  cases hsdk : e.isSdkError with
  | true =>
    refine meets_bind (R := fun _ => Down settings F s₀ actions) ?_ fun _ =>
      meets_exists fun b hdown => ?_
    · rw [hsdk]
      exact meets_weaken meets_close_sessions (fun _ h => .inr h) (fun _ _ h => h) fun _ _ h => h
    · exact meets_weaken (meets_cleanup paths hpaths) (fun _ h => h)
        (fun _ _ h => ⟨h.1, b, hdown, h.2⟩) fun _ _ h => h
  | false =>
    refine meets_bind (R := fun _ => Up sdk settings F s₀ actions) ?_ fun _ =>
      meets_exists fun b hready => ?_
    · rw [hsdk]
      exact fun s h => h
    · exact meets_weaken (meets_cleanup paths hpaths) (fun _ h => h)
        (fun _ _ h => ⟨h.1, b, hready, h.2⟩) fun _ _ h => h

/-! ### A capture -/

/-- The batch that was given up is one of this capture. It left no file that could be removed, and
no other file is changed. -/
structure GivenUp (sdk : Sdk) (settings : MvsBackendSettings) (request : CaptureRequest)
    (s₀ : MvsState) (frameBatchId : String) (s : MvsState) : Prop where
  own : ∃ asked, s₀.asked ≤ asked ∧ frameBatchId = sdk.uuidHex asked
  cleared : ∀ path ∈ batchFiles settings request.stationId
    (batchDirectory settings request frameBatchId), Cleared sdk s₀.asked path s
  others : ∀ path, path ∉ batchFiles settings request.stationId
    (batchDirectory settings request frameBatchId) → s.files path = s₀.files path

/-- A capture that fails was refused with nothing done, or found no cameras, or gave up its
batch. -/
structure Abandoned (sdk : Sdk) (settings : MvsBackendSettings) (request : CaptureRequest)
    (s₀ : MvsState) (e : MvsError) (s : MvsState) : Prop where
  actions : OneMore request.stationId s₀.actions s.actions
  files : s.files = s₀.files ∨ ∃ frameBatchId, GivenUp sdk settings request s₀ frameBatchId s
  released : e.isSdkError = true → s.backend.initialized = false
  kept : e.isSdkError = false → s.backend.initialized = true ∨
    checkRequest settings request = .error e ∧ s = s₀

/-- A capture that succeeds wrote its own files only and issued one action. -/
def Taken (sdk : Sdk) (settings : MvsBackendSettings) (request : CaptureRequest)
    (s₀ : MvsState) (batch : CaptureBatch) (s : MvsState) : Prop :=
  let batchDir := batchDirectory settings request batch.frameBatchId
  Captured sdk settings request batch.frameBatchId batchDir s₀.asked batch s ∧
    (∀ path, path ∉ batchFiles settings request.stationId batchDir →
      s.files path = s₀.files path) ∧
    s.actions = s₀.actions ++ [readyAction request.stationId]

theorem Stands.mono {F' : String → Prop} {s : MvsState} (h : Stands settings S D F s₀ b actions s)
    (hF : ∀ path, F path → F' path) : Stands settings S D F' s₀ b actions s :=
  ⟨h.held, h.kept.asked, h.kept.backend, fun path hpath => h.kept.files path (hpath ∘ hF path),
    h.kept.actions⟩

theorem check_request_ok {request : CaptureRequest} {cameras : List String}
    (h : checkRequest settings request = .ok cameras) :
    cameras = settings.stationCameras request.stationId ∧
      (request.stationId = 1 ∨ request.stationId = 2) ∧
      request.requiredCameraIds.toFinset = cameras.toFinset := by
  obtain ⟨_, hstation, h⟩ := bind_ok.mp h
  obtain ⟨_, hfound, h⟩ := bind_ok.mp h
  obtain ⟨_, hrequired, h⟩ := bind_ok.mp h
  obtain ⟨_, _, h⟩ := bind_ok.mp h
  cases h
  refine ⟨?_, ?_, of_decide_eq_true (Bool.and_eq_true_iff.mp (check_value_ok hrequired)).2⟩
  · rw [MvsBackendSettings.stationCameras, lookup_ok hfound]
    rfl
  · exact (Bool.or_eq_true_iff.mp (check_value_ok hstation)).imp of_decide_eq_true of_decide_eq_true

/-- No camera has a part in what is raised. -/
def Refuses {α : Type} (x : Except MvsError α) : Prop := ∀ e, x = .error e → e.isSdkError = false

theorem refuses_bind {α β : Type} {x : Except MvsError α} {f : α → Except MvsError β}
    (hx : Refuses x) (hf : ∀ a, Refuses (f a)) : Refuses (x >>= f) := by
  intro e h
  cases x with
  | error _ =>
    cases h
    exact hx _ rfl
  | ok a => exact hf a e h

theorem refuses_check_value (holds : Bool) (text : String) : Refuses (checkValue holds text) := by
  intro e h
  unfold checkValue require at h
  split at h
  · cases h
  · cases h
    rfl

theorem check_request_refuses (request : CaptureRequest) :
    Refuses (checkRequest settings request) := by
  refine refuses_bind (refuses_check_value _ _) fun _ => refuses_bind ?_ fun _ =>
    refuses_bind (refuses_check_value _ _) fun _ =>
    refuses_bind (refuses_check_value _ _) fun _ => ?_
  · intro e h
    unfold lookup at h
    split at h
    · cases h
    · cases h
      rfl
  · exact fun e h => by cases h

theorem station_cameras_expected {stationId : ℕ} (h : stationId = 1 ∨ stationId = 2) :
    ∀ c ∈ settings.stationCameras stationId, c ∈ settings.expectedSerials := by
  rcases h with rfl | rfl
  · exact fun c hc => List.mem_append_left _ hc
  · exact fun c hc => List.mem_append_right _ hc

theorem station_cameras_nodup (hnodup : settings.expectedSerials.Nodup) {stationId : ℕ}
    (h : stationId = 1 ∨ stationId = 2) : (settings.stationCameras stationId).Nodup := by
  rcases h with rfl | rfl
  · exact (List.nodup_append.mp hnodup).1
  · exact (List.nodup_append.mp hnodup).2.1

theorem Up.initialized {s : MvsState} (h : Up sdk settings F s₀ actions s) :
    s.backend.initialized = true := by
  obtain ⟨b, hready, hs⟩ := h
  rw [hs.kept.backend]
  exact hready.initialized

theorem Down.initialized {s : MvsState} (h : Down settings F s₀ actions s) :
    s.backend.initialized = false := by
  obtain ⟨b, hdown, hs⟩ := h
  rw [hs.kept.backend]
  exact hdown.2

theorem UpOrDown.kept {s : MvsState} (h : UpOrDown sdk settings F s₀ actions s) :
    s.actions = actions ∧ ∀ path, ¬ F path → s.files path = s₀.files path := by
  rcases h with ⟨b, _, hs⟩ | ⟨b, _, hs⟩
  · exact ⟨hs.kept.actions, hs.kept.files⟩
  · exact ⟨hs.kept.actions, hs.kept.files⟩

theorem meets_capture_batch {request : CaptureRequest} {cameras : List String}
    (hrequest : checkRequest settings request = .ok cameras) :
    Meets (Up sdk settings NoFile s₀ s₀.actions) (captureBatch sdk settings request cameras)
      (fun batch s => Taken sdk settings request s₀ batch s ∧ ∃ F,
        Up sdk settings F s₀ (s₀.actions ++ [readyAction request.stationId]) s)
      (fun e s => Abandoned sdk settings request s₀ e s ∧ ∃ F actions,
        OneMore request.stationId s₀.actions actions ∧ UpOrDown sdk settings F s₀ actions s) := by
  obtain ⟨rfl, hstation, hrequired⟩ := check_request_ok hrequest
  refine meets_exists fun b hready => meets_bind (R := fun frameBatchId s =>
    (∃ asked, s₀.asked ≤ asked ∧ frameBatchId = sdk.uuidHex asked) ∧ Stands settings
      (· ∈ settings.expectedSerials) NoCamera NoFile s₀ b s₀.actions s) ?_ fun frameBatchId =>
    meets_of_fact fun hown => ?_
  · exact meets_ask fun s h => ⟨⟨s.asked, h.kept.asked, rfl⟩, h.held.moved rfl rfl,
      Nat.le_succ_of_le h.kept.asked, h.kept.backend, h.kept.files, h.kept.actions⟩
  have hnodup := station_cameras_nodup (validate_ok hready.valid).nodup hstation
  let batchDir := batchDirectory settings request frameBatchId
  let F := (· ∈ batchFiles settings request.stationId batchDir)
  have hup : ∀ {actions s},
      Stands settings (· ∈ settings.expectedSerials) NoCamera F s₀ b actions s →
      Up sdk settings F s₀ actions s := fun h => ⟨b, hready, h⟩
  refine meets_bind (stands_ask _) fun made => meets_bind (meets_weaken
    (meets_of_except (x := raised made) (fun _ _ s h => h)
      fun e he s h => And.intro he h) (fun _ h => h) (fun _ _ h => h) fun e s h => ?_) fun _ => ?_
  · have hother : e.isSdkError = false := by
      cases made with
      | ok _ => cases h.1
      | error raised =>
        cases h.1
        rfl
    have hstill : Up sdk settings NoFile s₀ s₀.actions s := ⟨b, hready, h.2⟩
    obtain ⟨hactions, hfiles⟩ := UpOrDown.kept (.inr hstill)
    refine ⟨⟨.inl hactions, .inl (funext fun path => hfiles path id), fun hsdk => ?_,
      fun _ => .inl hstill.initialized⟩, NoFile, _, .inl rfl, .inr hstill⟩
    rw [hother] at hsdk
    cases hsdk
  refine meets_catch (meets_weaken (meets_take_batch (F := F) hrequired hnodup
    (station_cameras_expected hstation) fun _ h => h) (fun _ h => h.mono fun _ => False.elim)
    (fun batch s h => ?_) fun _ _ h => h) fun e => meets_exists fun actions' hone =>
    meets_bind (meets_weaken (meets_abandon_batch (F := F) (fun _ h => h) e) (fun _ => hup)
      (fun _ _ h => h) fun _ _ h => h) fun _ s h => ?_
  · refine ⟨?_, F, hup h.2⟩
    have hid := h.1.frameBatchId
    subst hid
    exact ⟨h.1, h.2.kept.files, h.2.kept.actions⟩
  · obtain ⟨hcleared, hend⟩ := h
    have hstate : UpOrDown sdk settings F s₀ actions' s := by
      split at hend
      · exact .inl hend
      · exact .inr hend
    obtain ⟨hactions, hfiles⟩ := hstate.kept
    refine ⟨⟨hactions ▸ hone, .inr ⟨frameBatchId, hown, hcleared, hfiles⟩, fun hsdk => ?_,
      fun hsdk => ?_⟩, F, actions', hone, hstate⟩
    · rw [if_pos hsdk] at hend
      exact hend.initialized
    · rw [hsdk] at hend
      exact .inl (Up.initialized hend)

theorem meets_capture_station (request : CaptureRequest)
    (hup : UpOrDown sdk settings NoFile s₀ s₀.actions s₀) :
    Meets (fun s => s = s₀) (captureStation sdk settings request)
      (fun batch s => Taken sdk settings request s₀ batch s ∧ ∃ F,
        Up sdk settings F s₀ (s₀.actions ++ [readyAction request.stationId]) s)
      (fun e s => Abandoned sdk settings request s₀ e s ∧ ∃ F actions,
        OneMore request.stationId s₀.actions actions ∧ UpOrDown sdk settings F s₀ actions s) := by
  refine meets_bind (meets_of_except (fun _ hrequest s h => And.intro hrequest h)
    fun e hrefused s h => ?_) fun cameras => meets_of_fact fun hrequest => ?_
  · subst h
    refine ⟨⟨.inl rfl, .inl rfl, fun hsdk => ?_, fun _ => .inr ⟨hrefused, rfl⟩⟩, NoFile, _,
      .inl rfl, hup⟩
    rw [check_request_refuses request e hrefused] at hsdk
    cases hsdk
  · refine meets_get_bind fun s₁ => meets_bind (R := fun _ => Up sdk settings NoFile s₀ s₀.actions)
      ?_ fun _ => meets_capture_batch hrequest
    rintro s ⟨rfl, rfl⟩
    rcases hup with hdown | hready
    · rw [hdown.initialized]
      refine meets_weaken meets_initialize_with_reconnect (fun _ h => .inl h) (fun _ _ h => h)
        (fun e s' h => ?_) s hdown
      obtain ⟨hactions, hfiles⟩ := UpOrDown.kept (.inl h.2 : UpOrDown sdk settings _ _ _ _)
      refine ⟨⟨.inl hactions, .inl (funext fun path => hfiles path id), fun _ => h.2.initialized,
        fun hsdk => ?_⟩, NoFile, _, .inl rfl, .inl h.2⟩
      rw [h.1] at hsdk
      cases hsdk
    · rw [hready.initialized]
      exact hready

end

end InspectionLine.Mvs
