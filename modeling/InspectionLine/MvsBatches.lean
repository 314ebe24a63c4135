import InspectionLine.MvsRuns

/-! # Batches that are handed over

What a capture hands over passes the checks that the node makes of it before it uses the images,
those of the files included. -/
namespace InspectionLine.Mvs

open ByteFrames RaisingPrograms SuccessfulRuns

/-! ### The checks of the images' files -/

def captureFailure (e : PngError) : CaptureError where
  kind := match e.kind with
    | .valueError => .valueError
    | _ => .other
  text := e.text

def readImage (files : String → Option Bytes) (path : String) : Except CaptureError Bytes :=
  match files path with
  | some content => .ok content
  | none => .error
      { kind := .valueError, text := "image file is missing or size metadata mismatches" }

/-- The checks of an image that read its file. -/
def checkImageFile (sdk : Sdk) (files : String → Option Bytes) (image : ImageArtifact) :
    Except CaptureError Unit := do
  let content ← readImage files image.filePath
  checkCapture (content.length = image.fileSizeBytes)
    "image file is missing or size metadata mismatches"
  checkCapture (sdk.sha256 content = image.sha256) "image SHA-256 metadata mismatches"
  (validateCanonicalPng sdk.zlib pythonSlice content image.width image.height
    image.pixelFormat).mapError captureFailure

structure LawfulSdk (sdk : Sdk) : Prop where
  zlib : LawfulZlib sdk.zlib
  short : ∀ level data, data.length = (imageWidth + 1).toNat * imageHeight.toNat →
    (sdk.zlib.compress level data).length < 2 ^ 32
  sha256 : ∀ content, (sdk.sha256 content).length = 64

section
variable {sdk : Sdk} {settings : MvsBackendSettings}

theorem length_pixels {frame : Frame} (h : frame.Accepted sdk) :
    (frame.pixels.length : ℤ) = imageWidth * imageHeight := by
  obtain ⟨memory, hmemory⟩ := Option.isSome_iff_exists.mp h.memory
  rw [Frame.pixels, hmemory, List.length_map, List.length_range]
  rfl

/-- The content that is written passes the check that reads it. -/
theorem image_content_valid (hzlib : LawfulZlib sdk.zlib) {pixels : Bytes} {width height level : ℤ}
    (hwidth : 1 ≤ width ∧ width < 2 ^ 32) (hheight : 1 ≤ height ∧ height < 2 ^ 32)
    (hlevel : 0 ≤ level ∧ level ≤ 9) (hpixels : (pixels.length : ℤ) = width * height)
    (hshort : (sdk.zlib.compress level
      (scanlines pixels width.toNat height.toNat)).length < 2 ^ 32) :
    validateCanonicalPng sdk.zlib pythonSlice (imageContent width height
      (sdk.zlib.compress level (scanlines pixels width.toNat height.toNat))) width height mono8Png =
      .ok () := by
  have hloop := chunk_loop_image hwidth hheight hshort
  have hinflate := hzlib.decompress_compress level
    (scanlines pixels width.toNat height.toNat) hlevel.1 hlevel.2
  have hw : ((width.toNat : ℕ) : ℤ) = width := Int.toNat_of_nonneg (by omega)
  have hh : ((height.toNat : ℕ) : ℤ) = height := Int.toNat_of_nonneg (by omega)
  have hlines := scanlines_valid (show pixels.length = width.toNat * height.toNat from
    Int.ofNat_inj.mp (by rw [hpixels, Int.natCast_mul, hw, hh]))
  rw [hw, hh] at hlines
  have hsignature : pngSignature.isPrefixOf (imageContent width height
      (sdk.zlib.compress level (scanlines pixels width.toNat height.toNat))) = true :=
    List.isPrefixOf_iff_prefix.mpr (List.prefix_append _ _)
  have hcolor : expectedColorType mono8Png = 0 := if_pos rfl
  simp only [validateCanonicalPng, checkPng, bind, Except.bind, hsignature, hloop, hinflate,
    hlines, hcolor, mono8Ihdr, hw, hh, Option.any_some, decide_true, Bool.and_self, if_true]

theorem written_content (hlaw : LawfulSdk sdk) (hvalid : ValidSettings settings) {frame : Frame}
    (haccepted : frame.Accepted sdk) (path : String) :
    ∃ content, writeMono8PngAtomic sdk.zlib path false frame.pixels imageWidth imageHeight
        settings.pngCompressionLevel = .ok content ∧
      1 ≤ content.length ∧ validateCanonicalPng sdk.zlib pythonSlice content imageWidth imageHeight
        mono8Png = .ok () := by
  have hpixels := length_pixels haccepted
  have hnat : frame.pixels.length = imageWidth.toNat * imageHeight.toNat :=
    Int.ofNat_inj.mp (hpixels.trans rfl)
  have hshort : (sdk.zlib.compress settings.pngCompressionLevel
      (scanlines frame.pixels imageWidth.toNat imageHeight.toNat)).length < 2 ^ 32 := by
    refine hlaw.short _ _ ?_
    rw [scanlines_eq hnat, length_blocks fun row hrow => length_filtered_row hnat hrow,
      Nat.mul_comm]
    rfl
  have hwidth : 1 ≤ imageWidth ∧ imageWidth < 2 ^ 32 := by decide
  have hheight : 1 ≤ imageHeight ∧ imageHeight < 2 ^ 32 := by decide
  refine ⟨_, write_content hwidth hheight hvalid.pngLevel hpixels hshort, ?_,
    image_content_valid hlaw.zlib hwidth hheight hvalid.pngLevel hpixels hshort⟩
  rw [imageContent, List.length_append]
  exact Nat.le_add_right_of_le (by decide)

theorem saved_image_valid (hlaw : LawfulSdk sdk) (hvalid : ValidSettings settings) {start : ℕ}
    {serial path : String} {image : ImageArtifact} {s : MvsState}
    (h : SavedImage sdk settings start serial path image s)
    (habsolute : isAbsolutePath path = true) (hlost : image.packetLossCount = 0) :
    image.validate mono8Png (checkImageFile sdk s.files) = .ok () := by
  obtain ⟨asked, content, _, haccepted, _, hwrite, hfile, hdigest, hsize⟩ := h.content
  obtain ⟨written, hwritten, hlength, hpng⟩ := written_content hlaw hvalid haccepted path
  cases hwrite.symm.trans hwritten
  have hcontent : checkImageFile sdk s.files image = .ok () := by
    simp only [checkImageFile, readImage, h.filePath, hfile, hsize, hdigest, h.dimensions.1,
      h.dimensions.2, h.pixelFormat, hpng, checkCapture, decide_true, if_true, Except.mapError,
      bind, Except.bind]
  have hdeclared : (1 : ℤ) ≤ content.length := by exact_mod_cast hlength
  simp only [ImageArtifact.validate, checkCapture, h.pixelFormat, h.filePath, hlost, h.resends,
    habsolute, hdigest, hsize, hlaw.sha256, hdeclared, hcontent, decide_true, Bool.and_self,
    if_true, ne_eq, not_true_eq_false, if_false, le_refl]
  rfl

theorem image_path_absolute (hvalid : ValidSettings settings) (request : CaptureRequest)
    (frameBatchId serial : String) :
    isAbsolutePath (imagePath (batchDirectory settings request frameBatchId) serial) = true := by
  have hroot := of_decide_eq_true hvalid.dataRoot
  refine decide_eq_true ?_
  simp only [imagePath, batchDirectory, String.toList_append, List.append_assoc]
  rw [List.head?_append, hroot]
  rfl

structure Timed (batch : CaptureBatch) : Prop where
  monotonic : 0 < batch.triggerRequestedMonotonicNs ∧
    batch.triggerRequestedMonotonicNs ≤ batch.triggerReturnedMonotonicNs
  wall : 0 < batch.triggerRequestedWallTimeNs ∧
    batch.triggerRequestedWallTimeNs ≤ batch.triggerReturnedWallTimeNs

theorem taken_valid (hlaw : LawfulSdk sdk) (hvalid : ValidSettings settings)
    {request : CaptureRequest} (hstation : request.stationId = 1 ∨ request.stationId = 2)
    {s₀ s : MvsState} {batch : CaptureBatch} (h : Taken sdk settings request s₀ batch s)
    (htimed : Timed batch) (hlost : ∀ image ∈ batch.images, image.packetLossCount = 0) :
    batch.validate request.requiredCameraIds mono8Png (checkImageFile sdk s.files) = .ok () := by
  obtain ⟨hcaptured, -, -⟩ := h
  have hnodup := station_cameras_nodup hvalid.nodup hstation
  have himages : batch.images ≠ [] := by
    intro hnone
    have hcameras := hcaptured.cameras
    rw [hnone] at hcameras
    rcases hstation with h1 | h2
    · have hlength := hvalid.stationA
      rw [← h1, ← hcameras] at hlength
      cases hlength
    · have hlength := hvalid.stationB
      rw [← h2, ← hcameras] at hlength
      cases hlength
  have hvalidated : (batch.images.forM fun image =>
      image.validate mono8Png (checkImageFile sdk s.files)) = .ok () := by
    refine for_m_ok.mpr fun image hmem => ?_
    exact saved_image_valid hlaw hvalid (hcaptured.saved image hmem)
      (image_path_absolute hvalid request _ _) (hlost image hmem)
  have hsupported : mono8Png ∈ supportedCanonicalPixelFormats := List.mem_cons_self
  simp only [CaptureBatch.validate, checkCapture, htimed.monotonic.1, htimed.monotonic.2,
    htimed.wall.1, htimed.wall.2, hcaptured.cameras, hnodup, hcaptured.required, hsupported,
    himages, hvalidated, ne_eq, not_false_eq_true, decide_true, if_true, bind, Except.bind]

end

end InspectionLine.Mvs
