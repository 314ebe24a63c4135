import InspectionLine.ByteFrames
import Mathlib.Logic.Function.Iterate

/-! # The chunks of an image file

The chunk loop of `_validate_canonical_png`: what it reads, what it raises, and what a file is
made of that it runs through. -/
namespace InspectionLine

open ByteFrames

inductive PngErrorKind where
  | valueError | fileExistsError | structError | indexError
  deriving DecidableEq, Repr

structure PngError where
  kind : PngErrorKind
  text : String
  deriving DecidableEq, Repr

def pngError (text : String) : PngError := { kind := .valueError, text }

def checkPng (holds : Bool) (text : String) : Except PngError Unit :=
  if holds then .ok () else .error (pngError text)

/-! ### The checksum -/

/-- One shift of the reflected register. -/
def crc32Shift (c : BitVec 32) : BitVec 32 :=
  if c.getLsbD 0 then c >>> 1 ^^^ 0xEDB88320#32 else c >>> 1

def crc32 (bytes : Bytes) : ℕ :=
  let register := bytes.foldl
    (fun c byte => crc32Shift^[8] (c ^^^ byte.toBitVec.setWidth 32)) 0xFFFFFFFF#32
  (register ^^^ 0xFFFFFFFF#32).toNat

theorem crc32_lt (bytes : Bytes) : crc32 bytes < 2 ^ 32 := BitVec.isLt _

/-- The checksum that ends every file. -/
example : crc32 [0x49, 0x45, 0x4E, 0x44] = 0xAE426082 := by decide +kernel

/-! ### Reading -/

abbrev Reader := Bytes → ℕ → ℕ → Except PngError Bytes

/-- A slice that reaches beyond the end is cut short. -/
def pythonSlice : Reader := fun content start stop => .ok (slice content start stop)

/-- A reader that refuses to reach beyond the end. -/
def boundedSlice : Reader := fun content start stop =>
  if start ≤ stop ∧ stop ≤ content.length then .ok (slice content start stop)
  else .error { kind := .indexError, text := "slice outside the content" }

/-- `struct.unpack(">I", …)`. -/
def unpackU32 (bytes : Bytes) : Except PngError ℕ :=
  if bytes.length = 4 then .ok (fromBigEndian bytes)
  else .error { kind := .structError, text := "unpack requires a buffer of 4 bytes" }

def readChunk (read : Reader) (content : Bytes) (offset : ℕ) : Except PngError (ℕ × Chunk) := do
  let length ← unpackU32 (← read content offset (offset + 4))
  let chunkType ← read content (offset + 4) (offset + 8)
  let dataEnd := offset + 8 + length
  checkPng (dataEnd + 4 ≤ content.length) "PNG chunk exceeds file boundary"
  let chunkData ← read content (offset + 8) dataEnd
  let expectedCrc ← unpackU32 (← read content dataEnd (dataEnd + 4))
  checkPng (crc32 (chunkType ++ chunkData) = expectedCrc) "PNG chunk CRC mismatch"
  return (length, { kind := chunkType, data := chunkData })

def ihdrType : Bytes := [0x49, 0x48, 0x44, 0x52]

def idatType : Bytes := [0x49, 0x44, 0x41, 0x54]

def iendType : Bytes := [0x49, 0x45, 0x4E, 0x44]

structure Ihdr where
  width : ℕ
  height : ℕ
  bitDepth : UInt8
  colorType : UInt8
  compression : UInt8
  filtering : UInt8
  interlace : UInt8
  deriving DecidableEq, Repr

/-- `struct.pack(">IIBBBBB", …)`. -/
def Ihdr.pack (ihdr : Ihdr) : Bytes :=
  bigEndian ihdr.width ++ (bigEndian ihdr.height ++
    [ihdr.bitDepth, ihdr.colorType, ihdr.compression, ihdr.filtering, ihdr.interlace])

/-- `struct.unpack(">IIBBBBB", …)`. -/
def unpackIhdr (bytes : Bytes) : Except PngError Ihdr :=
  match bytes.drop 8 with
  | [bitDepth, colorType, compression, filtering, interlace] => .ok {
      width := fromBigEndian (slice bytes 0 4), height := fromBigEndian (slice bytes 4 8)
      bitDepth, colorType, compression, filtering, interlace }
  | _ => .error { kind := .structError, text := "unpack requires a buffer of 13 bytes" }

structure PngScan where
  ihdr : Option Ihdr := none
  compressed : Bytes := []
  sawIend : Bool := false
  deriving DecidableEq, Repr

def PngScan.accept (scan : PngScan) (length : ℕ) (c : Chunk) : Except PngError PngScan :=
  if c.kind = ihdrType then do
    checkPng (length = 13 && scan.ihdr.isNone) "PNG IHDR is invalid"
    let ihdr ← unpackIhdr c.data
    checkPng (ihdr.compression = 0 && ihdr.filtering = 0)
      "unsupported PNG compression/filter method"
    return { scan with ihdr := some ihdr }
  else if c.kind = idatType then
    .ok { scan with compressed := scan.compressed ++ c.data }
  else if c.kind = iendType then do
    checkPng (length = 0) "PNG IEND is invalid"
    return { scan with sawIend := true }
  else .ok scan

/-- The offset at which the loop ends, and its variables there. -/
def chunkLoop (read : Reader) (content : Bytes) (offset : ℕ) (scan : PngScan) :
    Except PngError (ℕ × PngScan) :=
  if offset + 12 ≤ content.length then
    match readChunk read content offset with
    | .error e => .error e
    | .ok (length, c) =>
      match scan.accept length c with
      | .error e => .error e
      | .ok scan =>
        if scan.sawIend then .ok (offset + 8 + length + 4, scan)
        else chunkLoop read content (offset + 8 + length + 4) scan
  else .ok (offset, scan)
termination_by content.length - offset

/-! ### No read goes outside -/

/-- Inside the content a reader gives the slice. -/
def ReadsWithin (read : Reader) : Prop := ∀ content start stop,
  start ≤ stop → stop ≤ content.length → read content start stop = .ok (slice content start stop)

theorem python_slice_within : ReadsWithin pythonSlice := fun _ _ _ _ _ => rfl

theorem bounded_slice_within : ReadsWithin boundedSlice := fun _ _ _ h k => if_pos ⟨h, k⟩

theorem unpack_u32_slice {content : Bytes} {start : ℕ} (h : start + 4 ≤ content.length) :
    unpackU32 (slice content start (start + 4)) =
      .ok (fromBigEndian (slice content start (start + 4))) :=
  if_pos (by rw [length_slice h]; omega)

/-- A chunk without the readers and their errors. -/
def chunkAt (content : Bytes) (offset : ℕ) : Except PngError (ℕ × Chunk) := do
  let length := fromBigEndian (slice content offset (offset + 4))
  let dataEnd := offset + 8 + length
  let c : Chunk := {
    kind := slice content (offset + 4) (offset + 8)
    data := slice content (offset + 8) dataEnd }
  checkPng (dataEnd + 4 ≤ content.length) "PNG chunk exceeds file boundary"
  checkPng (crc32 (c.kind ++ c.data) = fromBigEndian (slice content dataEnd (dataEnd + 4)))
    "PNG chunk CRC mismatch"
  return (length, c)

theorem read_chunk_eq {read : Reader} (hread : ReadsWithin read) {content : Bytes} {offset : ℕ}
    (h : offset + 12 ≤ content.length) :
    readChunk read content offset = chunkAt content offset := by
  unfold readChunk chunkAt
  rw [hread content offset _ (by omega) (by omega),
    hread content (offset + 4) _ (by omega) (by omega)]
  simp only [bind, Except.bind]
  rw [unpack_u32_slice (by omega)]
  by_cases hfits : offset + 8 + fromBigEndian (slice content offset (offset + 4)) + 4 ≤
      content.length
  · simp only [checkPng, hfits, decide_true, if_true]
    rw [hread content (offset + 8) _ (by omega) (by omega), hread content _ _ (by omega) hfits]
    simp only
    rw [unpack_u32_slice hfits]
  · simp only [checkPng, hfits, decide_false, Bool.false_eq_true, if_false]

theorem chunk_loop_step {read : Reader} (hread : ReadsWithin read) (content : Bytes) (offset : ℕ)
    (scan : PngScan) :
    chunkLoop read content offset scan =
      if offset + 12 ≤ content.length then do
        let (length, c) ← chunkAt content offset
        let scan ← scan.accept length c
        if scan.sawIend then return (offset + 8 + length + 4, scan)
        else chunkLoop read content (offset + 8 + length + 4) scan
      else .ok (offset, scan) := by
  rw [chunkLoop]
  by_cases h : offset + 12 ≤ content.length
  · rw [if_pos h, if_pos h, read_chunk_eq hread h]
    cases chunkAt content offset with
    | error e => rfl
    | ok read =>
      simp only [bind, Except.bind]
      cases scan.accept read.1 read.2 with
      | error e => rfl
      | ok scan => rfl
  · rw [if_neg h, if_neg h]

theorem chunk_loop_bounded (content : Bytes) (offset : ℕ) (scan : PngScan) :
    chunkLoop boundedSlice content offset scan = chunkLoop pythonSlice content offset scan := by
  induction hn : content.length - offset using Nat.strongRecOn generalizing offset scan with
  | ind n ih =>
    rw [chunk_loop_step bounded_slice_within, chunk_loop_step python_slice_within]
    by_cases h : offset + 12 ≤ content.length
    · rw [if_pos h, if_pos h]
      cases chunkAt content offset with
      | error e => rfl
      | ok read =>
        simp only [bind, Except.bind]
        cases scan.accept read.1 read.2 with
        | error e => rfl
        | ok scan =>
          simp only
          rw [ih _ (by omega) (offset + 8 + read.1 + 4) scan rfl]
    · rw [if_neg h, if_neg h]

/-! ### What a chunk is -/

theorem check_png_ok {holds : Bool} {text : String} {u : Unit} (h : checkPng holds text = .ok u) :
    holds = true := by
  unfold checkPng at h
  split at h
  · assumption
  · cases h

theorem chunk_at_ok {content : Bytes} {offset length : ℕ} {c : Chunk}
    (h : chunkAt content offset = .ok (length, c)) :
    Framable c ∧ c.data.length = length ∧
      content.drop offset = frame crc32 c ++ content.drop (offset + 8 + length + 4) ∧
      offset + 8 + length + 4 ≤ content.length := by
  simp only [chunkAt, bind, Except.bind] at h
  split at h
  · cases h
  next u hfits =>
  split at h
  · cases h
  next v hcrc =>
  have hfits := of_decide_eq_true (check_png_ok hfits)
  have hcrc := of_decide_eq_true (check_png_ok hcrc)
  cases h
  obtain ⟨hc, hlength, hdrop⟩ := frame_of_slices crc32 rfl hfits hcrc.symm
  exact ⟨hc, hlength, hdrop, hfits⟩

theorem chunk_at_frame {content rest : Bytes} {offset : ℕ} {c : Chunk} (hc : Framable c)
    (h : content.drop offset = frame crc32 c ++ rest) :
    chunkAt content offset = .ok (c.data.length, c) := by
  obtain ⟨hlength, hkind, hdata, hcrc⟩ := slices_of_frame crc32 hc h
  have hfits := fits_of_frame crc32 hc h
  have hsize : fromBigEndian (slice content offset (offset + 4)) = c.data.length := by
    rw [hlength, from_big_endian_big_endian hc.data_length]
  unfold chunkAt
  rw [hsize]
  dsimp only
  rw [hkind, hdata, hcrc, from_big_endian_big_endian (crc32_lt _)]
  simp only [checkPng, hfits, decide_true, if_true]
  rfl

theorem unpack_ihdr_of_length {bytes : Bytes} (h : bytes.length = 13) :
    ∃ ihdr, unpackIhdr bytes = .ok ihdr ∧ ihdr.pack = bytes ∧
      ihdr.width < 2 ^ 32 ∧ ihdr.height < 2 ^ 32 := by
  have hdrop : (bytes.drop 8).length = 5 := by rw [List.length_drop, h]
  obtain ⟨a, rest, ha⟩ := List.exists_cons_of_length_eq_add_one hdrop
  have hrest : rest.length = 4 := by
    rw [ha, List.length_cons] at hdrop
    exact Nat.succ.inj hdrop
  obtain ⟨b, c, d, e, rfl⟩ := four_of_length hrest
  have hwidth : (slice bytes 0 4).length = 4 := length_slice (by omega)
  have hheight : (slice bytes 4 8).length = 4 := length_slice (by omega)
  refine ⟨_, by unfold unpackIhdr; rw [ha], ?_, from_big_endian_lt hwidth,
    from_big_endian_lt hheight⟩
  simp only [Ihdr.pack]
  rw [big_endian_from_big_endian hwidth, big_endian_from_big_endian hheight, ← ha,
    ← drop_eq_slice_append bytes (by omega), ← drop_eq_slice_append bytes (by omega),
    List.drop_zero]

theorem unpack_ihdr_pack {ihdr : Ihdr} (hw : ihdr.width < 2 ^ 32) (hh : ihdr.height < 2 ^ 32) :
    unpackIhdr ihdr.pack = .ok ihdr := by
  have hdrop : ihdr.pack.drop 8 =
      [ihdr.bitDepth, ihdr.colorType, ihdr.compression, ihdr.filtering, ihdr.interlace] := rfl
  have hwidth : slice ihdr.pack 0 4 = bigEndian ihdr.width := rfl
  have hheight : slice ihdr.pack 4 8 = bigEndian ihdr.height := rfl
  unfold unpackIhdr
  rw [hdrop, hwidth, hheight]
  simp only
  rw [from_big_endian_big_endian hw, from_big_endian_big_endian hh]

/-! ### The variables after some chunks -/

def ofKind (kind : Bytes) (chunks : List Chunk) : List Chunk :=
  chunks.filter fun c => c.kind = kind

theorem of_kind_concat_self {kind : Bytes} {c : Chunk} (h : c.kind = kind) (chunks : List Chunk) :
    ofKind kind (chunks ++ [c]) = ofKind kind chunks ++ [c] := by
  simp only [ofKind, List.filter_append, List.filter_cons, h, decide_true, if_true,
    List.filter_nil]

theorem of_kind_concat_of_ne {kind : Bytes} {c : Chunk} (h : c.kind ≠ kind) (chunks : List Chunk) :
    ofKind kind (chunks ++ [c]) = ofKind kind chunks := by
  simp only [ofKind, List.filter_append, List.filter_cons, h, decide_false, Bool.false_eq_true,
    if_false, List.filter_nil, List.append_nil]

structure Scanned (chunks : List Chunk) (scan : PngScan) : Prop where
  framable : ∀ c ∈ chunks, Framable c
  headers : (ofKind ihdrType chunks).map (·.data) = scan.ihdr.toList.map Ihdr.pack
  methods : ∀ ihdr, scan.ihdr = some ihdr →
    ihdr.compression = 0 ∧ ihdr.filtering = 0 ∧ ihdr.width < 2 ^ 32 ∧ ihdr.height < 2 ^ 32
  compressed : scan.compressed = (ofKind idatType chunks).flatMap (·.data)

theorem scanned_nil : Scanned [] {} where
  framable := fun _ h => absurd h List.not_mem_nil
  headers := rfl
  methods := fun _ h => nomatch h
  compressed := rfl

/-- One more chunk; the loop goes on unless it is an IEND, which is empty. -/
theorem scanned_concat {chunks : List Chunk} {scan scan' : PngScan} {c : Chunk}
    (hs : Scanned chunks scan) (hsaw : scan.sawIend = false) (hc : Framable c)
    (h : scan.accept c.data.length c = .ok scan') :
    Scanned (chunks ++ [c]) scan' ∧
      (scan'.sawIend = true → c = ⟨iendType, []⟩) ∧
      (scan'.sawIend = false → c.kind ≠ iendType) := by
  have hframable : ∀ b ∈ chunks ++ [c], Framable b := by
    intro b hb
    rcases List.mem_append.mp hb with hb | hb
    · exact hs.framable b hb
    · exact List.mem_singleton.mp hb ▸ hc
  unfold PngScan.accept at h
  by_cases hihdr : c.kind = ihdrType
  · -- the only chunk that fills the header, which was empty
    rw [if_pos hihdr] at h
    simp only [bind, Except.bind] at h
    split at h
    · cases h
    next u hvalid =>
    obtain ⟨hlength, hnone⟩ := (Bool.and_eq_true _ _).mp (check_png_ok hvalid)
    obtain ⟨ihdr, hunpack, hpack, hwidth, hheight⟩ :=
      unpack_ihdr_of_length (of_decide_eq_true hlength)
    rw [hunpack] at h
    simp only at h
    split at h
    · cases h
    next v hmethods =>
    obtain ⟨hcompression, hfiltering⟩ := (Bool.and_eq_true _ _).mp (check_png_ok hmethods)
    cases h
    have hidat : c.kind ≠ idatType := by
      rw [hihdr]
      decide
    refine ⟨⟨hframable, ?_, ?_, ?_⟩, fun h => ?_, fun _ => by rw [hihdr]; decide⟩
    · have hempty : scan.ihdr = none := Option.isNone_iff_eq_none.mp hnone
      rw [of_kind_concat_self hihdr, List.map_append, hs.headers, hempty, List.map_singleton,
        ← hpack]
      rfl
    · rintro i hi
      cases hi
      exact ⟨of_decide_eq_true hcompression, of_decide_eq_true hfiltering, hwidth, hheight⟩
    · rw [of_kind_concat_of_ne hidat]
      exact hs.compressed
    · rw [hsaw] at h
      cases h
  rw [if_neg hihdr] at h
  have hheaders : (ofKind ihdrType (chunks ++ [c])).map (·.data) =
      scan.ihdr.toList.map Ihdr.pack := by
    rw [of_kind_concat_of_ne hihdr]
    exact hs.headers
  by_cases hidat : c.kind = idatType
  · rw [if_pos hidat] at h
    cases h
    refine ⟨⟨hframable, hheaders, hs.methods, ?_⟩, fun h => ?_, fun _ => by rw [hidat]; decide⟩
    · rw [of_kind_concat_self hidat, List.flatMap_append, ← hs.compressed, List.flatMap_singleton]
    · rw [hsaw] at h
      cases h
  rw [if_neg hidat] at h
  have hcompressed : scan.compressed =
      (ofKind idatType (chunks ++ [c])).flatMap (·.data) := by
    rw [of_kind_concat_of_ne hidat]
    exact hs.compressed
  by_cases hiend : c.kind = iendType
  · rw [if_pos hiend] at h
    simp only [bind, Except.bind] at h
    split at h
    · cases h
    next u hempty =>
    cases h
    have hdata : c.data = [] := List.length_eq_zero_iff.mp (of_decide_eq_true (check_png_ok hempty))
    refine ⟨⟨hframable, hheaders, hs.methods, hcompressed⟩, fun _ => ?_, fun h => by cases h⟩
    rw [← hiend, ← hdata]
  · rw [if_neg hiend] at h
    cases h
    refine ⟨⟨hframable, hheaders, hs.methods, hcompressed⟩, fun h => ?_, fun _ => hiend⟩
    rw [hsaw] at h
    cases h

/-! ### The run of the loop -/

/-- The content up to an offset is a run of frames, none of them an IEND. -/
structure Framed (content : Bytes) (offset : ℕ) (chunks : List Chunk) (scan : PngScan) :
    Prop where
  scanned : Scanned chunks scan
  content_eq : content.drop 8 = chunks.flatMap (frame crc32) ++ content.drop offset
  open_end : scan.sawIend = false ∧ ∀ c ∈ chunks, c.kind ≠ iendType

/-- Where the loop ends: behind an empty IEND that follows other chunks, or in the open. -/
def Ended (content : Bytes) (stop : ℕ) (scan : PngScan) : Prop :=
  scan.sawIend = true →
    ∃ front, Scanned (front ++ [⟨iendType, []⟩]) scan ∧ (∀ c ∈ front, c.kind ≠ iendType) ∧
      content.drop 8 = (front ++ [⟨iendType, []⟩]).flatMap (frame crc32) ++ content.drop stop

theorem chunk_loop_ended {content : Bytes} {offset stop : ℕ} {scan scan' : PngScan}
    {chunks : List Chunk} (hf : Framed content offset chunks scan)
    (h : chunkLoop pythonSlice content offset scan = .ok (stop, scan')) :
    Ended content stop scan' := by
  induction hn : content.length - offset using Nat.strongRecOn generalizing offset scan chunks with
  | ind n ih =>
    obtain ⟨hs, hcontent, hsaw, hkinds⟩ := hf
    rw [chunk_loop_step python_slice_within] at h
    by_cases hmore : offset + 12 ≤ content.length
    · rw [if_pos hmore] at h
      simp only [bind, Except.bind] at h
      split at h
      · cases h
      next read hread =>
      obtain ⟨length, c⟩ := read
      obtain ⟨hc, hlength, hdrop, hfits⟩ := chunk_at_ok hread
      simp only at h
      split at h
      · cases h
      next scan₁ haccept =>
      rw [← hlength] at haccept
      obtain ⟨hs₁, hend, hopen⟩ := scanned_concat hs hsaw hc haccept
      have hcontent₁ : content.drop 8 =
          (chunks ++ [c]).flatMap (frame crc32) ++ content.drop (offset + 8 + length + 4) := by
        rw [hcontent, hdrop, List.flatMap_append, List.flatMap_singleton, List.append_assoc]
      by_cases hiend : scan₁.sawIend = true
      · rw [if_pos hiend] at h
        cases h
        intro _
        rw [← hend hiend]
        exact ⟨chunks, hs₁, hkinds, hcontent₁⟩
      · have hstill : scan₁.sawIend = false := Bool.eq_false_iff.mpr hiend
        rw [if_neg hiend] at h
        refine ih _ (by omega) ⟨hs₁, hcontent₁, hstill, ?_⟩ h rfl
        intro b hb
        rcases List.mem_append.mp hb with hb | hb
        · exact hkinds b hb
        · exact List.mem_singleton.mp hb ▸ hopen hstill
    · rw [if_neg hmore] at h
      cases h
      intro hiend
      rw [hsaw] at hiend
      cases hiend

theorem chunk_loop_frame {content rest : Bytes} {offset : ℕ} {scan scan' : PngScan} {c : Chunk}
    (hc : Framable c) (h : content.drop offset = frame crc32 c ++ rest)
    (haccept : scan.accept c.data.length c = .ok scan') :
    chunkLoop pythonSlice content offset scan =
        (if scan'.sawIend then .ok (offset + 8 + c.data.length + 4, scan')
        else chunkLoop pythonSlice content (offset + 8 + c.data.length + 4) scan') ∧
      content.drop (offset + 8 + c.data.length + 4) = rest := by
  have hfits := fits_of_frame crc32 hc h
  refine ⟨?_, drop_after_frame crc32 hc h⟩
  rw [chunk_loop_step python_slice_within, if_pos (by omega), chunk_at_frame hc h]
  simp only [bind, Except.bind]
  rw [haccept]
  rfl

/-! ### What is raised -/

def RaisesOnlyValueError {α : Type} (outcome : Except PngError α) : Prop :=
  ∀ e, outcome = .error e → e.kind = .valueError

theorem raises_ok {α : Type} (a : α) : RaisesOnlyValueError (.ok a : Except PngError α) :=
  fun _ h => by cases h

theorem raises_check (holds : Bool) (text : String) :
    RaisesOnlyValueError (checkPng holds text) := by
  intro e h
  unfold checkPng at h
  split at h
  · cases h
  · cases h
    rfl

theorem raises_bind {α β : Type} {x : Except PngError α} {f : α → Except PngError β}
    (hx : RaisesOnlyValueError x) (hf : ∀ a, x = .ok a → RaisesOnlyValueError (f a)) :
    RaisesOnlyValueError (x >>= f) := by
  cases x with
  | error e =>
    intro e' h
    cases h
    exact hx e rfl
  | ok a => exact hf a rfl

theorem chunk_at_raises (content : Bytes) (offset : ℕ) :
    RaisesOnlyValueError (chunkAt content offset) :=
  raises_bind (raises_check _ _) fun _ _ => raises_bind (raises_check _ _) fun _ _ => raises_ok _

theorem accept_raises (scan : PngScan) (c : Chunk) :
    RaisesOnlyValueError (scan.accept c.data.length c) := by
  unfold PngScan.accept
  split
  · refine raises_bind (raises_check _ _) fun u hvalid => ?_
    obtain ⟨hlength, -⟩ := (Bool.and_eq_true _ _).mp (check_png_ok hvalid)
    obtain ⟨ihdr, hunpack, -⟩ := unpack_ihdr_of_length (of_decide_eq_true hlength)
    rw [hunpack]
    exact raises_bind (raises_ok _) fun _ _ => raises_bind (raises_check _ _) fun _ _ => raises_ok _
  · split
    · exact raises_ok _
    · split
      · exact raises_bind (raises_check _ _) fun _ _ => raises_ok _
      · exact raises_ok _

theorem chunk_loop_raises (content : Bytes) (offset : ℕ) (scan : PngScan) :
    RaisesOnlyValueError (chunkLoop pythonSlice content offset scan) := by
  induction hn : content.length - offset using Nat.strongRecOn generalizing offset scan with
  | ind n ih =>
    rw [chunk_loop_step python_slice_within]
    split
    · refine raises_bind (chunk_at_raises content offset) fun read hread => ?_
      obtain ⟨length, c⟩ := read
      obtain ⟨-, hlength, -, hfits⟩ := chunk_at_ok hread
      refine raises_bind (hlength ▸ accept_raises scan c) fun scan₁ _ => ?_
      split
      · exact raises_ok _
      · exact ih _ (by omega) _ _ rfl
    · exact raises_ok _

end InspectionLine
