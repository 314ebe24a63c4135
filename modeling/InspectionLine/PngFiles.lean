import InspectionLine.PngChunks
import Mathlib.Data.Int.Notation
import Mathlib.Data.List.Basic
import Mathlib.Tactic.Ring

/-! # Canonical image files

What `write_mono8_png_atomic` writes and what `_validate_canonical_png` accepts. The compression
is that of another library. -/
namespace InspectionLine

open ByteFrames

structure Zlib where
  compress : ℤ → Bytes → Bytes
  /-- `none` stands for `zlib.error`. -/
  decompress : Bytes → Option Bytes

/-- Decompression undoes compression at any of its levels. -/
structure LawfulZlib (zlib : Zlib) : Prop where
  decompress_compress : ∀ level data, 0 ≤ level → level ≤ 9 →
    zlib.decompress (zlib.compress level data) = some data

def pngSignature : Bytes := [0x89, 0x50, 0x4E, 0x47, 0x0D, 0x0A, 0x1A, 0x0A]

def mono8Png : String := "MONO8_PNG"

/-! ### Writing -/

/-- Assignment to a slice. -/
def assignSlice (lines : Bytes) (start stop : ℕ) (new : Bytes) : Bytes :=
  lines.take start ++ new ++ lines.drop stop

def writeRow (pixels : Bytes) (width : ℕ) (lines : Bytes) (row : ℕ) : Bytes :=
  let destination := row * (width + 1)
  let source := row * width
  assignSlice (lines.set destination 0) (destination + 1) (destination + 1 + width)
    (slice pixels source (source + width))

/-- The rows of the image, each behind its filter type. -/
def scanlines (pixels : Bytes) (width height : ℕ) : Bytes :=
  (List.range height).foldl (writeRow pixels width) (List.replicate ((width + 1) * height) 0)

/-- `struct.pack(">I", …)`. -/
def packU32 (n : ℕ) : Except PngError Bytes :=
  if n < 2 ^ 32 then .ok (bigEndian n)
  else .error { kind := .structError, text := "argument out of range" }

def pngChunk (chunkType data : Bytes) : Except PngError Bytes := do
  return (← packU32 data.length) ++ (chunkType ++ (data ++
    (← packU32 (crc32 (chunkType ++ data)))))

def packIhdr (ihdr : Ihdr) : Except PngError Bytes := do
  return (← packU32 ihdr.width) ++ ((← packU32 ihdr.height) ++
    [ihdr.bitDepth, ihdr.colorType, ihdr.compression, ihdr.filtering, ihdr.interlace])

def mono8Ihdr (width height : ℤ) : Ihdr where
  width := width.toNat
  height := height.toNat
  bitDepth := 8
  colorType := 0
  compression := 0
  filtering := 0
  interlace := 0

/-- The content that takes the place of `path`. -/
def writeMono8PngAtomic (zlib : Zlib) (path : String) (pathExists : Bool) (pixels : Bytes)
    (width height compressionLevel : ℤ) : Except PngError Bytes := do
  checkPng (1 ≤ width && 1 ≤ height && (pixels.length : ℤ) = width * height)
    "Mono8 buffer length does not match image dimensions"
  checkPng (0 ≤ compressionLevel && compressionLevel ≤ 9)
    "PNG compression level must be between 0 and 9"
  if pathExists then
    throw { kind := .fileExistsError, text := "refusing to overwrite completed image: " ++ path }
  let compressed :=
    zlib.compress compressionLevel (scanlines pixels width.toNat height.toNat)
  let ihdr ← packIhdr (mono8Ihdr width height)
  return pngSignature ++ ((← pngChunk ihdrType ihdr) ++
    ((← pngChunk idatType compressed) ++ (← pngChunk iendType [])))

/-! ### Validation -/

/-- An index counts from the end if it is negative. -/
def pyIndex (bytes : Bytes) (index : ℤ) : Except PngError UInt8 :=
  let place := if index < 0 then index + bytes.length else index
  if 0 ≤ place then
    match bytes[place.toNat]? with
    | some byte => .ok byte
    | none => .error { kind := .indexError, text := "index out of range" }
  else .error { kind := .indexError, text := "index out of range" }

/-- Whether one of the rows has a filter type that does not exist. -/
def anyFilterAbove (lines : Bytes) (stride : ℤ) : List ℕ → Except PngError Bool
  | [] => .ok false
  | row :: rows => do
    if 4 < (← pyIndex lines (row * stride)) then return true
    else anyFilterAbove lines stride rows

def expectedColorType (pixelFormat : String) : UInt8 := if pixelFormat = mono8Png then 0 else 2

def channels (pixelFormat : String) : ℤ := if pixelFormat = mono8Png then 1 else 3

/-- The decompressed image data. -/
def validateScanlines (lines : Bytes) (expectedWidth expectedHeight : ℤ) (pixelFormat : String) :
    Except PngError Unit := do
  let stride := 1 + expectedWidth * channels pixelFormat
  checkPng ((lines.length : ℤ) = expectedHeight * stride) "PNG scanline length is invalid"
  let above ← anyFilterAbove lines stride (List.range expectedHeight.toNat)
  checkPng (!above) "PNG scanline uses an invalid filter type"

def validateCanonicalPng (zlib : Zlib) (read : Reader) (content : Bytes)
    (expectedWidth expectedHeight : ℤ) (pixelFormat : String) : Except PngError Unit := do
  checkPng (pngSignature.isPrefixOf content) "image file is not a PNG container"
  let (offset, scan) ← chunkLoop read content 8 {}
  checkPng (scan.sawIend && offset = content.length) "PNG does not end with a valid IEND chunk"
  checkPng (scan.ihdr.any fun ihdr =>
      ihdr.width = expectedWidth && ihdr.height = expectedHeight)
    "PNG dimensions do not match metadata"
  checkPng (scan.ihdr.any fun ihdr => ihdr.bitDepth = 8 &&
      ihdr.colorType = expectedColorType pixelFormat && ihdr.interlace = 0)
    "canonical PNG color type does not match declared pixel format"
  match zlib.decompress scan.compressed with
  | none => .error (pngError "PNG image data cannot be decompressed")
  | some lines => validateScanlines lines expectedWidth expectedHeight pixelFormat

/-! ### The validator is total and sound -/

def declaredIhdr (width height : ℤ) (pixelFormat : String) : Ihdr :=
  { mono8Ihdr width height with colorType := expectedColorType pixelFormat }

/-- A content that is the signature and framed chunks, up to one empty IEND, with the declared
header and image data of the declared size. -/
structure WellFormedPng (zlib : Zlib) (content : Bytes) (width height : ℤ) (pixelFormat : String)
    (front : List Chunk) (lines : Bytes) : Prop where
  content_eq : content = pngSignature ++ (front ++ [Chunk.mk iendType []]).flatMap (frame crc32)
  framable : ∀ c ∈ front, Framable c
  one_end : ∀ c ∈ front, c.kind ≠ iendType
  dimensions : 0 ≤ width ∧ width < 2 ^ 32 ∧ 0 ≤ height ∧ height < 2 ^ 32
  one_header : ofKind ihdrType front =
    [{ kind := ihdrType, data := (declaredIhdr width height pixelFormat).pack }]
  inflated : zlib.decompress ((ofKind idatType front).flatMap (·.data)) = some lines
  length_eq : (lines.length : ℤ) = height * (1 + width * channels pixelFormat)
  filters : ∀ row : ℕ, row < height →
    ∃ byte, lines[row * (1 + width * channels pixelFormat).toNat]? = some byte ∧ byte ≤ 4

theorem py_index_ok {bytes : Bytes} {n : ℕ} (h : n < bytes.length) :
    pyIndex bytes n = .ok bytes[n] := by
  unfold pyIndex
  rw [if_neg (show ¬ (n : ℤ) < 0 by omega)]
  dsimp only
  rw [if_pos (show 0 ≤ (n : ℤ) by omega), Int.toNat_natCast, List.getElem?_eq_getElem h]

/-- Where every row has a filter type, the search raises nothing. -/
theorem any_filter_above_ok (lines : Bytes) (stride : ℕ) (rows : List ℕ)
    (h : ∀ row ∈ rows, row * stride < lines.length) :
    ∃ above, anyFilterAbove lines stride rows = .ok above ∧
      (above = false ↔ ∀ row ∈ rows, ∃ byte, lines[row * stride]? = some byte ∧ byte ≤ 4) := by
  induction rows with
  | nil => exact ⟨false, rfl, fun _ _ hmem => absurd hmem List.not_mem_nil, fun _ => rfl⟩
  | cons row rows ih =>
    have hrow := h row List.mem_cons_self
    obtain ⟨above, habove, hiff⟩ := ih fun r hr => h r (List.mem_cons_of_mem _ hr)
    have hfirst : (∃ byte, lines[row * stride]? = some byte ∧ byte ≤ 4) ↔
        ¬ 4 < lines[row * stride] := by
      rw [List.getElem?_eq_getElem hrow, UInt8.not_lt]
      simp
    rw [anyFilterAbove, ← Nat.cast_mul, py_index_ok hrow]
    simp only [bind, Except.bind]
    by_cases hbig : 4 < lines[row * stride]
    · rw [if_pos hbig]
      refine ⟨true, rfl, nofun, fun hall => ?_⟩
      exact absurd hbig (hfirst.mp (hall row List.mem_cons_self))
    · rw [if_neg hbig]
      refine ⟨above, habove, ?_⟩
      rw [hiff, List.forall_mem_cons]
      exact (and_iff_right (hfirst.mpr hbig)).symm

theorem channels_nonneg (pixelFormat : String) : 0 ≤ channels pixelFormat := by
  unfold channels
  split <;> decide

/-- The row check, once the dimensions are those of a header. -/
theorem validate_scanlines_iff (lines : Bytes) (pixelFormat : String) {width height : ℤ}
    (hwidth : 0 ≤ width) (hheight : 0 ≤ height) :
    RaisesOnlyValueError (validateScanlines lines width height pixelFormat) ∧
      (validateScanlines lines width height pixelFormat = .ok () ↔
        (lines.length : ℤ) = height * (1 + width * channels pixelFormat) ∧
          ∀ row : ℕ, row < height → ∃ byte,
            lines[row * (1 + width * channels pixelFormat).toNat]? = some byte ∧ byte ≤ 4) := by
  have hstride : 0 < 1 + width * channels pixelFormat := by
    have := Int.mul_nonneg hwidth (channels_nonneg pixelFormat)
    omega
  unfold validateScanlines
  generalize 1 + width * channels pixelFormat = stride at hstride ⊢
  obtain ⟨s, rfl⟩ := Int.eq_ofNat_of_zero_le hstride.le
  obtain ⟨n, rfl⟩ := Int.eq_ofNat_of_zero_le hheight
  simp only [Int.toNat_natCast]
  by_cases hlength : (lines.length : ℤ) = (n : ℤ) * (s : ℤ)
  · have hbound : ∀ row ∈ List.range n, row * s < lines.length := by
      intro row hrow
      rw [Int.ofNat_inj.mp (hlength.trans (Int.natCast_mul n s).symm)]
      exact Nat.mul_lt_mul_of_pos_right (List.mem_range.mp hrow) (by omega)
    obtain ⟨above, habove, hiff⟩ := any_filter_above_ok lines s _ hbound
    have hrows : (∀ row : ℕ, (row : ℤ) < n → ∃ byte, lines[row * s]? = some byte ∧ byte ≤ 4) ↔
        above = false := by
      rw [hiff]
      exact forall_congr' fun row => by rw [List.mem_range, Int.ofNat_lt]
    rw [habove, hrows]
    simp only [hlength, decide_true, bind, Except.bind, checkPng, if_true, true_and]
    cases above with
    | false => exact ⟨raises_ok _, fun _ => rfl, fun _ => rfl⟩
    | true =>
      refine ⟨raises_check false _, fun h => ?_, fun h => ?_⟩
      · simp at h
      · cases h
  · simp only [hlength, decide_false, bind, Except.bind, checkPng, Bool.false_eq_true, if_false,
      false_and, iff_false]
    refine ⟨raises_check false _, fun h => ?_⟩
    simp at h

theorem validate_bounded (zlib : Zlib) (content : Bytes) (width height : ℤ)
    (pixelFormat : String) :
    validateCanonicalPng zlib boundedSlice content width height pixelFormat =
      validateCanonicalPng zlib pythonSlice content width height pixelFormat := by
  unfold validateCanonicalPng
  rw [chunk_loop_bounded]

theorem dimensions_of_any {ihdr : Option Ihdr} {width height : ℤ}
    (h : (ihdr.any fun ihdr => ihdr.width = width && ihdr.height = height) = true) :
    ∃ i, ihdr = some i ∧ (i.width : ℤ) = width ∧ (i.height : ℤ) = height := by
  cases ihdr with
  | none => cases h
  | some i =>
    obtain ⟨hw, hh⟩ := (Bool.and_eq_true _ _).mp h
    exact ⟨i, rfl, of_decide_eq_true hw, of_decide_eq_true hh⟩

theorem validate_raises (zlib : Zlib) (content : Bytes) (width height : ℤ)
    (pixelFormat : String) :
    RaisesOnlyValueError
      (validateCanonicalPng zlib pythonSlice content width height pixelFormat) := by
  refine raises_bind (raises_check _ _) fun _ _ => ?_
  refine raises_bind (chunk_loop_raises _ _ _) fun loop _ => ?_
  obtain ⟨offset, scan⟩ := loop
  refine raises_bind (raises_check _ _) fun _ _ => ?_
  refine raises_bind (raises_check _ _) fun _ hdims => ?_
  refine raises_bind (raises_check _ _) fun _ _ => ?_
  obtain ⟨ihdr, -, hwidth, hheight⟩ := dimensions_of_any (check_png_ok hdims)
  split
  · exact raises_check false _
  · exact (validate_scanlines_iff _ _ (by omega) (by omega)).1

theorem chunk_loop_sound {content : Bytes} {stop : ℕ} {scan : PngScan}
    (h : chunkLoop pythonSlice content 8 {} = .ok (stop, scan)) : Ended content stop scan :=
  chunk_loop_ended ⟨scanned_nil, (List.nil_append _).symm, rfl,
    fun _ h => absurd h List.not_mem_nil⟩ h

theorem validate_sound {zlib : Zlib} {content : Bytes} {width height : ℤ} {pixelFormat : String}
    (h : validateCanonicalPng zlib pythonSlice content width height pixelFormat = .ok ()) :
    ∃ front lines, WellFormedPng zlib content width height pixelFormat front lines := by
  simp only [validateCanonicalPng, bind, Except.bind] at h
  split at h
  · cases h
  next _ hsignature =>
  split at h
  · cases h
  next loop hloop =>
  obtain ⟨stop, scan⟩ := loop
  simp only at h
  split at h
  · cases h
  next _ hend =>
  split at h
  · cases h
  next _ hdims =>
  split at h
  · cases h
  next _ hformat =>
  obtain ⟨tail, htail⟩ := List.isPrefixOf_iff_prefix.mp (check_png_ok hsignature)
  obtain ⟨hiend, hstop⟩ := (Bool.and_eq_true _ _).mp (check_png_ok hend)
  obtain ⟨front, hscanned, hkinds, hcontent⟩ := chunk_loop_sound hloop hiend
  obtain ⟨ihdr, hihdr, hwidth, hheight⟩ := dimensions_of_any (check_png_ok hdims)
  obtain ⟨hcompression, hfiltering, hwidth', hheight'⟩ := hscanned.methods ihdr hihdr
  have hfront : ∀ c ∈ front, Framable c := fun c hc =>
    hscanned.framable c (List.mem_append_left _ hc)
  have hwide : (0 ≤ width ∧ width < 2 ^ 32) ∧ 0 ≤ height ∧ height < 2 ^ 32 := by omega
  -- the header is the declared one
  have hdeclared : ihdr = declaredIhdr width height pixelFormat := by
    have hrest := check_png_ok hformat
    rw [hihdr, Option.any_some] at hrest
    obtain ⟨hfields, hinterlace⟩ := (Bool.and_eq_true _ _).mp hrest
    obtain ⟨hdepth, hcolor⟩ := (Bool.and_eq_true _ _).mp hfields
    obtain ⟨w, h, depth, color, compression, filtering, interlace⟩ := ihdr
    simp only [decide_eq_true_eq] at hdepth hcolor hinterlace hcompression hfiltering hwidth hheight
    subst hdepth hcolor hinterlace hcompression hfiltering hwidth hheight
    rfl
  have hheaders := hscanned.headers
  rw [of_kind_concat_of_ne (show iendType ≠ ihdrType by decide), hihdr, hdeclared] at hheaders
  have hcompressed := hscanned.compressed
  rw [of_kind_concat_of_ne (show iendType ≠ idatType by decide)] at hcompressed
  cases hinflate : zlib.decompress scan.compressed with
  | none =>
    rw [hinflate] at h
    cases h
  | some lines =>
    rw [hinflate] at h
    obtain ⟨hlength, hfilters⟩ :=
      (validate_scanlines_iff lines pixelFormat hwide.1.1 hwide.2.1).2.mp h
    refine ⟨front, lines, ?_, hfront, hkinds, ⟨hwide.1.1, hwide.1.2, hwide.2⟩, ?_,
      hcompressed ▸ hinflate, hlength, hfilters⟩
    · have hdrop : content.drop 8 = tail := by
        rw [← htail]
        rfl
      rw [hdrop, of_decide_eq_true hstop, List.drop_length, List.append_nil] at hcontent
      rw [← htail, hcontent]
    · obtain ⟨c, hc, hdata⟩ := List.map_eq_singleton_iff.mp hheaders
      have hmem : c ∈ ofKind ihdrType front := hc ▸ List.mem_singleton_self c
      have hkind : c.kind = ihdrType := of_decide_eq_true (List.mem_filter.mp hmem).2
      rw [hc, ← hkind, ← hdata]

/-- Every content and every declaration: the validation reads only inside the content, it ends by
returning or by `ValueError`, and what it lets pass is well formed. -/
theorem validate_total_sound (zlib : Zlib) (content : Bytes) (width height : ℤ)
    (pixelFormat : String) :
    let outcome := validateCanonicalPng zlib pythonSlice content width height pixelFormat
    validateCanonicalPng zlib boundedSlice content width height pixelFormat = outcome ∧
      (outcome = .ok () ∨ ∃ e, outcome = .error e ∧ e.kind = .valueError) ∧
      (outcome = .ok () →
        ∃ front lines, WellFormedPng zlib content width height pixelFormat front lines) := by
  refine ⟨validate_bounded zlib content width height pixelFormat, ?_, validate_sound⟩
  have hraises := validate_raises zlib content width height pixelFormat
  cases h : validateCanonicalPng zlib pythonSlice content width height pixelFormat with
  | ok u => exact .inl rfl
  | error e => exact .inr ⟨e, rfl, hraises e h⟩

/-! ### Written images -/

theorem length_row {pixels : Bytes} {width height row : ℕ}
    (hpixels : pixels.length = width * height)
    (hrow : row < height) : (slice pixels (row * width) (row * width + width)).length = width := by
  have hfits : row * width + width ≤ pixels.length := by
    rw [hpixels, ← Nat.succ_mul, Nat.mul_comm width]
    exact Nat.mul_le_mul_right width hrow
  rw [length_slice hfits, Nat.add_sub_cancel_left]

def filteredRow (pixels : Bytes) (width row : ℕ) : Bytes :=
  0 :: slice pixels (row * width) (row * width + width)

theorem length_filtered_row {pixels : Bytes} {width height row : ℕ}
    (hpixels : pixels.length = width * height) (hrow : row < height) :
    (filteredRow pixels width row).length = width + 1 := by
  rw [filteredRow, List.length_cons, length_row hpixels hrow]

theorem length_blocks {f : ℕ → Bytes} {k n : ℕ} (h : ∀ row < n, (f row).length = k) :
    ((List.range n).flatMap f).length = n * k := by
  induction n with
  | zero => simp
  | succ n ih =>
    rw [List.range_succ, List.flatMap_append, List.length_append,
      ih fun row hrow => h row (by omega), List.flatMap_singleton, h n (Nat.lt_succ_self n),
      Nat.succ_mul]

theorem drop_blocks {f : ℕ → Bytes} {k n row : ℕ} (h : ∀ row < n, (f row).length = k)
    (hrow : row < n) :
    ∃ rest, ((List.range n).flatMap f).drop (row * k) = f row ++ rest := by
  induction n with
  | zero => exact absurd hrow (Nat.not_lt_zero row)
  | succ n ih =>
    have hn : ∀ row < n, (f row).length = k := fun row hrow => h row (by omega)
    have hlen := length_blocks hn
    rw [List.range_succ, List.flatMap_append, List.flatMap_singleton]
    rcases Nat.lt_succ_iff_lt_or_eq.mp hrow with hlt | rfl
    · obtain ⟨rest, hrest⟩ := ih hn hlt
      rw [List.drop_append_of_le_length (hlen ▸ Nat.mul_le_mul_right k hlt.le), hrest,
        List.append_assoc]
      exact ⟨_, rfl⟩
    · rw [← hlen, List.drop_left]
      exact ⟨[], (List.append_nil _).symm⟩

theorem write_row {pixels : Bytes} {width row : ℕ} {done : Bytes} (rest : Bytes)
    (hdone : done.length = row * (width + 1)) :
    writeRow pixels width (done ++ (List.replicate (width + 1) 0 ++ rest)) row =
      done ++ filteredRow pixels width row ++ rest := by
  have hset : (done ++ (List.replicate (width + 1) 0 ++ rest)).set done.length 0 =
      (done ++ [0]) ++ (List.replicate width 0 ++ rest) := by
    rw [List.set_append_right _ _ (Nat.le_refl _), Nat.sub_self, List.replicate_succ,
      List.append_assoc]
    rfl
  have hone : (done ++ [(0 : UInt8)]).length = done.length + 1 := by
    rw [List.length_append, List.length_singleton]
  have hskip : (List.replicate width (0 : UInt8) ++ rest).drop width = rest := by
    rw [List.drop_append_of_le_length (by rw [List.length_replicate]),
      List.drop_eq_nil_of_le (by rw [List.length_replicate]), List.nil_append]
  rw [writeRow, ← hdone, hset, assignSlice, ← hone, List.take_left, ← List.drop_drop,
    List.drop_left, hskip, filteredRow]
  simp only [List.append_assoc, List.cons_append, List.nil_append]

/-- The loop over the rows leaves them one behind the other. -/
theorem scanlines_eq {pixels : Bytes} {width height : ℕ}
    (hpixels : pixels.length = width * height) :
    scanlines pixels width height = (List.range height).flatMap (filteredRow pixels width) := by
  have hrows : ∀ n ≤ height,
      (List.range n).foldl (writeRow pixels width) (List.replicate ((width + 1) * height) 0) =
        (List.range n).flatMap (filteredRow pixels width) ++
          List.replicate ((width + 1) * (height - n)) 0 := by
    intro n hn
    induction n with
    | zero => rfl
    | succ n ih =>
      have hdone : ((List.range n).flatMap (filteredRow pixels width)).length = n * (width + 1) :=
        length_blocks fun row hrow => length_filtered_row hpixels (by omega)
      have hleft : (width + 1) * (height - n) = width + 1 + (width + 1) * (height - (n + 1)) := by
        rw [show height - n = height - (n + 1) + 1 by omega, Nat.mul_succ, Nat.add_comm]
      rw [List.range_succ, List.foldl_append, ih (by omega), List.flatMap_append,
        List.flatMap_singleton, hleft, ← List.replicate_append_replicate, List.foldl_cons,
        List.foldl_nil, write_row _ hdone]
  have h := hrows height (Nat.le_refl _)
  rw [Nat.sub_self, Nat.mul_zero, List.replicate_zero, List.append_nil] at h
  exact h

def dropFilterBytes (width height : ℕ) (lines : Bytes) : Bytes :=
  (List.range height).flatMap fun row =>
    slice lines (row * (width + 1) + 1) (row * (width + 1) + 1 + width)

theorem rows_of_pixels (pixels : Bytes) (width n : ℕ) :
    (List.range n).flatMap (fun row => slice pixels (row * width) (row * width + width)) =
      pixels.take (n * width) := by
  induction n with
  | zero => rw [Nat.zero_mul, List.take_zero, List.range_zero, List.flatMap_nil]
  | succ n ih =>
    rw [List.range_succ, List.flatMap_append, List.flatMap_singleton, ih, Nat.succ_mul,
      List.take_add, slice, List.drop_take, Nat.add_sub_cancel_left]

theorem drop_filter_bytes_scanlines {pixels : Bytes} {width height : ℕ}
    (hpixels : pixels.length = width * height) :
    dropFilterBytes width height (scanlines pixels width height) = pixels := by
  have hrow : ∀ row ∈ List.range height,
      slice (scanlines pixels width height) (row * (width + 1) + 1)
          (row * (width + 1) + 1 + width) =
        slice pixels (row * width) (row * width + width) := by
    intro row hmem
    have hlt := List.mem_range.mp hmem
    obtain ⟨rest, hrest⟩ := drop_blocks (f := filteredRow pixels width)
      (fun row hrow => length_filtered_row hpixels hrow) hlt
    have hplace : (scanlines pixels width height).drop (row * (width + 1)) =
        [0] ++ (slice pixels (row * width) (row * width + width) ++ rest) := by
      rw [scanlines_eq hpixels]
      exact hrest
    exact slice_of_drop hplace rfl (by rw [length_row hpixels hlt])
  rw [dropFilterBytes, List.flatMap_congr hrow, rows_of_pixels, Nat.mul_comm, ← hpixels,
    List.take_length]

def imageHead (width height : ℤ) : Chunk := ⟨ihdrType, (mono8Ihdr width height).pack⟩

def imageBody (compressed : Bytes) : Chunk := ⟨idatType, compressed⟩

def imageContent (width height : ℤ) (compressed : Bytes) : Bytes :=
  pngSignature ++ (frame crc32 (imageHead width height) ++
    (frame crc32 (imageBody compressed) ++ (frame crc32 ⟨iendType, []⟩ ++ [])))

theorem png_chunk_eq {chunkType data : Bytes} (h : data.length < 2 ^ 32) :
    pngChunk chunkType data = .ok (frame crc32 ⟨chunkType, data⟩) := by
  simp only [pngChunk, packU32, h, crc32_lt, if_true, bind, Except.bind, pure, Except.pure]
  rfl

theorem pack_ihdr_eq {ihdr : Ihdr} (hw : ihdr.width < 2 ^ 32) (hh : ihdr.height < 2 ^ 32) :
    packIhdr ihdr = .ok ihdr.pack := by
  simp only [packIhdr, packU32, hw, hh, if_true, bind, Except.bind, pure, Except.pure]
  rfl

theorem write_content {zlib : Zlib} {path : String} {pixels : Bytes} {width height level : ℤ}
    (hwidth : 1 ≤ width ∧ width < 2 ^ 32) (hheight : 1 ≤ height ∧ height < 2 ^ 32)
    (hlevel : 0 ≤ level ∧ level ≤ 9) (hpixels : (pixels.length : ℤ) = width * height)
    (hshort : (zlib.compress level (scanlines pixels width.toNat height.toNat)).length < 2 ^ 32) :
    writeMono8PngAtomic zlib path false pixels width height level =
      .ok (imageContent width height
        (zlib.compress level (scanlines pixels width.toNat height.toNat))) := by
  have hihdr : packIhdr (mono8Ihdr width height) = .ok (mono8Ihdr width height).pack :=
    pack_ihdr_eq (by simp only [mono8Ihdr]; omega) (by simp only [mono8Ihdr]; omega)
  have hhead : pngChunk ihdrType (mono8Ihdr width height).pack =
      .ok (frame crc32 (imageHead width height)) :=
    png_chunk_eq (show 13 < 2 ^ 32 by omega)
  have hbody : pngChunk idatType (zlib.compress level (scanlines pixels width.toNat height.toNat)) =
      .ok (frame crc32 (imageBody _)) := png_chunk_eq hshort
  have hend : pngChunk iendType [] = .ok (frame crc32 ⟨iendType, []⟩) := png_chunk_eq (by decide)
  unfold writeMono8PngAtomic
  simp only [checkPng, hwidth.1, hheight.1, hlevel.1, hlevel.2, hpixels, decide_true, Bool.and_self,
    if_true, bind, Except.bind, pure, Except.pure, Bool.false_eq_true, if_false, hihdr,
    hhead, hbody, hend]
  rw [imageContent, List.append_nil]

/-- The image data that the loop collects. -/
def idatData (content : Bytes) : Option Bytes :=
  (chunkLoop pythonSlice content 8 {}).toOption.map fun loop => loop.2.compressed

theorem chunk_loop_image {width height : ℤ} {compressed : Bytes}
    (hwidth : 1 ≤ width ∧ width < 2 ^ 32) (hheight : 1 ≤ height ∧ height < 2 ^ 32)
    (hshort : compressed.length < 2 ^ 32) :
    chunkLoop pythonSlice (imageContent width height compressed) 8 {} =
      .ok ((imageContent width height compressed).length,
        { ihdr := some (mono8Ihdr width height), compressed, sawIend := true }) := by
  have hhead : Framable (imageHead width height) := ⟨rfl, show 13 < 2 ^ 32 by omega⟩
  have hbody : Framable (imageBody compressed) := ⟨rfl, hshort⟩
  have hend : Framable ⟨iendType, []⟩ := ⟨rfl, show 0 < 2 ^ 32 by omega⟩
  have hunpack : unpackIhdr (imageHead width height).data = .ok (mono8Ihdr width height) :=
    unpack_ihdr_pack (by simp only [mono8Ihdr]; omega) (by simp only [mono8Ihdr]; omega)
  have haccept₁ : ({} : PngScan).accept (imageHead width height).data.length
      (imageHead width height) = .ok { ihdr := some (mono8Ihdr width height) } := by
    rw [PngScan.accept, if_pos (show (imageHead width height).kind = ihdrType from rfl), hunpack]
    rfl
  have haccept₂ : ({ ihdr := some (mono8Ihdr width height) } : PngScan).accept
      (imageBody compressed).data.length (imageBody compressed) =
        .ok { ihdr := some (mono8Ihdr width height), compressed } := by
    have hkind : (imageBody compressed).kind ≠ ihdrType := (by decide : idatType ≠ ihdrType)
    rw [PngScan.accept, if_neg hkind, if_pos (show (imageBody compressed).kind = idatType from rfl)]
    rfl
  have haccept₃ : ({ ihdr := some (mono8Ihdr width height), compressed } : PngScan).accept
      0 ⟨iendType, []⟩ =
        .ok { ihdr := some (mono8Ihdr width height), compressed, sawIend := true } := by
    rw [PngScan.accept, if_neg (show iendType ≠ ihdrType by decide),
      if_neg (show iendType ≠ idatType by decide), if_pos rfl]
    rfl
  have hplace : (imageContent width height compressed).drop 8 =
      frame crc32 (imageHead width height) ++ (frame crc32 (imageBody compressed) ++
        (frame crc32 ⟨iendType, []⟩ ++ [])) := rfl
  obtain ⟨hloop₁, hrest₁⟩ := chunk_loop_frame hhead hplace haccept₁
  obtain ⟨hloop₂, hrest₂⟩ := chunk_loop_frame hbody hrest₁ haccept₂
  obtain ⟨hloop₃, hrest₃⟩ := chunk_loop_frame hend hrest₂ haccept₃
  have hfits := fits_of_frame crc32 hend hrest₂
  have hover := List.drop_eq_nil_iff.mp hrest₃
  rw [hloop₁, if_neg Bool.false_ne_true, hloop₂, if_neg Bool.false_ne_true, hloop₃, if_pos rfl,
    Nat.le_antisymm hfits hover]

theorem scanlines_valid {pixels : Bytes} {width height : ℕ}
    (hpixels : pixels.length = width * height) :
    validateScanlines (scanlines pixels width height) width height mono8Png = .ok () := by
  have hblocks : ∀ row < height, (filteredRow pixels width row).length = width + 1 :=
    fun row hrow => length_filtered_row hpixels hrow
  have hstride : 1 + (width : ℤ) * channels mono8Png = (width + 1 : ℕ) := by
    rw [channels, if_pos rfl, Int.mul_one, Int.add_comm]
    rfl
  refine (validate_scanlines_iff _ _ (Int.natCast_nonneg _) (Int.natCast_nonneg _)).2.mpr ?_
  rw [hstride, scanlines_eq hpixels, length_blocks hblocks, Int.toNat_natCast]
  refine ⟨Int.natCast_mul _ _, fun row hrow => ⟨0, ?_, by decide⟩⟩
  obtain ⟨rest, hrest⟩ := drop_blocks hblocks (Int.ofNat_lt.mp hrow)
  have hfirst := congrArg (·[0]?) hrest
  simp only [List.getElem?_drop, Nat.add_zero] at hfirst
  exact hfirst.trans rfl

/-- A written image is accepted, and its pixels are found in it again. -/
theorem written_png_valid {zlib : Zlib} (hzlib : LawfulZlib zlib) {pixels : Bytes}
    {width height level : ℤ} (hwidth : 1 ≤ width ∧ width < 2 ^ 32)
    (hheight : 1 ≤ height ∧ height < 2 ^ 32) (hlevel : 0 ≤ level ∧ level ≤ 9)
    (hpixels : (pixels.length : ℤ) = width * height)
    (hshort : (zlib.compress level (scanlines pixels width.toNat height.toNat)).length < 2 ^ 32)
    (path : String) :
    ∃ content, writeMono8PngAtomic zlib path false pixels width height level = .ok content ∧
      validateCanonicalPng zlib pythonSlice content width height mono8Png = .ok () ∧
      ((idatData content).bind zlib.decompress).map
        (dropFilterBytes width.toNat height.toNat) = some pixels := by
  refine ⟨_, write_content hwidth hheight hlevel hpixels hshort, ?_⟩
  have hloop := chunk_loop_image hwidth hheight hshort
  have hinflate := hzlib.decompress_compress level
    (scanlines pixels width.toNat height.toNat) hlevel.1 hlevel.2
  have hw : ((width.toNat : ℕ) : ℤ) = width := Int.toNat_of_nonneg (by omega)
  have hh : ((height.toNat : ℕ) : ℤ) = height := Int.toNat_of_nonneg (by omega)
  have hnat : pixels.length = width.toNat * height.toNat := by
    refine Int.ofNat_inj.mp (hpixels.trans ?_)
    rw [Int.natCast_mul, hw, hh]
  constructor
  · have hlines := scanlines_valid hnat
    rw [hw, hh] at hlines
    have hsignature : pngSignature.isPrefixOf (imageContent width height
        (zlib.compress level (scanlines pixels width.toNat height.toNat))) = true :=
      List.isPrefixOf_iff_prefix.mpr (List.prefix_append _ _)
    have hcolor : expectedColorType mono8Png = 0 := if_pos rfl
    simp only [validateCanonicalPng, checkPng, bind, Except.bind, hsignature, hloop, hinflate,
      hlines, hcolor, mono8Ihdr, hw, hh, Option.any_some, decide_true, Bool.and_self, if_true]
  · rw [idatData, hloop]
    simp only [Except.toOption, Option.map_some, Option.bind_some, hinflate]
    rw [drop_filter_bytes_scanlines hnat]

/-! ### Images of one pixel -/

def adler32 (bytes : Bytes) : ℕ :=
  let sums := bytes.foldl (fun s byte =>
    ((s.1 + byte.toNat) % 65521, (s.2 + (s.1 + byte.toNat) % 65521) % 65521)) (1, 0)
  sums.2 * 65536 + sums.1

/-- One stored block, as level zero makes it of up to 65535 bytes. -/
def storedBlock (data : Bytes) : Bytes :=
  [0x78, 0x01, 0x01, UInt8.ofNat data.length, UInt8.ofNat (data.length / 256),
    UInt8.ofNat (65535 - data.length), UInt8.ofNat ((65535 - data.length) / 256)] ++
    (data ++ bigEndian (adler32 data))

def storedZlib : Zlib where
  compress _ data := storedBlock data
  decompress bytes :=
    let data := slice bytes 7 (bytes.length - 4)
    if bytes = storedBlock data then some data else none

theorem stored_zlib_lawful : LawfulZlib storedZlib where
  decompress_compress level data _ _ := by
    have hdata : slice (storedBlock data) 7 ((storedBlock data).length - 4) = data := by
      have hlength : (storedBlock data).length - 4 = 7 + data.length := by
        simp only [storedBlock, List.length_append, length_big_endian, List.length_cons,
          List.length_nil]
        omega
      exact slice_of_drop (List.drop_zero ..) rfl hlength
    simp only [storedZlib, hdata, if_true]

theorem four_pixels_valid :
    ∃ content, writeMono8PngAtomic storedZlib "/images/a.png" false [200, 10, 0, 255] 2 2 0 =
        .ok content ∧
      validateCanonicalPng storedZlib pythonSlice content 2 2 mono8Png = .ok () ∧
      ((idatData content).bind storedZlib.decompress).map (dropFilterBytes 2 2) =
        some [200, 10, 0, 255] :=
  written_png_valid stored_zlib_lawful (by decide) (by decide) (by decide) (by decide) (by decide)
    "/images/a.png"

end InspectionLine
