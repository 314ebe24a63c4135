import Mathlib.Algebra.Group.Nat.Defs
import Mathlib.Data.List.TakeDrop
import Mathlib.Data.Nat.Notation

/-! # Framed bytes

A file is a sequence of frames: the length of the data in big-endian order, four bytes of kind,
the data, and a checksum over kind and data. What stands at an offset is read with slices. -/
namespace ByteFrames

abbrev Bytes := List UInt8

/-! ### Big-endian numbers of four bytes -/

def bigEndian (n : ℕ) : Bytes :=
  [UInt8.ofNat (n / 16777216), UInt8.ofNat (n / 65536), UInt8.ofNat (n / 256), UInt8.ofNat n]

def fromBigEndian (bytes : Bytes) : ℕ := bytes.foldl (fun n byte => n * 256 + byte.toNat) 0

@[simp] theorem length_big_endian (n : ℕ) : (bigEndian n).length = 4 := rfl

theorem from_big_endian_of_four (a b c d : UInt8) :
    fromBigEndian [a, b, c, d] = ((a.toNat * 256 + b.toNat) * 256 + c.toNat) * 256 + d.toNat := by
  simp [fromBigEndian]

theorem from_big_endian_big_endian {n : ℕ} (h : n < 2 ^ 32) :
    fromBigEndian (bigEndian n) = n := by
  rw [bigEndian, from_big_endian_of_four]
  simp only [UInt8.toNat_ofNat']
  omega

theorem four_of_length {bytes : Bytes} (h : bytes.length = 4) :
    ∃ a b c d, bytes = [a, b, c, d] := by
  obtain ⟨a, rest, rfl⟩ := List.exists_cons_of_length_eq_add_one h
  obtain ⟨b, rest, rfl⟩ := List.exists_cons_of_length_eq_add_one (Nat.succ.inj h)
  obtain ⟨c, rest, rfl⟩ := List.exists_cons_of_length_eq_add_one (Nat.succ.inj (Nat.succ.inj h))
  obtain ⟨d, rfl⟩ := List.length_eq_one_iff.mp (Nat.succ.inj (Nat.succ.inj (Nat.succ.inj h)))
  exact ⟨a, b, c, d, rfl⟩

theorem from_big_endian_lt {bytes : Bytes} (h : bytes.length = 4) :
    fromBigEndian bytes < 2 ^ 32 := by
  obtain ⟨a, b, c, d, rfl⟩ := four_of_length h
  have ha := a.toNat_lt
  have hb := b.toNat_lt
  have hc := c.toNat_lt
  have hd := d.toNat_lt
  rw [from_big_endian_of_four]
  omega

theorem big_endian_from_big_endian {bytes : Bytes} (h : bytes.length = 4) :
    bigEndian (fromBigEndian bytes) = bytes := by
  obtain ⟨a, b, c, d, rfl⟩ := four_of_length h
  have hb := b.toNat_lt
  have hc := c.toNat_lt
  have hd := d.toNat_lt
  rw [from_big_endian_of_four, bigEndian]
  have hofNat : ∀ (n : ℕ) (x : UInt8), n % 256 = x.toNat → UInt8.ofNat n = x := fun n x hx =>
    UInt8.toNat_inj.mp (by rw [UInt8.toNat_ofNat', hx])
  have ha := a.toNat_lt
  rw [hofNat _ a (by omega), hofNat _ b (by omega), hofNat _ c (by omega), hofNat _ d (by omega)]

/-! ### Slices -/

section
variable {α : Type*}

def slice (content : List α) (start stop : ℕ) : List α := (content.take stop).drop start

theorem length_slice {content : List α} {start stop : ℕ} (h : stop ≤ content.length) :
    (slice content start stop).length = stop - start := by
  rw [slice, List.length_drop, List.length_take, Nat.min_eq_left h]

theorem drop_eq_slice_append (content : List α) {start stop : ℕ} (h : start ≤ stop) :
    content.drop start = slice content start stop ++ content.drop stop := by
  have hsplit := List.take_append_drop (stop - start) (content.drop start)
  rw [List.drop_drop, Nat.add_sub_cancel' h] at hsplit
  rw [slice, List.drop_take, hsplit]

theorem slice_of_drop {content pre mid post : List α} {offset start stop : ℕ}
    (h : content.drop offset = pre ++ (mid ++ post)) (hstart : start = offset + pre.length)
    (hstop : stop = start + mid.length) : slice content start stop = mid := by
  have hdrop : content.drop start = mid ++ post := by
    rw [hstart, ← List.drop_drop, h, List.drop_left]
  rw [hstop, slice, List.drop_take, hdrop, Nat.add_sub_cancel_left, List.take_left]

end

/-! ### Frames -/

structure Chunk where
  kind : Bytes
  data : Bytes
  deriving DecidableEq, Repr

variable (check : Bytes → ℕ)

def frame (c : Chunk) : Bytes :=
  bigEndian c.data.length ++ (c.kind ++ (c.data ++ bigEndian (check (c.kind ++ c.data))))

structure Framable (c : Chunk) : Prop where
  kind_length : c.kind.length = 4
  data_length : c.data.length < 2 ^ 32

theorem length_frame {c : Chunk} (h : c.kind.length = 4) :
    (frame check c).length = c.data.length + 12 := by
  simp only [frame, List.length_append, length_big_endian, h]
  omega

/-- The parts of a frame that starts at an offset. -/
theorem slices_of_frame {content rest : Bytes} {offset : ℕ} {c : Chunk} (hc : Framable c)
    (h : content.drop offset = frame check c ++ rest) :
    slice content offset (offset + 4) = bigEndian c.data.length ∧
      slice content (offset + 4) (offset + 8) = c.kind ∧
      slice content (offset + 8) (offset + 8 + c.data.length) = c.data ∧
      slice content (offset + 8 + c.data.length) (offset + 8 + c.data.length + 4) =
        bigEndian (check (c.kind ++ c.data)) := by
  obtain ⟨hkind, -⟩ := hc
  have hsize : (bigEndian c.data.length).length = 4 := rfl
  have hhead : (bigEndian c.data.length ++ c.kind).length = 8 := by
    rw [List.length_append, hsize, hkind]
  have hbody : (bigEndian c.data.length ++ c.kind ++ c.data).length = 8 + c.data.length := by
    rw [List.length_append, hhead]
  simp only [frame, List.append_assoc] at h
  refine ⟨?_, slice_of_drop h rfl (by omega), ?_, ?_⟩
  · rw [← List.nil_append (bigEndian _ ++ _)] at h
    exact slice_of_drop h rfl rfl
  · rw [← List.append_assoc] at h
    exact slice_of_drop h (by omega) rfl
  · rw [← List.append_assoc, ← List.append_assoc] at h
    exact slice_of_drop h (by omega) rfl

theorem fits_of_frame {content rest : Bytes} {offset : ℕ} {c : Chunk} (hc : Framable c)
    (h : content.drop offset = frame check c ++ rest) :
    offset + 8 + c.data.length + 4 ≤ content.length := by
  have hlen := congrArg List.length h
  rw [List.length_drop, List.length_append, length_frame check hc.kind_length] at hlen
  omega

theorem drop_after_frame {content rest : Bytes} {offset : ℕ} {c : Chunk} (hc : Framable c)
    (h : content.drop offset = frame check c ++ rest) :
    content.drop (offset + 8 + c.data.length + 4) = rest := by
  have hoffset : offset + 8 + c.data.length + 4 = offset + (frame check c).length := by
    rw [length_frame check hc.kind_length]
    omega
  rw [hoffset, ← List.drop_drop, h, List.drop_left]

theorem frame_of_slices {content : Bytes} {offset length : ℕ}
    (hlength : fromBigEndian (slice content offset (offset + 4)) = length)
    (hfits : offset + 8 + length + 4 ≤ content.length)
    (hcheck : fromBigEndian
        (slice content (offset + 8 + length) (offset + 8 + length + 4)) =
      check (slice content (offset + 4) (offset + 8) ++
        slice content (offset + 8) (offset + 8 + length))) :
    let c : Chunk := {
      kind := slice content (offset + 4) (offset + 8)
      data := slice content (offset + 8) (offset + 8 + length) }
    Framable c ∧ c.data.length = length ∧
      content.drop offset = frame check c ++ content.drop (offset + 8 + length + 4) := by
  have hfour : ∀ start, start + 4 ≤ content.length → (slice content start (start + 4)).length = 4 :=
    fun start h => by
      rw [length_slice h]
      omega
  have hdata : (slice content (offset + 8) (offset + 8 + length)).length = length := by
    rw [length_slice (by omega)]
    omega
  have hsize := hfour offset (by omega)
  have hcrc := hfour (offset + 8 + length) hfits
  refine ⟨⟨hfour (offset + 4) (by omega), ?_⟩, hdata, ?_⟩
  · rw [hdata, ← hlength]
    exact from_big_endian_lt hsize
  · rw [frame, hdata, ← hcheck, big_endian_from_big_endian hcrc, ← hlength,
      big_endian_from_big_endian hsize, hlength]
    rw [drop_eq_slice_append content (Nat.le_add_right offset 4),
      drop_eq_slice_append content (show offset + 4 ≤ offset + 8 by omega),
      drop_eq_slice_append content (Nat.le_add_right (offset + 8) length),
      drop_eq_slice_append content (Nat.le_add_right (offset + 8 + length) 4)]
    simp only [List.append_assoc]

end ByteFrames
