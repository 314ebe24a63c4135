import InspectionLine.MegaProtocol

/-! # Damaged frames

The checksum tells a body from every other one that differs in one byte or in two neighbouring
ones. White space at the front is no part of what the checksum is compared with. -/
namespace InspectionLine.MegaProtocol

structure Damaged (body changed : List UInt8) : Prop where
  bytes : ∃ first before old new after, body = first :: before ++ old ++ after ∧
    changed = first :: before ++ new ++ after ∧ old.length = new.length ∧
    1 ≤ old.length ∧ old.length ≤ 2 ∧ old ≠ new ∧ ∀ b ∈ new, b < 128

theorem register_ne {old new : List UInt8} (hlength : old.length = new.length)
    (hlong : old.length ≤ 2) (hne : old ≠ new) (c : BitVec 16) (after : List (BitVec 8)) :
    Crc.register ccitt c (old.map UInt8.toBitVec ++ after) ≠
      Crc.register ccitt c (new.map UInt8.toBitVec ++ after) := by
  have hbits : ∀ {a b : UInt8}, a ≠ b → a.toBitVec ≠ b.toBitVec := fun hab heq =>
    hab (UInt8.toBitVec_inj.mp heq)
  match old, new with
  | [], [] => exact absurd rfl hne
  | [a], [b] =>
    have hab : a ≠ b := fun heq => hne (by rw [heq])
    exact Crc.register_byte_ne (by decide) (by decide) c (hbits hab) after
  | [a, b], [a', b'] =>
    refine Crc.register_pair_ne (by decide) (by decide) c ?_ after
    rintro ⟨ha, hb⟩
    exact hne (by rw [UInt8.toBitVec_inj.mp ha, UInt8.toBitVec_inj.mp hb])
  | [], _ :: _ | [_], [] | [_], _ :: _ :: _ | [_, _], [] | [_, _], [_]
  | [_, _], _ :: _ :: _ :: _ => simp at hlength
  | _ :: _ :: _ :: _, _ => simp at hlong

theorem damaged_crc {body changed : List UInt8} (h : Damaged body changed) :
    crcOfBytes body ≠ crcOfBytes changed := by
  obtain ⟨first, before, old, new, after, rfl, rfl, hlength, -, hlong, hne, -⟩ := h.bytes
  rw [crc_of_bytes_eq, crc_of_bytes_eq]
  intro heq
  have hregister := BitVec.eq_of_toNat_eq heq
  have hsplit : ∀ middle,
      Crc.register ccitt 0xFFFF ((first :: before ++ middle ++ after).map UInt8.toBitVec) =
        Crc.register ccitt (Crc.register ccitt 0xFFFF ((first :: before).map UInt8.toBitVec))
          (middle.map UInt8.toBitVec ++ after.map UInt8.toBitVec) := by
    intro middle
    rw [List.map_append, List.map_append, List.append_assoc, Crc.register_append]
  rw [hsplit, hsplit] at hregister
  exact register_ne hlength hlong hne _ _ hregister

theorem encoded_ascii {fields : List Text} {frame : List UInt8}
    (h : encodeFrame fields = some frame) : ∀ c ∈ join fields, isAscii c = true := by
  by_contra hascii
  have hnone : encodeAscii (join fields) = none := by
    refine if_neg fun hall => hascii fun c hc => ?_
    exact List.all_eq_true.mp hall c hc
  rw [encodeFrame, crc16Ccitt, hnone] at h
  cases h

/-- A frame whose body is damaged is not decoded. -/
theorem damaged_frame_rejected {fields : List Text} {frame changed : List UInt8}
    (hframe : encodeFrame fields = some frame) (hclean : StartsClean (join fields))
    (hdamaged : Damaged (bytesOf (join fields)) changed) :
    decodeFrame (changed ++ frame.drop (bytesOf (join fields)).length) = none := by
  have hascii := encoded_ascii hframe
  have hchanged : ∀ b ∈ changed, b < 128 := by
    obtain ⟨first, before, old, new, after, hbody, rfl, -, -, -, -, hnew⟩ := hdamaged.bytes
    have hbytes := bytes_lt hascii
    rw [hbody] at hbytes
    intro b hb
    simp only [List.cons_append, List.append_assoc, List.mem_cons, List.mem_append] at hb hbytes
    rcases hb with hb | hb | hb | hb
    · exact hbytes b (.inl hb)
    · exact hbytes b (.inr (.inl hb))
    · exact hnew b hb
    · exact hbytes b (.inr (.inr (.inr hb)))
  have hclean' : StartsClean (charsOf changed) := by
    obtain ⟨first, before, old, new, after, hbody, rfl, -⟩ := hdamaged.bytes
    have hhead : (join fields).head? = some (Char.ofNat first.toNat) := by
      have hchars := congrArg charsOf hbody
      rw [chars_of_bytes hascii] at hchars
      rw [hchars]
      rfl
    exact fun c hc => hclean c (hhead.trans hc)
  have hascii' : ∀ c ∈ charsOf changed, isAscii c = true := by
    intro c hc
    obtain ⟨b, hb, rfl⟩ := List.mem_map.mp hc
    exact char_is_ascii (hchanged b hb)
  have hbytes := bytes_of_chars hchanged
  have hrest : frame.drop (bytesOf (join fields)).length =
      bytesOf ('|' :: hexText (crcOfBytes (bytesOf (join fields))) ++ ['\n']) := by
    rw [encode_frame hascii] at hframe
    rw [← Option.some.inj hframe, List.append_assoc, bytes_append, List.drop_left]
  have htext : changed ++ frame.drop (bytesOf (join fields)).length =
      bytesOf (charsOf changed ++ '|' ::
        hexText (crcOfBytes (bytesOf (join fields))) ++ ['\n']) := by
    rw [hrest, List.append_assoc, bytes_append (charsOf changed), hbytes]
  rw [htext, decode_framed (crc_of_bytes_lt _) hascii' hclean', hbytes,
    if_neg (damaged_crc hdamaged)]
  intro c hc
  obtain rfl := List.mem_singleton.mp hc
  exact ⟨rfl, rfl⟩

/-- Another conveyor is stopped by no single wrong byte. -/
theorem damaged_stop_rejected : decodeFrame (MegaSerial.ascii "C|7|STOP|2" ++
    (MegaSerial.ascii "C|7|STOP|1|C653\n").drop 10) = none := by
  refine @damaged_frame_rejected ["C|7|STOP|1".toList] (MegaSerial.ascii "C|7|STOP|1|C653\n")
    (MegaSerial.ascii "C|7|STOP|2") (by decide +kernel) (fun c hc => ?_)
    ⟨0x43, MegaSerial.ascii "|7|STOP|", [0x31], [0x32], [], by decide +kernel, by decide +kernel,
      rfl, by decide, by decide, by decide, by decide +kernel⟩
  obtain rfl : 'C' = c := Option.some.inj hc
  rfl

/-- Behind white space two bytes can be changed into others with the checksum of the whole body. -/
theorem damaged_frame_decoded : ¬ ∀ (fields : List Text) (frame changed : List UInt8),
    encodeFrame fields = some frame → Damaged (bytesOf (join fields)) changed →
      decodeFrame (changed ++ frame.drop (bytesOf (join fields)).length) = none := by
  intro h
  have hdecoded := h [" x9".toList] (MegaSerial.ascii " x9|6CD0\n") (MegaSerial.ascii " BT")
    (by decide +kernel)
    ⟨0x20, [], MegaSerial.ascii "x9", MegaSerial.ascii "BT", [], by decide +kernel,
      by decide +kernel, rfl, by decide +kernel, by decide +kernel, by decide +kernel,
      by decide +kernel⟩
  exact absurd hdecoded (by decide +kernel)

end InspectionLine.MegaProtocol
