import Mathlib.Algebra.Group.Nat.Defs
import Mathlib.Logic.Function.Iterate

/-! # Cyclic redundancy checks

The register of a CRC is shifted bit by bit and reduced by a polynomial. A shift is linear in
exclusive or, and without loss where the polynomial has a constant term, so no change of two
neighbouring bytes is lost in a register that holds both. -/
namespace Crc

variable {w : ℕ} {poly : BitVec w}

/-- One shift of the register. The bit that falls out subtracts the polynomial. -/
def shift (poly c : BitVec w) : BitVec w := if c.msb then (c <<< 1) ^^^ poly else c <<< 1

def shifts (poly : BitVec w) (n : ℕ) (c : BitVec w) : BitVec w := (shift poly)^[n] c

def feed (poly c : BitVec w) (byte : BitVec 8) : BitVec w :=
  shifts poly 8 (c ^^^ byte.setWidth w <<< (w - 8))

def register (poly c : BitVec w) (message : List (BitVec 8)) : BitVec w :=
  message.foldl (feed poly) c

theorem xor_cancel (a b c : BitVec w) : a ^^^ c ^^^ (b ^^^ c) = a ^^^ b := by
  rw [BitVec.xor_comm b c, BitVec.xor_assoc, ← BitVec.xor_assoc c c b, BitVec.xor_self,
    BitVec.zero_xor]

theorem eq_of_xor_eq_zero {a b : BitVec w} (h : a ^^^ b = 0#w) : a = b := by
  rw [← BitVec.zero_xor (x := b), ← h, BitVec.xor_assoc, BitVec.xor_self, BitVec.xor_zero]

/-! ### Shifts -/

theorem shift_xor (a b : BitVec w) : shift poly (a ^^^ b) = shift poly a ^^^ shift poly b := by
  simp only [shift, BitVec.msb_xor, BitVec.shiftLeft_xor_distrib]
  cases a.msb <;> cases b.msb <;> simp only [Bool.bne_true, Bool.bne_false, Bool.not_true,
    Bool.not_false, Bool.false_eq_true, if_true, if_false]
  · exact BitVec.xor_assoc ..
  · rw [BitVec.xor_assoc, BitVec.xor_comm (b <<< 1), ← BitVec.xor_assoc]
  · exact (xor_cancel ..).symm

theorem shift_eq_zero (hodd : poly.getLsbD 0 = true) {c : BitVec w} (h : shift poly c = 0#w) :
    c = 0#w := by
  unfold shift at h
  cases hmsb : c.msb with
  | true =>
    rw [hmsb, if_pos rfl] at h
    have hbit := congrArg (·.getLsbD 0) (eq_of_xor_eq_zero h)
    simp only [hodd, BitVec.getLsbD_shiftLeft, Nat.zero_lt_one, decide_true, Bool.not_true,
      Bool.and_false, Bool.false_and, Bool.false_eq_true] at hbit
  | false =>
    rw [hmsb, if_neg Bool.false_ne_true] at h
    refine BitVec.eq_of_getLsbD_eq fun i hi => ?_
    rw [BitVec.getLsbD_zero]
    by_cases hlast : i + 1 < w
    · have hbit := congrArg (·.getLsbD (i + 1)) h
      simpa only [BitVec.getLsbD_shiftLeft, hlast, decide_true, Bool.true_and, Nat.not_lt_zero,
        Nat.lt_add_left_iff_pos, Nat.add_sub_cancel, BitVec.getLsbD_zero, Nat.succ_lt_succ_iff,
        decide_false, Bool.not_false] using hbit
    · obtain rfl : i = w - 1 := by omega
      rw [← BitVec.msb_eq_getLsbD_last]
      exact hmsb

theorem shift_injective (hodd : poly.getLsbD 0 = true) : Function.Injective (shift poly) := by
  intro a b h
  refine eq_of_xor_eq_zero (shift_eq_zero hodd ?_)
  rw [shift_xor, h, BitVec.xor_self]

theorem shifts_add (m n : ℕ) (c : BitVec w) :
    shifts poly (m + n) c = shifts poly m (shifts poly n c) := Function.iterate_add_apply ..

theorem shifts_xor (n : ℕ) (a b : BitVec w) :
    shifts poly n (a ^^^ b) = shifts poly n a ^^^ shifts poly n b := by
  induction n with
  | zero => rfl
  | succ n ih =>
    rw [Nat.add_comm, shifts_add, shifts_add, shifts_add, ih]
    exact shift_xor ..

theorem shifts_injective (hodd : poly.getLsbD 0 = true) (n : ℕ) :
    Function.Injective (shifts poly n) := (shift_injective hodd).iterate n

theorem shifts_of_small {n : ℕ} {c : BitVec w} (h : c.toNat * 2 ^ n < 2 ^ w) :
    shifts poly n c = c <<< n := by
  induction n with
  | zero => exact (BitVec.shiftLeft_zero c).symm
  | succ n ih =>
    have hdouble : 2 * (c.toNat * 2 ^ n) < 2 ^ w := by
      rw [Nat.pow_succ, ← Nat.mul_assoc] at h
      omega
    have hsmall : (c <<< n).toNat = c.toNat * 2 ^ n := by
      rw [BitVec.toNat_shiftLeft, Nat.shiftLeft_eq, Nat.mod_eq_of_lt (by omega)]
    have hmsb : (c <<< n).msb = false := by
      rw [BitVec.msb_eq_false_iff_two_mul_lt, hsmall]
      exact hdouble
    rw [Nat.add_comm, shifts_add, ih (by omega)]
    show shift poly (c <<< n) = c <<< (1 + n)
    rw [shift, hmsb, if_neg Bool.false_ne_true, Nat.add_comm, BitVec.shiftLeft_add]

/-! ### Bytes -/

theorem feed_injective (hodd : poly.getLsbD 0 = true) (byte : BitVec 8) :
    Function.Injective (feed poly · byte) := by
  intro a b h
  have h' := shifts_injective hodd 8 h
  refine eq_of_xor_eq_zero ?_
  rw [← xor_cancel a b, h', BitVec.xor_self]

theorem register_append (c : BitVec w) (message rest : List (BitVec 8)) :
    register poly c (message ++ rest) = register poly (register poly c message) rest :=
  List.foldl_append ..

theorem register_injective (hodd : poly.getLsbD 0 = true) (message : List (BitVec 8)) :
    Function.Injective (register poly · message) := by
  induction message with
  | nil => exact fun a b h => h
  | cons byte message ih => exact fun a b h => feed_injective hodd byte (ih h)

/-- Two bytes stand side by side in the register. -/
theorem register_pair (hw : 16 ≤ w) (c : BitVec w) (a b : BitVec 8) :
    register poly c [a, b] =
      shifts poly 16 (c ^^^ (a.setWidth w <<< (w - 8) ^^^ b.setWidth w <<< (w - 16))) := by
  have hsmall : (b.setWidth w <<< (w - 16)).toNat * 2 ^ 8 < 2 ^ w := by
    have hb : b.toNat < 2 ^ 8 := b.isLt
    have hpow : 2 ^ (w - 16) * 2 ^ 16 = 2 ^ w := by
      rw [← Nat.pow_add]
      congr 1
      omega
    have hle : (b.setWidth w <<< (w - 16)).toNat ≤ b.toNat * 2 ^ (w - 16) := by
      rw [BitVec.toNat_shiftLeft, Nat.shiftLeft_eq, BitVec.toNat_setWidth]
      exact Nat.le_trans (Nat.mod_le _ _) (Nat.mul_le_mul_right _ (Nat.mod_le _ _))
    have hlt : b.toNat * 2 ^ (w - 16) < 2 ^ 8 * 2 ^ (w - 16) :=
      Nat.mul_lt_mul_of_pos_right hb (Nat.two_pow_pos _)
    omega
  have hbyte : b.setWidth w <<< (w - 8) = shifts poly 8 (b.setWidth w <<< (w - 16)) := by
    rw [shifts_of_small hsmall, ← BitVec.shiftLeft_add]
    congr 1
    omega
  show feed poly (feed poly c a) b = _
  rw [feed, feed, hbyte, ← shifts_xor, ← shifts_add, BitVec.xor_assoc]

theorem pair_injective (hw : 16 ≤ w) {a b a' b' : BitVec 8}
    (h : a.setWidth w <<< (w - 8) ^^^ b.setWidth w <<< (w - 16) =
      a'.setWidth w <<< (w - 8) ^^^ b'.setWidth w <<< (w - 16)) : a = a' ∧ b = b' := by
  constructor
  · refine BitVec.eq_of_getLsbD_eq fun i hi => ?_
    have hbit := congrArg (·.getLsbD (w - 8 + i)) h
    have hhigh : ∀ x : BitVec 8, x.getLsbD (w - 8 + i - (w - 16)) = false := fun x =>
      BitVec.getLsbD_of_ge x _ (by omega)
    have hin : w - 8 + i < w := by omega
    have hnot : ¬ w - 8 + i < w - 8 := by omega
    simpa [BitVec.getLsbD_shiftLeft, BitVec.getLsbD_setWidth, hhigh, hin, hnot] using hbit
  · refine BitVec.eq_of_getLsbD_eq fun i hi => ?_
    have hbit := congrArg (·.getLsbD (w - 16 + i)) h
    have hin : w - 16 + i < w := by omega
    have hnot : ¬ w - 16 + i < w - 16 := by omega
    have hlow : w - 16 + i < w - 8 := by omega
    simpa [BitVec.getLsbD_shiftLeft, BitVec.getLsbD_setWidth, hin, hnot, hlow] using hbit

/-- A change of one byte is seen by a register that holds a byte. -/
theorem register_byte_ne (hw : 8 ≤ w) (hodd : poly.getLsbD 0 = true) (c : BitVec w)
    {a a' : BitVec 8} (hne : a ≠ a') (rest : List (BitVec 8)) :
    register poly c (a :: rest) ≠ register poly c (a' :: rest) := by
  intro h
  have hfeed := shifts_injective hodd 8 (register_injective hodd rest h)
  have hsame : a.setWidth w <<< (w - 8) = a'.setWidth w <<< (w - 8) := by
    refine eq_of_xor_eq_zero ?_
    rw [← xor_cancel _ _ c, BitVec.xor_comm _ c, hfeed, BitVec.xor_comm _ c, BitVec.xor_self]
  refine hne (BitVec.eq_of_getLsbD_eq fun i hi => ?_)
  have hbit := congrArg (·.getLsbD (w - 8 + i)) hsame
  have hin : w - 8 + i < w := by omega
  have hnot : ¬ w - 8 + i < w - 8 := by omega
  simpa [BitVec.getLsbD_shiftLeft, BitVec.getLsbD_setWidth, hin, hnot] using hbit

/-- A change of two neighbouring bytes is seen by a register that holds both. -/
theorem register_pair_ne (hw : 16 ≤ w) (hodd : poly.getLsbD 0 = true) (c : BitVec w)
    {a b a' b' : BitVec 8} (hne : ¬ (a = a' ∧ b = b')) (rest : List (BitVec 8)) :
    register poly c (a :: b :: rest) ≠ register poly c (a' :: b' :: rest) := by
  intro h
  have hpair : register poly c [a, b] = register poly c [a', b'] := by
    refine register_injective hodd rest ?_
    show register poly (register poly c [a, b]) rest = register poly (register poly c [a', b']) rest
    rw [← register_append, ← register_append]
    exact h
  rw [register_pair hw, register_pair hw] at hpair
  have hsame := shifts_injective hodd 16 hpair
  refine hne (pair_injective hw (eq_of_xor_eq_zero ?_))
  rw [← xor_cancel _ _ c, BitVec.xor_comm _ c, hsame, BitVec.xor_comm _ c, BitVec.xor_self]

end Crc
