import Mathlib.Data.Nat.Log
import Mathlib.Tactic.Ring
import Workflow.Json.Basic

/-!
# Whole numbers as floats

A float is stored as a sign, eleven bits of exponent and 52 bits of mantissa. Only an exponent of
all ones stands for a float that is not finite, and rounding a whole number of 64 bits never gets
there. Up to 53 bits a whole number is not even rounded.
-/

namespace Workflow.Decimal

open Float.Model (Format UnpackedFloat totalExponent)
open Float.Model.UnpackedFloat

/-! ## Stored floats -/

/-- The bit in front of a mantissa that is not stored. -/
theorem toNat_implicit (v : BitVec 52) : (1#1 ++ v).toNat = 2 ^ 52 + v.toNat := by
  rw [BitVec.toNat_append, ← Nat.shiftLeft_add_eq_or_of_lt v.isLt, Nat.shiftLeft_eq]
  simp

/-- The float that is stored with a sign, an exponent and a mantissa. -/
def stored (s : Sign) (b : BitVec 11) (v : BitVec 52) : UnpackedFloat :=
  if b = -1#11 then if v = 0#52 then .infinity s else .notANumber
  else if b = 0#11 then
    if h : v = 0#52 then .zero s
    else .finite s v.toNat (b.toNat - 1075 + 1)
      (by simpa [BitVec.toNat_pos, BitVec.pos_iff_ne_zero])
  else .finite s (1#1 ++ v).toNat (b.toNat - 1075) (by rw [toNat_implicit]; omega)

theorem unpack_eq_stored (b : BitVec 64) :
    UnpackedFloat.unpack .binary64 b =
      stored (Sign.ofBitVec (@unpackSign .binary64 b)) (@unpackExponent .binary64 b)
        (@unpackMantissa .binary64 b) := rfl

theorem unpack_packComponents (s : Sign) (b : BitVec 11) (v : BitVec 52) :
    UnpackedFloat.unpack .binary64 (packComponents .binary64 s b v) = stored s b v := by
  have hsign : Sign.ofBitVec (unpackSign (packComponents .binary64 s b v)) = s := by
    delta unpackSign
    simp only [packComponents, BitVec.extractLsb]
    rw [BitVec.extractLsb'_append_eq_of_le (by omega),
      BitVec.extractLsb'_append_eq_of_le (by omega)]
    cases s <;> rfl
  rw [unpack_eq_stored, hsign, unpackExponent_packComponents, unpackMantissa_packComponents]

theorem isFinite_stored (s : Sign) {b : BitVec 11} (v : BitVec 52) (hb : b ≠ -1#11) :
    (stored s b v).isFinite = true := by
  rw [stored, if_neg hb]
  by_cases hexponent : b = 0#11
  · rw [if_pos hexponent]
    by_cases hmantissa : v = 0#52
    · rw [dif_pos hmantissa]
      rfl
    · rw [dif_neg hmantissa]
      rfl
  · rw [if_neg hexponent]
    rfl

/-- The exponent of a stored float is not too large. -/
theorem exponent_stored_le {s s' : Sign} {b : BitVec 11} {v : BitVec 52} {m : Nat} {e : Int}
    {hm : 0 < m} (h : stored s b v = .finite s' m e hm) : e ≤ 971 := by
  rw [stored] at h
  by_cases hones : b = -1#11
  · rw [if_pos hones] at h
    by_cases hmantissa : v = 0#52
    · rw [if_pos hmantissa] at h
      cases h
    · rw [if_neg hmantissa] at h
      cases h
  · have hlast : b.toNat ≠ 2047 := fun heq => hones (BitVec.eq_of_toNat_eq heq)
    rw [if_neg hones] at h
    by_cases hzero : b = 0#11
    · rw [if_pos hzero] at h
      by_cases hmantissa : v = 0#52
      · rw [dif_pos hmantissa] at h
        cases h
      · rw [dif_neg hmantissa] at h
        cases h
        rw [hzero]
        decide
    · rw [if_neg hzero] at h
      cases h
      omega

/-- The exponent of a normal float is not stored as all ones or as zero. -/
theorem ofNat_exponent {e : Int} (hleast : -1074 ≤ e) (hmost : e ≤ 971) :
    BitVec.ofNat 11 (e + 1075).toNat ≠ -1#11 ∧ BitVec.ofNat 11 (e + 1075).toNat ≠ 0#11 := by
  constructor
  all_goals
    intro heq
    have hb := congrArg BitVec.toNat heq
    simp at hb
    omega

/-- A float is normal if its mantissa has 53 bits and its exponent is in range. -/
structure IsNormal (m : Nat) (e : Int) : Prop where
  bits : m.log2 = 52
  least : -1074 ≤ e
  most : e ≤ 971

/-- How a finite float is stored that is not too large. -/
theorem pack_finite {s : Sign} {m : Nat} {e : Int} {hm : 0 < m} (he : e ≤ 971) :
    pack .binary64 (.finite s m e hm) =
      if m.log2 = 52 then
        packComponents .binary64 s (BitVec.ofNat 11 (e + 1075).toNat) (BitVec.ofNat 52 m)
      else packComponents .binary64 s 0#11 (BitVec.ofNat 52 m) := by
  have hbiased : (e + 1023 + 52).toNat = (e + 1075).toNat := by omega
  show (if 2 ^ 11 ≤ (e + 1023 + 52).toNat + 1 then packedInfinity .binary64 s
    else if m.log2 + 1 = 53 then
      packComponents .binary64 s (BitVec.ofNat 11 (e + 1023 + 52).toNat) (BitVec.ofNat 52 m)
    else packComponents .binary64 s 0#11 (BitVec.ofNat 52 m)) = _
  rw [if_neg (by omega), hbiased]
  simp only [show m.log2 + 1 = 53 ↔ m.log2 = 52 by omega]

/-- A finite float that is not too large is stored as one. -/
theorem isFinite_pack {s : Sign} {m : Nat} {e : Int} {hm : 0 < m} (he : e ≤ 971) :
    (UnpackedFloat.unpack .binary64 (pack .binary64 (.finite s m e hm))).isFinite = true := by
  have hones : BitVec.ofNat 11 (e + 1075).toNat ≠ -1#11 := by
    intro heq
    have hb := congrArg BitVec.toNat heq
    simp at hb
    omega
  rw [pack_finite he]
  split
  · exact unpack_packComponents _ _ _ ▸ isFinite_stored _ _ hones
  · exact unpack_packComponents _ _ _ ▸ isFinite_stored _ _ (by decide)

theorem finite_congr {s : Sign} {m m' : Nat} {e e' : Int} {hm : 0 < m} {hm' : 0 < m'}
    (hmantissa : m = m') (hexponent : e = e') :
    UnpackedFloat.finite s m e hm = .finite s m' e' hm' := by
  subst hmantissa hexponent
  rfl

/-- A normal float comes back from its stored form. -/
theorem unpack_pack {s : Sign} {m : Nat} {e : Int} {hm : 0 < m} (h : IsNormal m e) :
    UnpackedFloat.unpack .binary64 (pack .binary64 (.finite s m e hm)) = .finite s m e hm := by
  have hlow : 2 ^ 52 ≤ m := h.bits ▸ Nat.log2_self_le hm.ne'
  have hhigh : m < 2 ^ 53 := (Nat.log2_lt hm.ne').mp (by rw [h.bits]; decide)
  have hmantissa : (1#1 ++ BitVec.ofNat 52 m).toNat = m := by
    rw [toNat_implicit, BitVec.toNat_ofNat]
    omega
  obtain ⟨hones, hzero⟩ := ofNat_exponent h.least h.most
  have hexponent : ((BitVec.ofNat 11 (e + 1075).toNat).toNat : Int) - 1075 = e := by
    have := h.least
    have := h.most
    simp
    omega
  rw [pack_finite h.most, if_pos h.bits, unpack_packComponents, stored, if_neg hones, if_neg hzero]
  exact finite_congr hmantissa hexponent

/-- The negative of a finite float is finite. -/
theorem isFinite_neg {x : Float} (h : x.isFinite = true) : (-x).isFinite = true := by
  show (UnpackedFloat.unpack .binary64 (pack .binary64 x.toModel.unpack.neg)).isFinite = true
  change x.toModel.unpack.isFinite = true at h
  generalize hunpack : x.toModel.unpack = u at h
  cases u with
  | notANumber => cases h
  | infinity _ => cases h
  | zero s => cases s <;> rfl
  | finite s m e hm => exact isFinite_pack (exponent_stored_le hunpack)

/-! ## Rounding -/

/-- Shifting a mantissa divides it. -/
theorem mantissa_shiftRight (m k : Nat) :
    (Nat.repeat ExtendedMantissa.shiftRightOne k ⟨m, false, false⟩).mantissa = m / 2 ^ k := by
  induction k with
  | zero => simp [Nat.repeat]
  | succ k ih =>
    rw [Nat.repeat, ExtendedMantissa.shiftRightOne, ih, Nat.div_div_eq_div_mul, ← Nat.pow_succ]

/-- Only zeros are shifted out of a multiple. -/
theorem shiftRight_mul (m k : Nat) :
    Nat.repeat ExtendedMantissa.shiftRightOne k ⟨m * 2 ^ k, false, false⟩ = ⟨m, false, false⟩ := by
  induction k generalizing m with
  | zero => simp [Nat.repeat]
  | succ k ih =>
    have hstep : m * 2 ^ (k + 1) = 2 * m * 2 ^ k := by ring
    rw [Nat.repeat, hstep, ih, ExtendedMantissa.shiftRightOne]
    simp

theorem log2_mul_pow {m : Nat} (hm : 0 < m) (k : Nat) : (m * 2 ^ k).log2 = m.log2 + k := by
  induction k with
  | zero => simp
  | succ k ih =>
    have hpos : 0 < m * 2 ^ k := Nat.mul_pos hm (Nat.two_pow_pos k)
    have hstep : m * 2 ^ (k + 1) = 2 * (m * 2 ^ k) := by ring
    rw [hstep, Nat.log2_two_mul hpos.ne', ih, Nat.add_assoc]

theorem targetExponent_eq (e : Int) : Format.binary64.targetExponent e = max (e - 53) (-1074) := rfl

/-- A normal float is rounded to itself, however many zeros its mantissa has behind it. -/
theorem roundWithAccuracy_normal (s : Sign) {m : Nat} {e : Int} (hm : 0 < m) (h : IsNormal m e)
    (k : Nat) :
    roundWithAccuracy .binary64 s (m * 2 ^ k) (e - k) .exact = .finite s m e hm := by
  have hshift : (e - (e - k)).toNat = k := by omega
  have hfirst : shiftToTargetExponent .binary64 (m * 2 ^ k) (e - k) .exact =
      (⟨m, false, false⟩, e) := by
    have htarget : Format.binary64.targetExponent (totalExponent (m * 2 ^ k) (e - k)) = e := by
      have := h.least
      rw [targetExponent_eq, totalExponent, log2_mul_pow hm, h.bits]
      omega
    rw [shiftToTargetExponent, htarget, shiftToExponent, hshift]
    exact Prod.ext (shiftRight_mul m k) (by simp)
  have hsecond : shiftToTargetExponent .binary64 m e .exact = (⟨m, false, false⟩, e) := by
    have htarget : Format.binary64.targetExponent (totalExponent m e) = e := by
      have := h.least
      rw [targetExponent_eq, totalExponent, h.bits]
      omega
    rw [shiftToTargetExponent, htarget, shiftToExponent, Int.sub_self]
    exact Prod.ext rfl (by simp)
  have hround : (⟨m, false, false⟩ : ExtendedMantissa).roundedMantissa = m := rfl
  rw [roundWithAccuracy, hfirst]
  dsimp only
  rw [hround, hsecond]
  exact dif_neg hm.ne'

theorem roundedMantissa_le (em : ExtendedMantissa) : em.roundedMantissa ≤ em.mantissa + 1 := by
  obtain ⟨m, round, sticky⟩ := em
  cases round <;> cases sticky <;>
    simp [ExtendedMantissa.roundedMantissa, ExtendedMantissa.accuracy, Accuracy.roundToNearestEven]
  omega

/-- How far an exponent grows while a mantissa of `k` bits is shortened. -/
theorem exponent_shiftToTargetExponent_le {m k : Nat} (hm : m < 2 ^ k) (hk : 0 < k) (e : Int) :
    (shiftToTargetExponent .binary64 m e .exact).2 ≤ max e (max (k + e - 53) (-1074)) := by
  have hlog : m.log2 < k := by
    rcases Nat.eq_zero_or_pos m with rfl | hpos
    · exact hk
    · exact (Nat.log2_lt hpos.ne').mpr hm
  show e + ((Format.binary64.targetExponent (totalExponent m e) - e).toNat : Int) ≤ _
  rw [targetExponent_eq, totalExponent]
  omega

/-- What is not too large is rounded to a float that is finite. -/
theorem isFinite_roundWithAccuracy (s : Sign) {m : Nat} {e : Int} (hm : m < 2 ^ 300)
    (he : e ≤ 300) :
    (UnpackedFloat.unpack .binary64
      (pack .binary64 (roundWithAccuracy .binary64 s m e .exact))).isFinite = true := by
  have hfirst := exponent_shiftToTargetExponent_le hm (by decide) e
  have hmantissa : (shiftToTargetExponent .binary64 m e .exact).1.mantissa ≤ m :=
    (mantissa_shiftRight m _).trans_le (Nat.div_le_self m _)
  generalize hshift : shiftToTargetExponent .binary64 m e .exact = first at hfirst hmantissa
  have hround := roundedMantissa_le first.1
  have hsecond :=
    exponent_shiftToTargetExponent_le (show first.1.roundedMantissa < 2 ^ 301 by omega)
    (by decide) first.2
  rw [roundWithAccuracy, hshift]
  dsimp only
  generalize shiftToTargetExponent .binary64 first.1.roundedMantissa first.2 .exact =
    second at hsecond ⊢
  by_cases hzero : second.1.mantissa = 0
  · rw [dif_pos hzero]
    cases s <;> rfl
  · rw [dif_neg hzero]
    exact isFinite_pack (by omega)

/-! ## Whole numbers -/

theorem ofNat_eq_mul {n : Nat} (h : n < 2 ^ 53) :
    Float.ofNat n = n.toUInt64.toFloat * Float.ofBits 0x3FF0000000000000 := by
  show Float.ofScientific n false 0 = _
  simp only [Float.ofScientific, dif_pos (show n < 2 ^ 53 ∧ 0 ≤ 22 from ⟨h, by decide⟩)]
  rfl

theorem ofNat_eq_ofScientific {n : Nat} (h : 2 ^ 53 ≤ n) :
    Float.ofNat n = .ofModel (Float.Model.ofScientific n 0) := by
  show Float.ofScientific n false 0 = _
  simp only [Float.ofScientific, dif_neg (show ¬ (n < 2 ^ 53 ∧ 0 ≤ 22) by omega)]
  rfl

/-- A whole number of at most 53 bits is a normal float. -/
theorem isNormal_whole {n : Nat} (hpos : 0 < n) (h : n < 2 ^ 53) :
    IsNormal (n * 2 ^ (52 - n.log2)) (n.log2 - 52) := by
  have hlog : n.log2 < 53 := (Nat.log2_lt hpos.ne').mpr h
  refine ⟨?_, by omega, by omega⟩
  rw [log2_mul_pow hpos]
  omega

theorem unpack_toFloat {n : Nat} (hpos : 0 < n) (h : n < 2 ^ 53) :
    n.toUInt64.toFloat.toModel.unpack =
      .finite .positive (n * 2 ^ (52 - n.log2)) (n.log2 - 52)
        (Nat.mul_pos hpos (Nat.two_pow_pos _)) := by
  have hnormal := isNormal_whole hpos h
  have hlog : n.log2 < 53 := (Nat.log2_lt hpos.ne').mpr h
  have hword : n.toUInt64.toNat = n := by
    rw [Nat.toUInt64_eq, UInt64.toNat_ofNat']
    omega
  have hcompare : compare (n : Int) 0 = .gt := by
    rw [compare_gt_iff_gt]
    omega
  have hround := roundWithAccuracy_normal .positive (Nat.mul_pos hpos (Nat.two_pow_pos _)) hnormal 0
  rw [show n * 2 ^ (52 - n.log2) * 2 ^ 0 = n * 2 ^ (52 - n.log2) by simp, Int.natCast_zero,
    Int.sub_zero] at hround
  have hvalue : UnpackedFloat.ofUInt64 .binary64 n.toUInt64 =
      roundWithAccuracy .binary64 .positive (n * 2 ^ (52 - n.log2)) (n.log2 - 52) .exact := by
    have htarget : Format.binary64.targetExponent (totalExponent n 0) = n.log2 - 52 := by
      rw [targetExponent_eq, totalExponent]
      omega
    have hshift : (0 - ((n.log2 : Int) - 52)).toNat = 52 - n.log2 := by omega
    have hexponent : (0 : Int) - ((52 - n.log2 : Nat) : Int) = n.log2 - 52 := by omega
    rw [UnpackedFloat.ofUInt64, UnpackedFloat.ofNat, UnpackedFloat.ofInt, hword,
      UnpackedFloat.normalize]
    simp only [hcompare]
    rw [UnpackedFloat.round, Int.toNat_natCast, htarget]
    simp only [decreaseExponent, hshift, Nat.shiftLeft_eq, hexponent]
  show UnpackedFloat.unpack .binary64
    (pack .binary64 (UnpackedFloat.ofUInt64 .binary64 n.toUInt64)) = _
  rw [hvalue, hround, unpack_pack hnormal]

/-- A whole number of at most 53 bits is kept exactly. -/
theorem unpack_ofNat {n : Nat} (hpos : 0 < n) (h : n < 2 ^ 53) :
    (Float.ofNat n).toModel.unpack =
      .finite .positive (n * 2 ^ (52 - n.log2)) (n.log2 - 52)
        (Nat.mul_pos hpos (Nat.two_pow_pos _)) := by
  have hnormal := isNormal_whole hpos h
  have hone : (Float.ofBits 0x3FF0000000000000).toModel.unpack =
      .finite .positive (2 ^ 52) (-52) (by decide) := rfl
  have hround :=
    roundWithAccuracy_normal .positive (Nat.mul_pos hpos (Nat.two_pow_pos _)) hnormal 52
  rw [ofNat_eq_mul h]
  show UnpackedFloat.unpack .binary64 (pack .binary64 (mul .binary64
    n.toUInt64.toFloat.toModel.unpack (Float.ofBits 0x3FF0000000000000).toModel.unpack)) = _
  rw [unpack_toFloat hpos h, hone]
  exact (congrArg _ (congrArg _ hround)).trans (unpack_pack hnormal)

/-- So it comes back from its float. -/
theorem toUInt64_ofNat {n : Nat} (h : n < 2 ^ 53) : (Float.ofNat n).toUInt64.toNat = n := by
  rcases Nat.eq_zero_or_pos n with rfl | hpos
  · rfl
  have hlog : n.log2 < 53 := (Nat.log2_lt hpos.ne').mpr h
  have hint : roundToInt .positive (n * 2 ^ (52 - n.log2)) (n.log2 - 52) = n := by
    have hdown : ((n.log2 : Int) - 52 - 0).toNat = 0 := by omega
    have hup : (0 - ((n.log2 : Int) - 52)).toNat = 52 - n.log2 := by omega
    simp only [roundToInt, decreaseExponent, hdown, Nat.shiftLeft_zero]
    simp only [shiftToExponent, Int.natCast_zero, Int.sub_zero, hup]
    exact congrArg (fun em : ExtendedMantissa => (em.mantissa : Int)) (shiftRight_mul n _)
  have hvalue : (Float.ofNat n).toUInt64 = UInt64.ofNatClamp n := by
    show UnpackedFloat.toUInt64 (Float.ofNat n).toModel.unpack = _
    rw [unpack_ofNat hpos h]
    show UInt64.ofNatClamp (roundToInt .positive (n * 2 ^ (52 - n.log2)) (n.log2 - 52)).toNat = _
    rw [hint, Int.toNat_natCast]
  have hsize : n < UInt64.size := h.trans (by decide)
  rw [hvalue, UInt64.ofNatClamp, dif_pos hsize]
  rfl

theorem ofScientific_eq {n : Nat} (hpos : 0 < n) (h : n < 2 ^ 64) :
    ofScientific .binary64 n 0 =
      roundWithAccuracy .binary64 .positive (n * 2 ^ 53) (-53) .exact := by
  have hlog : n.log2 < 64 := (Nat.log2_lt hpos.ne').mpr h
  have hsmall : ¬ (0 : Int) < -((2 ^ 11 : Int) + n.log2) := by omega
  rw [ofScientific, dif_neg hpos.ne', if_neg (by decide), if_neg hsmall, if_pos (by decide)]
  show roundWithAccuracy .binary64 .positive (n <<< 53 * 1) (-53) .exact = _
  rw [Nat.mul_one, Nat.shiftLeft_eq]

/-- Every whole number of 64 bits has a finite float. -/
theorem isFinite_ofNat {n : Nat} (h : n < 2 ^ 64) : (Float.ofNat n).isFinite = true := by
  rcases Nat.eq_zero_or_pos n with rfl | hpos
  · rfl
  by_cases hexact : n < 2 ^ 53
  · show (Float.ofNat n).toModel.unpack.isFinite = true
    rw [unpack_ofNat hpos hexact]
    rfl
  · rw [ofNat_eq_ofScientific (Nat.le_of_not_lt hexact)]
    show (UnpackedFloat.unpack .binary64
      (pack .binary64 (ofScientific .binary64 n 0))).isFinite = true
    rw [ofScientific_eq hpos h]
    exact isFinite_roundWithAccuracy _ (by omega) (by decide)

/-- Every whole number that is kept exactly has a finite float. -/
theorem isFinite_toFloat {n : Int} (h : Number.InRange n) :
    (Number.int n).toFloat.isFinite = true := by
  obtain ⟨hleast, hmost⟩ := h
  rw [Number.minInt] at hleast
  rw [Number.maxInt] at hmost
  cases n with
  | ofNat n => exact isFinite_ofNat (by simp only [Int.ofNat_eq_natCast] at hmost; omega)
  | negSucc n => exact isFinite_neg (isFinite_ofNat (by omega))

end Workflow.Decimal
