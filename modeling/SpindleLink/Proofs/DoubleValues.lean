import SpindleLink.Proofs.WaitBounds

/-! The value of a double, read off its bits, is the one that the comparisons of doubles go by. A
double is above zero just when its value is: what is no number is not. -/

namespace SpindleLink

open Float.Model (Format UnpackedFloat)
open Float.Model.UnpackedFloat (Sign)

namespace Binary64

def isNegative : Sign → Bool
  | .negative => true
  | .positive => false

def unpackedValue : UnpackedFloat → Value
  | .zero s => .finite (isNegative s) 0 (-1074)
  | .finite s m e _ => .finite (isNegative s) m e
  | .infinity s => .infinite (isNegative s)
  | .notANumber => .nan

def Value.Positive : Value → Prop
  | .finite negative mantissa _ => negative = false ∧ 0 < mantissa
  | .infinite negative => negative = false
  | .nan => False

section Fields

variable (b : BitVec 64)

theorem toNat_unpackMantissa :
    (@UnpackedFloat.unpackMantissa .binary64 b).toNat = b.toNat % Nat.pow 2 52 := by
  simp [UnpackedFloat.unpackMantissa, BitVec.extractLsb]

theorem toNat_unpackSign : (@UnpackedFloat.unpackSign .binary64 b).toNat = b.toNat / 2 ^ 63 := by
  have hbound := b.isLt
  change (b.extractLsb' 63 1).toNat = b.toNat / 2 ^ 63
  rw [BitVec.extractLsb'_toNat, Nat.shiftRight_eq_div_pow]
  omega

theorem isNegative_unpackSign :
    isNegative (Sign.ofBitVec (@UnpackedFloat.unpackSign .binary64 b)) =
      decide (Nat.pow 2 63 ≤ b.toNat) := by
  have hsign := toNat_unpackSign b
  have hbound := b.isLt
  unfold Sign.ofBitVec
  by_cases h : 2 ^ 63 ≤ b.toNat
  · rw [if_neg]
    · exact (decide_eq_true h).symm
    · simp only [← BitVec.toNat_inj, hsign, BitVec.toNat_ofNat]
      omega
  · rw [if_pos]
    · exact (decide_eq_false h).symm
    · simp only [← BitVec.toNat_inj, hsign, BitVec.toNat_ofNat]
      omega

theorem exponent_full : (@UnpackedFloat.unpackExponent .binary64 b).toNat = Nat.pow 2 11 - 1 ↔
    @UnpackedFloat.unpackExponent .binary64 b = -1#_ := by
  rw [← BitVec.toNat_inj]
  rfl

theorem exponent_zero : (@UnpackedFloat.unpackExponent .binary64 b).toNat = 0 ↔
    @UnpackedFloat.unpackExponent .binary64 b = 0#_ := by
  rw [← BitVec.toNat_inj]
  rfl

theorem mantissa_zero : (@UnpackedFloat.unpackMantissa .binary64 b).toNat = 0 ↔
    @UnpackedFloat.unpackMantissa .binary64 b = 0#_ := by
  rw [← BitVec.toNat_inj]
  rfl

theorem toNat_leadingOne (m : BitVec 52) : (1#1 ++ m).toNat = Nat.pow 2 52 + m.toNat := by
  rw [BitVec.toNat_append, ← Nat.shiftLeft_add_eq_or_of_lt m.isLt]
  rfl

end Fields

theorem value_eq_unpackedValue (x : Float) : value x = unpackedValue x.toModel.unpack := by
  change value x = unpackedValue (UnpackedFloat.unpack .binary64 x.toBits.toBitVec)
  generalize hb : x.toBits.toBitVec = b
  have hx : x.toBits.toNat = b.toNat := by rw [← hb]; rfl
  have hfield : _ = b.toNat / Nat.pow 2 52 % Nat.pow 2 11 := toNat_unpackExponent b
  unfold value
  simp only [hx, ← hfield, ← toNat_unpackMantissa, ← isNegative_unpackSign, exponent_full,
    exponent_zero, mantissa_zero]
  unfold UnpackedFloat.unpack
  dsimp only
  by_cases hfull : @UnpackedFloat.unpackExponent .binary64 b = -1#_
  · rw [if_pos hfull, if_pos hfull]
    by_cases hempty : @UnpackedFloat.unpackMantissa .binary64 b = 0#_
    · rw [if_pos hempty, if_pos hempty]
      rfl
    · rw [if_neg hempty, if_neg hempty]
      rfl
  · rw [if_neg hfull, if_neg hfull]
    by_cases hzero : @UnpackedFloat.unpackExponent .binary64 b = 0#_
    · rw [if_pos hzero, if_pos hzero]
      by_cases hnone : @UnpackedFloat.unpackMantissa .binary64 b = 0#_
      · rw [dif_pos hnone, hnone]
        rfl
      · have hexponent : (-1074 : Int) =
            (@UnpackedFloat.unpackExponent .binary64 b).toNat - (1023 + 52) + 1 := by
          rw [hzero]
          rfl
        rw [dif_neg hnone, hexponent]
        rfl
    · rw [if_neg hzero, if_neg hzero, ← toNat_leadingOne]
      rfl

theorem compare_zero (u : UnpackedFloat) :
    UnpackedFloat.compare (.zero .positive) u = some .lt ↔ (unpackedValue u).Positive := by
  cases u with
  | notANumber => exact iff_of_false nofun id
  | zero s => exact iff_of_false nofun fun hpos => absurd hpos.2 (Nat.lt_irrefl 0)
  | infinity s =>
    cases s with
    | positive => exact iff_of_true rfl rfl
    | negative => exact iff_of_false nofun nofun
  | finite s m e h =>
    cases s with
    | positive => exact iff_of_true rfl ⟨rfl, h⟩
    | negative => exact iff_of_false nofun fun hpos => nomatch hpos.1

theorem pos_iff (x : Float) : 0 < x ↔ (value x).Positive := by
  have hcompare : 0 < x ↔
      UnpackedFloat.compare (.zero .positive) x.toModel.unpack = some .lt := by
    change decide ((0 : Float).toModel.unpack.lt x.toModel.unpack = true) = true ↔ _
    rw [decide_eq_true_iff, UnpackedFloat.lt, beq_iff_eq]
    rfl
  rw [hcompare, compare_zero, value_eq_unpackedValue]

end Binary64
end SpindleLink
