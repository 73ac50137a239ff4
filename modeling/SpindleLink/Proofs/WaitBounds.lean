import Mathlib.Algebra.Group.Nat.Defs
import SpindleLink.Proofs.Lifecycle
import SpindleLink.Proofs.Sending

/-! Bounds on the waits of a link. A quotient of integers of moderate size is a double of moderate
size, products of such doubles are finite, and so is the ceiling of a product. Whatever the speed of
the port is, the time that bytes hold the line can be computed and waited for. -/

namespace SpindleLink

open Float.Model (Format UnpackedFloat)
open Float.Model.UnpackedFloat (ExtendedMantissa Accuracy Sign)

namespace Binary64

/-- The field of a double that holds its exponent. -/
def scale (x : Float) : Nat := x.toBits.toNat / 2 ^ 52 % 2 ^ 11

/-- An unpacked double that is finite, with bounds on its mantissa and its exponent. -/
def Bounded (size : Nat) (top : Int) : UnpackedFloat → Prop
  | .zero _ => True
  | .finite _ m e _ => m < 2 ^ size ∧ e ≤ top
  | _ => False

theorem toNat_unpackExponent (b : BitVec 64) :
    (@UnpackedFloat.unpackExponent .binary64 b).toNat = b.toNat / 2 ^ 52 % 2 ^ 11 := by
  simp [UnpackedFloat.unpackExponent, BitVec.extractLsb, Nat.shiftRight_eq_div_pow]

theorem Bounded.ite {size : Nat} {top : Int} {c : Prop} [Decidable c] {u v : UnpackedFloat}
    (hu : c → Bounded size top u) (hv : ¬ c → Bounded size top v) :
    Bounded size top (if c then u else v) := by
  by_cases h : c
  · rw [if_pos h]
    exact hu h
  · rw [if_neg h]
    exact hv h

theorem Bounded.dite {size : Nat} {top : Int} {c : Prop} [Decidable c] {u : c → UnpackedFloat}
    {v : ¬ c → UnpackedFloat} (hu : ∀ h, Bounded size top (u h))
    (hv : ∀ h, Bounded size top (v h)) :
    Bounded size top (if h : c then u h else v h) := by
  by_cases h : c
  · rw [dif_pos h]
    exact hu h
  · rw [dif_neg h]
    exact hv h

theorem bounded_unpack {b : BitVec 64} {k : Nat} (h : b.toNat / 2 ^ 52 % 2 ^ 11 ≤ k)
    (hk : k < 2047) : Bounded 53 (k - 1074) (UnpackedFloat.unpack .binary64 b) := by
  rw [← toNat_unpackExponent] at h
  unfold UnpackedFloat.unpack
  dsimp only
  refine .ite (fun hfull => ?full) fun _ => .ite (fun hzero => .dite ?empty ?subnormal) ?normal
  case full =>
    have hfield : (@UnpackedFloat.unpackExponent .binary64 b).toNat = 2047 := by
      rw [hfull]
      rfl
    omega
  case empty => exact fun _ => trivial
  case subnormal =>
    refine fun _ => ⟨Nat.lt_trans (BitVec.isLt _) (by decide : 2 ^ 52 < 2 ^ 53), ?_⟩
    rw [hzero]
    change (0 : Int) - (1023 + 52) + 1 ≤ _
    omega
  case normal =>
    refine fun _ => ⟨(1#1 ++ @UnpackedFloat.unpackMantissa .binary64 b).isLt, ?_⟩
    change (_ : Int) - (1023 + 52) ≤ _
    omega

theorem mantissa_shiftRight_le (em : ExtendedMantissa) (k : Nat) :
    (em >>> k).mantissa ≤ em.mantissa := by
  induction k with
  | zero => exact Nat.le_refl _
  | succ k ih => exact Nat.le_trans (Nat.div_le_self _ 2) ih

theorem roundedMantissa_le (em : ExtendedMantissa) : em.roundedMantissa ≤ em.mantissa + 1 := by
  rcases em with ⟨m, _ | _, _ | _⟩ <;>
    simp only [ExtendedMantissa.roundedMantissa, ExtendedMantissa.accuracy,
      Accuracy.roundToNearestEven] <;> omega

theorem log2_le {m k : Nat} (h : m < 2 ^ (k + 1)) : m.log2 ≤ k := by
  by_cases hm : m = 0
  · simp [hm]
  · exact Nat.le_of_lt_succ ((Nat.log2_lt hm).mpr h)

/-- The exponent rises by no more than the mantissa is too long. -/
theorem shift_le {m : Nat} {e top : Int} {k : Nat} (hm : m < 2 ^ (k + 1)) (hk : 52 ≤ k)
    (he : e ≤ top) (hleast : -1074 ≤ top) :
    (UnpackedFloat.shiftToTargetExponent .binary64 m e .exact).1.mantissa ≤ m ∧
      (UnpackedFloat.shiftToTargetExponent .binary64 m e .exact).2 ≤ top + k - 52 := by
  have hlog := log2_le hm
  refine ⟨mantissa_shiftRight_le _ _, ?_⟩
  change e + (((max ((m.log2 : Int) + 1 + e - 53) (-1074)) - e).toNat : Int) ≤ _
  omega

/-- The mantissa is shifted, rounded up by at most one, and shifted again. -/
theorem bounded_round (s : Sign) {m : Nat} {e top : Int} (hm : m < 2 ^ 106) (he : e ≤ top)
    (hleast : -1074 ≤ top) :
    Bounded 107 (top + 107) (UnpackedFloat.roundWithAccuracy .binary64 s m e .exact) := by
  obtain ⟨hcut, hfirst⟩ := shift_le hm (by decide) he hleast
  unfold UnpackedFloat.roundWithAccuracy
  generalize UnpackedFloat.shiftToTargetExponent .binary64 m e .exact = shifted at hcut hfirst ⊢
  obtain ⟨em, e₁⟩ := shifted
  dsimp only at hcut hfirst ⊢
  have hrounded : em.roundedMantissa < 2 ^ (106 + 1) := by
    have := roundedMantissa_le em
    omega
  obtain ⟨hcut', hsecond⟩ := shift_le hrounded (by decide) hfirst (by omega)
  exact .dite (fun _ => trivial) fun _ => ⟨Nat.lt_of_le_of_lt hcut' hrounded, by omega⟩

theorem bounded_mul {u v : UnpackedFloat} {i j : Int} (hu : Bounded 53 i u) (hv : Bounded 53 j v)
    (hleast : -1074 ≤ i + j) : Bounded 107 (i + j + 107) (UnpackedFloat.mul .binary64 u v) := by
  cases u with
  | infinity s => cases hu
  | notANumber => cases hu
  | zero s =>
    cases v with
    | infinity s => cases hv
    | notANumber => cases hv
    | zero s => trivial
    | finite s m e h => trivial
  | finite s m e h =>
    cases v with
    | infinity s => cases hv
    | notANumber => cases hv
    | zero s => trivial
    | finite s' m' e' h' =>
      obtain ⟨hm, he⟩ := hu
      obtain ⟨hm', he'⟩ := hv
      have hproduct : m * m' < 2 ^ 106 :=
        Nat.lt_of_lt_of_eq (Nat.mul_lt_mul'' hm hm') (by decide)
      exact bounded_round _ hproduct (Int.add_le_add he he') hleast

theorem field_pack {u : UnpackedFloat} {size : Nat} {top : Int} {k : Nat} (h : Bounded size top u)
    (hk : top + 1075 ≤ k) (hfit : k < 2047) :
    (UnpackedFloat.pack .binary64 u).toNat / 2 ^ 52 % 2 ^ 11 ≤ k := by
  have hpacked {s : Sign} {f : BitVec 11} {m : BitVec 52} (hf : f.toNat ≤ k) :
      (UnpackedFloat.packComponents .binary64 s f m).toNat / 2 ^ 52 % 2 ^ 11 ≤ k := by
    rw [← toNat_unpackExponent, UnpackedFloat.unpackExponent_packComponents]
    exact hf
  cases u with
  | infinity s => cases h
  | notANumber => cases h
  | zero s => exact hpacked (Nat.zero_le k)
  | finite s m e hm =>
    have hbiased : (e + (1023 : Nat) + (52 : Nat)).toNat ≤ k := by
      have := h.2
      omega
    unfold UnpackedFloat.pack
    dsimp only
    split
    next hlarge =>
      change 2048 ≤ (e + (1023 : Nat) + (52 : Nat)).toNat + 1 at hlarge
      omega
    next =>
      split
      · exact hpacked (Nat.le_trans (Nat.mod_le _ _) hbiased)
      · exact hpacked (Nat.zero_le k)

theorem scale_mul {x y : Float} {k n : Nat} (hx : scale x ≤ k) (hy : scale y ≤ n)
    (hk : k < 2047) (hn : n < 2047) (hleast : 1074 ≤ k + n) (hmost : k + n ≤ 3000) :
    scale (x * y) ≤ k + n - 966 :=
  field_pack (bounded_mul (bounded_unpack hx hk) (bounded_unpack hy hn) (by omega)) (by omega)
    (by omega)

theorem scale_ofParts (negative : Bool) {bits k : Nat} (h : bits < (k + 1) * 2 ^ 52)
    (hk : k < 2046) : scale (ofParts negative bits) ≤ k + 1 := by
  refine field_pack (bounded_unpack (k := k) ?_ (by omega)) (by omega) (by omega)
  change (bits + if negative then 2 ^ 63 else 0) % 2 ^ 64 / 2 ^ 52 % 2 ^ 11 ≤ k
  cases negative <;> simp only [Bool.false_eq_true, if_false, if_true] <;> omega

theorem value_of_scale {x : Float} {k : Nat} (h : scale x ≤ k) (hk : k < 2047) :
    ∃ negative mantissa exponent, value x = .finite negative mantissa exponent ∧
      mantissa < 2 ^ 53 ∧ exponent ≤ (k : Int) - 1074 := by
  have hfraction : x.toBits.toNat % Nat.pow 2 52 < 2 ^ 52 := Nat.mod_lt _ (by decide)
  change x.toBits.toNat / Nat.pow 2 52 % Nat.pow 2 11 ≤ k at h
  unfold value
  dsimp only
  split
  next hfull =>
    change _ = 2047 at hfull
    omega
  next =>
    split
    next => exact ⟨_, _, _, rfl, by omega, by omega⟩
    next =>
      refine ⟨_, _, _, rfl, ?_, by omega⟩
      change 2 ^ 52 + _ < 2 ^ 53
      omega

theorem natAbs_ceiling_lt (negative : Bool) {mantissa : Nat} {exponent : Int} (n : Nat)
    (hmantissa : mantissa < 2 ^ 53) (hexponent : exponent ≤ n) :
    (ceiling negative mantissa exponent).natAbs < 2 ^ (n + 53) := by
  have hsigned : (if negative then -(mantissa : Int) else mantissa).natAbs = mantissa := by
    cases negative <;> simp
  unfold ceiling
  dsimp only
  split
  · rw [Int.natAbs_mul, hsigned]
    calc mantissa * 2 ^ exponent.toNat ≤ mantissa * 2 ^ n :=
          Nat.mul_le_mul_left _ (Nat.pow_le_pow_right (by decide) (by omega))
      _ < 2 ^ 53 * 2 ^ n := Nat.mul_lt_mul_of_pos_right hmantissa (Nat.two_pow_pos n)
      _ = 2 ^ (n + 53) := by rw [Nat.mul_comm, Nat.pow_add]
  · have hdiv := Int.natAbs_ediv_le_natAbs (-(if negative then -(mantissa : Int) else mantissa))
      (Nat.pow 2 (-exponent).toNat)
    rw [Int.natAbs_neg, hsigned] at hdiv
    rw [Int.natAbs_neg]
    calc _ ≤ mantissa := hdiv
      _ < 2 ^ 53 := hmantissa
      _ ≤ 2 ^ (n + 53) := Nat.pow_le_pow_right (by decide) (by omega)

theorem roundDiv_le {a b n : Nat} (h : a < b * n) : roundDiv a b ≤ n := by
  have hdiv : a / b < n := Nat.div_lt_of_lt_mul h
  unfold roundDiv
  split <;> omega

theorem quotientBits_le (a : Nat) {b : Nat} (hb : 0 < b) :
    quotientBits a b ≤ (a.log2 + 1078) * 2 ^ 52 := by
  have hbinade : (a.log2 : Int) - b.log2 - 1 ≤ binade a b ∧ binade a b ≤ a.log2 - b.log2 := by
    unfold binade
    dsimp only
    split <;> omega
  unfold quotientBits
  dsimp only
  generalize he : max (binade a b - 52) (-1074) = e
  have hscale : (e + 1074).toNat ≤ a.log2 + 1074 := by omega
  have hround : roundDiv (a * 2 ^ (-e).toNat) (b * 2 ^ e.toNat) ≤ 2 ^ 54 := by
    apply roundDiv_le
    calc a * 2 ^ (-e).toNat < 2 ^ (a.log2 + 1) * 2 ^ (-e).toNat :=
          Nat.mul_lt_mul_of_pos_right Nat.lt_log2_self (Nat.two_pow_pos _)
      _ = 2 ^ (a.log2 + 1 + (-e).toNat) := (Nat.pow_add _ _ _).symm
      _ ≤ 2 ^ (b.log2 + e.toNat + 54) := Nat.pow_le_pow_right (by decide) (by omega)
      _ = 2 ^ b.log2 * 2 ^ e.toNat * 2 ^ 54 := by rw [Nat.pow_add, Nat.pow_add]
      _ ≤ b * 2 ^ e.toNat * 2 ^ 54 := Nat.mul_le_mul_right _
          (Nat.mul_le_mul_right _ (Nat.log2_self_le (Nat.ne_of_gt hb)))
  calc (e + 1074).toNat * 2 ^ 52 + roundDiv (a * 2 ^ (-e).toNat) (b * 2 ^ e.toNat)
      ≤ (a.log2 + 1074) * 2 ^ 52 + 2 ^ 54 :=
        Nat.add_le_add (Nat.mul_le_mul_right _ hscale) hround
    _ = (a.log2 + 1078) * 2 ^ 52 := by omega

theorem quotient?_scale {n d : Int} {k : Nat} (hn : n.natAbs < 2 ^ (k + 1)) (hd : d ≠ 0)
    (hk : k < 900) : ∃ x, quotient? n d = some x ∧ scale x ≤ k + 1079 := by
  have hlog := log2_le hn
  have hbits : (if n = 0 then 0 else quotientBits n.natAbs d.natAbs) < (k + 1078 + 1) * 2 ^ 52 := by
    split
    · omega
    · have := quotientBits_le n.natAbs (Int.natAbs_pos.mpr hd)
      omega
  have hfits : (if n = 0 then 0 else quotientBits n.natAbs d.natAbs) <
      Nat.pow 2 63 - Nat.pow 2 52 := by
    refine Nat.lt_trans hbits ?_
    change _ < 2 ^ 63 - 2 ^ 52
    omega
  exact ⟨_, if_pos hfits, scale_ofParts _ hbits (by omega)⟩

end Binary64

theorem Number.timesCeiling_real {x : Float} (hx : Binary64.scale x ≤ 1100) {n : Int}
    (hn : n.natAbs < 2 ^ 20) :
    ∃ up, timesCeiling n (.real x) = .ok up ∧ up.natAbs < 2 ^ 233 := by
  obtain ⟨factor, hfactor, hscale⟩ :=
    Binary64.quotient?_scale (d := 1) hn (by decide) (by decide)
  have hproduct := Binary64.scale_mul hscale hx (by decide) (by decide) (by decide) (by decide)
  obtain ⟨negative, mantissa, exponent, hvalue, hmantissa, hexponent⟩ :=
    Binary64.value_of_scale hproduct (by decide)
  have hto : toFloat (.whole n) = .ok factor := by
    rw [toFloat, Binary64.ofInt?, hfactor]
  refine ⟨Binary64.ceiling negative mantissa exponent, ?_,
    Binary64.natAbs_ceiling_lt negative 180 hmantissa (by omega)⟩
  simp only [timesCeiling, hto, bind, Except.bind, hvalue]

theorem ofMillis?_isSome {ms : Int} (h : ms.natAbs < 2 ^ 233) :
    (TimeScale.ofMillis? ms : Option Float).isSome = true := by
  obtain ⟨t, ht, -⟩ := Binary64.quotient?_scale (d := 1000) h (by decide) (by decide)
  exact Option.isSome_iff_exists.mpr ⟨t, ht⟩

theorem characterTime_scale {baud : Int} (hbaud : 0 < baud) :
    ∃ x, characterTime baud = .ok x ∧ Binary64.scale x ≤ 1100 := by
  obtain ⟨x, hx, hscale⟩ := Binary64.quotient?_scale (n := 10000) (k := 13) (by decide)
    (Int.ne_of_gt hbaud) (by decide)
  refine ⟨x, ?_, Nat.le_trans hscale (by decide)⟩
  rw [characterTime, quotient, if_neg (Int.ne_of_gt hbaud), hx]

/-- The waits of a transmission lie within the scale of time, whatever the speed of the port. -/
theorem Link.Built.timed {link : Link} (h : link.Built) {length : Nat} (hlength : length < 2 ^ 20) :
    link.drive.line.Timed Float length := by
  obtain ⟨x, htime, hline⟩ := h.byteTime
  obtain ⟨x', htime', hscale⟩ := characterTime_scale h.checked.baud
  obtain rfl : x = x' := Except.ok.inj (htime.symm.trans htime')
  obtain ⟨ms, hms, hsize⟩ := Number.timesCeiling_real hscale (n := length) hlength
  refine ⟨ofMillis?_isSome (by decide), ofMillis?_isSome (by decide), ms, ?_,
    ofMillis?_isSome hsize⟩
  rw [Line.holdTime, hline, hms]
  rfl

end SpindleLink
