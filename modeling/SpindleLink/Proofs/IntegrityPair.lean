import Mathlib.Algebra.BigOperators.Group.List.Basic
import Mathlib.Data.Nat.Bitwise
import SpindleLink.Proofs.ErrorDetection

/-! What the integrity pair is good for. Its sum counts the lowest bit of the bytes twice, once in
the bytes and once in their exclusive or, so it is even and carries seven bits at most. The pair
takes no notice of the order of the bytes, but of every byte that is replaced. -/

namespace SpindleLink

def values (data : Bytes) : List Nat := data.map UInt8.toNat

@[simp] theorem values_cons (b : UInt8) (data : Bytes) :
    values (b :: data) = b.toNat :: values data := rfl

theorem byteSum_eq (data : Bytes) : byteSum data = (values data).sum := by
  induction data with
  | nil => rfl
  | cons b data ih => rw [byteSum_cons, values_cons, List.sum_cons, ih, Int.natCast_add]

theorem toNat_xorOf (data : Bytes) : (xorOf data).toNat = (values data).foldl (· ^^^ ·) 0 := by
  rw [xorOf, values, List.foldl_map, ← UInt8.toNat_zero]
  exact (List.foldl_hom UInt8.toNat fun a b => (UInt8.toNat_xor a b).symm).symm

/-- Combining the bytes keeps the lowest bit of their sum. -/
theorem xorOf_mod_two (data : Bytes) : (xorOf data).toNat % 2 = (values data).sum % 2 := by
  induction data with
  | nil => rfl
  | cons b data ih =>
    rw [xorOf_cons, UInt8.toNat_xor, values_cons, List.sum_cons, Nat.xor_mod_two_eq, Nat.add_mod,
      ih, ← Nat.add_mod]

theorem xorOf_perm {data other : Bytes} (h : data.Perm other) : xorOf data = xorOf other :=
  h.foldl_eq 0

theorem xorOf_set_ne {data : Bytes} {i : Nat} (hi : i < data.length) {b : UInt8}
    (hb : data[i] ≠ b) : xorOf (data.set i b) ≠ xorOf data := by
  intro hxor
  have honce : OneByte (data.set i b) data :=
    ⟨i, fun j hj => List.getElem?_set_ne (Ne.symm hj)⟩
  have hsame := eq_of_xorOf (List.length_set ..) (.of_oneByte honce) hxor
  have hbyte : (data.set i b)[i]? = data[i]? := by rw [hsame]
  rw [List.getElem?_set_self hi, List.getElem?_eq_getElem hi] at hbyte
  exact hb (Option.some.inj hbyte).symm

namespace Seal

theorem toNat_add (data : Bytes) :
    (Seal.of data).add.toNat = ((values data).sum + (Seal.of data).xor.toNat) % 256 := by
  have hcut : ((byteSum data + ((xorOf data).toNat : Int)) % 256).toNat =
      ((values data).sum + (xorOf data).toNat) % 256 := by
    rw [byteSum_eq]
    omega
  rw [Seal.of, addOf, hcut, UInt8.toNat_ofNat']
  exact Nat.mod_mod _ _

theorem even_add (data : Bytes) : ∃ k < 128, (Seal.of data).add.toNat = 2 * k := by
  -- The lowest bit is counted twice, and 256 is even.
  have hbit := xorOf_mod_two data
  refine ⟨(Seal.of data).add.toNat / 2, ?_, ?_⟩
  · have := (Seal.of data).add.toNat_lt
    omega
  · rw [toNat_add]
    simp only [Seal.of]
    omega

theorem of_perm {data other : Bytes} (h : data.Perm other) : Seal.of data = Seal.of other := by
  have hsum : byteSum data = byteSum other := by
    rw [byteSum_eq, byteSum_eq, values, values, (h.map UInt8.toNat).sum_eq]
  rw [Seal.of, Seal.of, addOf, addOf, hsum, xorOf_perm h]

/-- The pair of any bytes is the exclusive or of their values and the sum with it, cut to a byte.
The sum is even. Bytes in another order have the same pair, and bytes of which one was replaced have
another exclusive or. -/
theorem strength (data : Bytes) :
    (Seal.of data).xor.toNat = (values data).foldl (· ^^^ ·) 0 ∧
      (values data).foldl (· ^^^ ·) 0 ≤ 255 ∧
      (Seal.of data).add.toNat = ((values data).sum + (values data).foldl (· ^^^ ·) 0) % 256 ∧
      (∃ k < 128, (Seal.of data).add.toNat = 2 * k) ∧
      (∀ other, data.Perm other → Seal.of other = Seal.of data) ∧
      ∀ i b, (hi : i < data.length) → data[i] ≠ b →
        (Seal.of (data.set i b)).xor ≠ (Seal.of data).xor := by
  have hxor : (Seal.of data).xor.toNat = (values data).foldl (· ^^^ ·) 0 := toNat_xorOf data
  refine ⟨hxor, ?_, ?_, even_add data, fun other h => (of_perm h).symm, ?_⟩
  · rw [← hxor]
    exact Nat.le_of_lt_succ (Seal.of data).xor.toNat_lt
  · rw [← hxor, toNat_add]
  · intro i b hi hb
    exact xorOf_set_ne hi hb

/-- Four bytes in another order, and with the last replaced by one that differs in the highest
bit. -/
theorem strength_four :
    let data : Bytes := [0x09, 0xC4, 0x01, 0x01]
    Seal.of [0x01, 0x01, 0xC4, 0x09] = Seal.of data ∧
      (Seal.of (data.set 3 0x81)).xor ≠ (Seal.of data).xor := by
  intro data
  obtain ⟨-, -, -, -, hperm, hreplaced⟩ := strength data
  exact ⟨hperm _ (by decide), hreplaced 3 0x81 (by decide) (by decide)⟩

end Seal
end SpindleLink
