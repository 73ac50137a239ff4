import Mathlib.Tactic.SplitIfs
import SpindleLink.Frame.Status

/-! The written form of a status frame. Bytes decode exactly when they are the sealed form of five
digits and an indicator byte, and what they decode to are those digits and that byte. -/

namespace SpindleLink
namespace Status

/-- A byte that one place of the display can show. -/
def IsDigit (d : UInt8) : Prop := d ≤ 9

instance (d : UInt8) : Decidable (IsDigit d) := inferInstanceAs (Decidable (d ≤ 9))

def shown (ds : Bytes) (i : UInt8) : Status where
  digits := ds.map fun d => (d.toNat : Int)
  indicators := i.toNat
  raw := sealed ds i

@[simp] theorem length_sealed (ds : Bytes) (i : UInt8) : (sealed ds i).length = ds.length + 8 := by
  simp [sealed, fixed]

theorem sealed_five (d₁ d₂ d₃ d₄ d₅ i : UInt8) :
    sealed [d₁, d₂, d₃, d₄, d₅] i =
      [lead, mark, d₁, d₂, d₃, d₄, d₅, i, 0x01, 0x00,
        (Seal.of [mark, d₁, d₂, d₃, d₄, d₅, i, 0x01, 0x00]).xor,
        (Seal.of [mark, d₁, d₂, d₃, d₄, d₅, i, 0x01, 0x00]).add, terminator] := rfl

theorem five_of_length {ds : Bytes} (h : ds.length = digitCount) :
    ∃ d₁ d₂ d₃ d₄ d₅, ds = [d₁, d₂, d₃, d₄, d₅] := by
  match ds, h with
  | [d₁, d₂, d₃, d₄, d₅], _ => exact ⟨d₁, d₂, d₃, d₄, d₅, rfl⟩

theorem any_above_nine {ds : Bytes} :
    ds.any (fun d => decide (9 < d)) = false ↔ ∀ d ∈ ds, IsDigit d := by
  simp [IsDigit, List.any_eq_false]

theorem decode_sealed {ds : Bytes} {i : UInt8} (hlen : ds.length = digitCount)
    (hds : ∀ d ∈ ds, IsDigit d) : decode (sealed ds i) = .ok (shown ds i) := by
  have hlow := any_above_nine.mpr hds
  obtain ⟨d₁, d₂, d₃, d₄, d₅, rfl⟩ := five_of_length hlen
  rw [shown, sealed_five]
  simp [decode, fixed, hlow]

/-- Nothing but a sealed form decodes. -/
theorem eq_sealed_of_decode {data : Bytes} {f : Status} (h : decode data = .ok f) :
    ∃ ds i, ds.length = digitCount ∧ (∀ d ∈ ds, IsDigit d) ∧ data = sealed ds i ∧
      f = shown ds i := by
  unfold decode at h
  split at h
  case h_2 => split_ifs at h
  case h_1 s m d₁ d₂ d₃ d₄ d₅ i p z x y e =>
    simp only at h
    split_ifs at h with he hl hs hd
    simp only [ne_eq, not_or, Decidable.not_not] at he hl hs
    obtain ⟨rfl, rfl, hfixed⟩ := hl
    obtain ⟨rfl, rfl⟩ : p = 0x01 ∧ z = 0x00 := by simpa [fixed] using hfixed
    subst he
    have hform : [lead, mark, d₁, d₂, d₃, d₄, d₅, i, 0x01, 0x00, x, y, terminator] =
        sealed [d₁, d₂, d₃, d₄, d₅] i := by rw [sealed_five, ← hs]
    refine ⟨[d₁, d₂, d₃, d₄, d₅], i, rfl, ?_, hform, ?_⟩
    · exact any_above_nine.mp (Bool.eq_false_iff.mpr hd)
    · rw [shown, ← hform]
      exact (Except.ok.inj h).symm

theorem decode_eq_ok_iff {data : Bytes} {f : Status} :
    decode data = .ok f ↔
      ∃ ds i, ds.length = digitCount ∧ (∀ d ∈ ds, IsDigit d) ∧ data = sealed ds i ∧
        f = shown ds i := by
  constructor
  · exact eq_sealed_of_decode
  · rintro ⟨ds, i, hlen, hds, rfl, rfl⟩
    exact decode_sealed hlen hds

theorem length_of_decode {data : Bytes} {f : Status} (h : decode data = .ok f) :
    data.length = FrameKind.status.size := by
  obtain ⟨ds, i, hlen, -, rfl, -⟩ := eq_sealed_of_decode h
  rw [length_sealed, hlen]
  rfl

theorem ends_of_decode {data : Bytes} {f : Status} (h : decode data = .ok f) :
    data[0]? = some lead ∧ data[1]? = some mark ∧ data[12]? = some terminator := by
  obtain ⟨ds, i, hlen, -, rfl, -⟩ := eq_sealed_of_decode h
  obtain ⟨d₁, d₂, d₃, d₄, d₅, rfl⟩ := five_of_length hlen
  rw [sealed_five]
  exact ⟨rfl, rfl, rfl⟩

theorem digit_of_decode {data : Bytes} {f : Status} (h : decode data = .ok f) {j : Nat}
    (h2 : 2 ≤ j) (h6 : j ≤ 6) : ∃ d, data[j]? = some d ∧ IsDigit d := by
  obtain ⟨ds, i, hlen, hds, rfl, -⟩ := eq_sealed_of_decode h
  obtain ⟨d₁, d₂, d₃, d₄, d₅, rfl⟩ := five_of_length hlen
  rw [sealed_five]
  match j, h2, h6 with
  | 2, _, _ => exact ⟨d₁, rfl, hds _ (by simp)⟩
  | 3, _, _ => exact ⟨d₂, rfl, hds _ (by simp)⟩
  | 4, _, _ => exact ⟨d₃, rfl, hds _ (by simp)⟩
  | 5, _, _ => exact ⟨d₄, rfl, hds _ (by simp)⟩
  | 6, _, _ => exact ⟨d₅, rfl, hds _ (by simp)⟩

/-- The byte that ends a frame is none of its first seven. -/
theorem not_terminator_of_decode {data : Bytes} {f : Status} (h : decode data = .ok f) {j : Nat}
    (hj : j ≤ 6) : data[j]? ≠ some terminator := by
  obtain ⟨hlead, hmark, -⟩ := ends_of_decode h
  match j with
  | 0 => simp [hlead, lead, terminator]
  | 1 => simp [hmark, mark, terminator]
  | j + 2 =>
    obtain ⟨d, hd, hlow⟩ := digit_of_decode h (Nat.le_add_left 2 j) hj
    rw [hd]
    rintro ⟨⟩
    exact absurd hlow (by decide)

end Status
end SpindleLink
