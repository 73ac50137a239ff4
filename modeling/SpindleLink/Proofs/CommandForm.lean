import Mathlib.Tactic.SplitIfs
import SpindleLink.Command

/-! The written form of a command. What a frequency and a control byte are encoded into has nine
bytes, and these read back as the same frequency beside the same control byte. -/

namespace SpindleLink

@[simp] theorem byte?_toNat (b : UInt8) : byte? b.toNat = .ok b := by
  have hb : (b.toNat : Int) < 256 := by
    have := b.toNat_lt
    omega
  simp [byte?, hb]

theorem byte?_of_range {n : Int} (h : 0 ≤ n ∧ n ≤ 0xFF) : byte? n = .ok (UInt8.ofNat n.toNat) := by
  have hn : 0 ≤ n ∧ n < 256 := by omega
  simp [byte?, hn]

theorem toNat_ofNat_of_range {n : Int} (h : 0 ≤ n ∧ n ≤ 0xFF) :
    ((UInt8.ofNat n.toNat).toNat : Int) = n := by
  have hn : n.toNat < 256 := by omega
  rw [UInt8.toNat_ofNat_of_lt' hn]
  omega

theorem eq_of_frequencyOf {rpm n : Int} (h : frequencyOf rpm = .ok n) : n = rpm / 60 * 100 := by
  unfold frequencyOf at h
  split_ifs at h
  exact (Except.ok.inj h).symm

namespace Command

/-- The nine bytes of a frame around its two bytes of frequency and its control byte. -/
def sealed (d₁ d₂ control : UInt8) : Bytes :=
  let covered := [d₁, d₂, control, tail]
  [lead, mark] ++ covered ++ [(Seal.of covered).xor, (Seal.of covered).add, terminator]

def shown (d₁ d₂ control : UInt8) : Command where
  frequency := d₁.toNat * 256 + d₂.toNat
  control := control.toNat
  xorByte := (Seal.of [d₁, d₂, control, tail]).xor.toNat
  addByte := (Seal.of [d₁, d₂, control, tail]).add.toNat

theorem ofBytes_sealed (d₁ d₂ control : UInt8) :
    ofBytes (sealed d₁ d₂ control) = .ok (shown d₁ d₂ control) := by
  simp [sealed, ofBytes, shown]

theorem eq_shown_of_encode {frequency control : Int} {frame : Command}
    (h : encode frequency control = .ok frame) :
    ∃ d₁ d₂ c, frame = shown d₁ d₂ c ∧ frame.toBytes = .ok (sealed d₁ d₂ c) ∧
      frame.frequency = frequency ∧ frame.control = control := by
  unfold encode at h
  split_ifs at h with hfrequency hcontrol
  have hhigh : 0 ≤ frequency / 256 ∧ frequency / 256 ≤ 0xFF := by omega
  have hlow : 0 ≤ frequency % 256 ∧ frequency % 256 ≤ 0xFF := by omega
  have hmod : frequency / 256 % 256 = frequency / 256 := by omega
  have hsum : frequency = frequency / 256 * 256 + frequency % 256 := by omega
  obtain rfl := Except.ok.inj h
  refine ⟨UInt8.ofNat (frequency / 256).toNat, UInt8.ofNat (frequency % 256).toNat,
    UInt8.ofNat control.toNat, ?_, ?_, rfl, rfl⟩
  · simp only [shown, toNat_ofNat_of_range hhigh, toNat_ofNat_of_range hlow,
      toNat_ofNat_of_range hcontrol, ← hsum]
  · simp only [toBytes, covered, high, low, hmod, byte?_of_range hcontrol, byte?_toNat]
    rfl

/-- The bytes of an encoded frame read back as the frame. -/
theorem ofBytes_of_encode {frequency control : Int} {frame : Command} {data : Bytes}
    (h : encode frequency control = .ok frame) (hdata : frame.toBytes = .ok data) :
    ofBytes data = .ok frame ∧ frame.frequency = frequency ∧ frame.control = control := by
  obtain ⟨d₁, d₂, c, hshown, hbytes, hfields⟩ := eq_shown_of_encode h
  have hsealed : data = sealed d₁ d₂ c := Except.ok.inj (hdata.symm.trans hbytes)
  rw [hsealed, hshown]
  exact ⟨ofBytes_sealed d₁ d₂ c, hshown ▸ hfields⟩

theorem encode_of_frame {frequency control : Int} {frame : Command}
    (h : Command.frame frequency control = .ok frame) : encode frequency control = .ok frame := by
  unfold Command.frame at h
  cases hencode : encode frequency control with
  | error r => simp [hencode, Except.mapError] at h
  | ok f => simpa [hencode, Except.mapError] using h

theorem encode_of_speed {rpm control : Int} {frame : Command}
    (h : speed rpm control = .ok frame) : encode (rpm / 60 * 100) control = .ok frame := by
  unfold speed at h
  cases hrpm : frequencyOf rpm with
  | error limit =>
    rw [hrpm] at h
    cases h
  | ok n =>
    rw [hrpm] at h
    rw [← eq_of_frequencyOf hrpm]
    exact encode_of_frame h

theorem speed_of_limit {rpm control : Int} {limit : SpeedLimit}
    (h : frequencyOf rpm = .error limit) : speed rpm control = .error (.speed limit) := by
  simp only [speed, h]
  rfl

end Command
end SpindleLink
