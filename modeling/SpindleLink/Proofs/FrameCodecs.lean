import SpindleLink.Fault
import SpindleLink.Proofs.CommandForm
import SpindleLink.Proofs.StatusForm

/-! Writing frames and reading them. Each kind of frame is read from exactly the bytes that writing
gives, and what is read is what was written. Bytes that are no frame are told apart by their number
alone: too few are a cut frame, any others a malformed one. -/

namespace SpindleLink

/-- A reader of frames that takes exactly what was written, and tells cut frames, with the bytes
that did arrive, from malformed ones. -/
structure FrameKind.ReadsExactly {α : Type} (kind : FrameKind) (read : Bytes → Except Defect α)
    (Written : Bytes → α → Prop) : Prop where
  read_iff : ∀ data a, read data = .ok a ↔ Written data a
  cut : ∀ data, data.length < kind.size →
    ∃ d, read data = .error d ∧ (Fault.defect d).kind = .cutFrame ∧
      (Fault.defect d).received = data
  malformed : ∀ data d, kind.size ≤ data.length → read data = .error d →
    (Fault.defect d).kind = .badFrame

def IsByte (n : Int) : Prop := 0 ≤ n ∧ n ≤ 0xFF

instance (n : Int) : Decidable (IsByte n) := inferInstanceAs (Decidable (_ ∧ _))

theorem isByte_toNat (b : UInt8) : IsByte b.toNat := by
  have := b.toNat_lt
  constructor <;> omega

theorem byte?_eq_ok_iff {n : Int} {b : UInt8} : byte? n = .ok b ↔ n = b.toNat := by
  constructor
  · intro h
    unfold byte? at h
    split_ifs at h with hn
    rw [← Except.ok.inj h, toNat_ofNat_of_range (by omega)]
  · rintro rfl
    exact byte?_toNat b

theorem isByte_iff {n : Int} : IsByte n ↔ ∃ b, byte? n = .ok b := by
  constructor
  · exact fun h => ⟨_, byte?_of_range h⟩
  · rintro ⟨b, h⟩
    rw [byte?_eq_ok_iff.mp h]
    exact isByte_toNat b

theorem exists_error_iff {ε α : Type} {x : Except ε α} :
    (∃ e, x = .error e) ↔ ¬ ∃ a, x = .ok a := by
  cases x <;> simp

theorem refused_iff {α : Type} {x : Except Rejection α} :
    (∃ r, x = .error r ∧ (Fault.rejected r).kind = .value) ↔ ∃ r, x = .error r :=
  ⟨fun ⟨r, h, _⟩ => ⟨r, h⟩, fun ⟨r, h⟩ => ⟨r, h, rfl⟩⟩

theorem bind_eq_ok_iff {ε α β : Type} {x : Except ε α} {f : α → Except ε β} {b : β} :
    (x >>= f) = .ok b ↔ ∃ a, x = .ok a ∧ f a = .ok b := by
  cases x <;> simp [bind, Except.bind]

namespace Status

/-- A display and an indicator byte that a frame can carry. -/
structure Writable (ds : List Int) (i : Int) : Prop where
  five : ds.length = digitCount
  digits : ∀ d ∈ ds, 0 ≤ d ∧ d ≤ 9
  indicators : IsByte i

def shownDigits (bs : Bytes) : List Int := bs.map fun b => (b.toNat : Int)

theorem shownDigits_ofNat {ds : List Int} (h : ∀ d ∈ ds, 0 ≤ d ∧ d ≤ 9) :
    shownDigits (ds.map fun d => UInt8.ofNat d.toNat) = ds := by
  have hsame : ∀ d ∈ ds, ((UInt8.ofNat d.toNat).toNat : Int) = d := by
    intro d hd
    have hrange := h d hd
    exact toNat_ofNat_of_range (by omega)
  rw [shownDigits, List.map_map]
  exact (List.map_congr_left hsame).trans (List.map_id ds)

theorem ofNat_shownDigits (bs : Bytes) :
    (shownDigits bs).map (fun d => UInt8.ofNat d.toNat) = bs := by
  rw [shownDigits, List.map_map]
  exact (List.map_congr_left fun b _ => by simp).trans (List.map_id bs)

theorem isDigit_ofNat {d : Int} (h : 0 ≤ d ∧ d ≤ 9) : IsDigit (UInt8.ofNat d.toNat) := by
  have hvalue := toNat_ofNat_of_range (n := d) (by omega)
  rw [IsDigit, UInt8.le_iff_toNat_le]
  change _ ≤ 9
  omega

theorem digit_of_isDigit {b : UInt8} (h : IsDigit b) :
    (0 : Int) ≤ b.toNat ∧ (b.toNat : Int) ≤ 9 := by
  have hvalue : b.toNat ≤ 9 := UInt8.le_iff_toNat_le.mp h
  omega

theorem encode_of_writable {ds : List Int} {i : Int} (h : Writable ds i) :
    encode ds i =
      .ok (sealed (ds.map fun d => UInt8.ofNat d.toNat) (UInt8.ofNat i.toNat)) := by
  have hdigits : ds.any (fun d => decide ¬(0 ≤ d ∧ d ≤ 9)) = false := by
    simp only [List.any_eq_false, decide_eq_true_eq, Decidable.not_not]
    exact h.digits
  have hindicators : 0 ≤ i ∧ i ≤ 0xFF := h.indicators
  simp only [encode, h.five, hdigits, hindicators]
  rfl

theorem writable_of_encode {ds : List Int} {i : Int} {data : Bytes} (h : encode ds i = .ok data) :
    Writable ds i := by
  unfold encode at h
  split_ifs at h with hfive hdigits hindicators
  refine ⟨Decidable.not_not.mp hfive, ?_, hindicators⟩
  simpa [List.any_eq_true] using hdigits

theorem encode_eq_ok_iff {ds : List Int} {i : Int} {data : Bytes} :
    encode ds i = .ok data ↔
      ∃ bs b, bs.length = digitCount ∧ (∀ d ∈ bs, IsDigit d) ∧ data = sealed bs b ∧
        ds = shownDigits bs ∧ i = b.toNat := by
  constructor
  · intro h
    have hw := writable_of_encode h
    rw [encode_of_writable hw] at h
    refine ⟨_, _, by rw [List.length_map, hw.five], ?_, (Except.ok.inj h).symm,
      (shownDigits_ofNat hw.digits).symm, (toNat_ofNat_of_range hw.indicators).symm⟩
    intro b hb
    obtain ⟨d, hd, rfl⟩ := List.mem_map.mp hb
    exact isDigit_ofNat (hw.digits d hd)
  · rintro ⟨bs, b, hfive, hdigits, rfl, rfl, rfl⟩
    have hw : Writable (shownDigits bs) b.toNat := by
      refine ⟨by rw [shownDigits, List.length_map, hfive], ?_, isByte_toNat b⟩
      intro d hd
      obtain ⟨b', hb', rfl⟩ := List.mem_map.mp hd
      exact digit_of_isDigit (hdigits b' hb')
    rw [encode_of_writable hw, ofNat_shownDigits]
    simp

theorem encode_error_iff {ds : List Int} {i : Int} :
    (∃ r, encode ds i = .error r) ↔ ¬ Writable ds i := by
  rw [exists_error_iff]
  exact not_congr ⟨fun ⟨_, h⟩ => writable_of_encode h, fun h => ⟨_, encode_of_writable h⟩⟩

/-- Reading accepts what was written, and gives it back. -/
theorem decode_eq_ok_iff_encode {data : Bytes} {f : Status} :
    decode data = .ok f ↔ ∃ ds i, encode ds i = .ok data ∧ f = ⟨ds, i, data⟩ := by
  rw [decode_eq_ok_iff]
  constructor
  · rintro ⟨bs, b, hfive, hdigits, rfl, rfl⟩
    exact ⟨_, _, encode_eq_ok_iff.mpr ⟨bs, b, hfive, hdigits, rfl, rfl, rfl⟩, rfl⟩
  · rintro ⟨ds, i, hencode, rfl⟩
    obtain ⟨bs, b, hfive, hdigits, rfl, rfl, rfl⟩ := encode_eq_ok_iff.mp hencode
    exact ⟨bs, b, hfive, hdigits, rfl, rfl⟩

theorem encode_injective {ds ds' : List Int} {i i' : Int} {data : Bytes}
    (h : encode ds i = .ok data) (h' : encode ds' i' = .ok data) : ds = ds' ∧ i = i' := by
  have hread := decode_eq_ok_iff_encode.mpr ⟨ds, i, h, rfl⟩
  have hread' := decode_eq_ok_iff_encode.mpr ⟨ds', i', h', rfl⟩
  have hsame := Except.ok.inj (hread.symm.trans hread')
  exact ⟨congrArg Status.digits hsame, congrArg Status.indicators hsame⟩

theorem decode_of_short {data : Bytes} (h : data.length < FrameKind.status.size) :
    decode data = .error (.short .status data) := by
  unfold decode
  split
  · simp [FrameKind.size] at h
  · rw [if_pos h]

/-- Only too few bytes are taken for a cut frame. -/
theorem isShort_of_decode {data : Bytes} {d : Defect} (hlen : FrameKind.status.size ≤ data.length)
    (h : decode data = .error d) : d.isShort = false := by
  unfold decode at h
  split at h
  · dsimp only at h
    split_ifs at h <;> exact Except.error.inj h ▸ rfl
  · rw [if_neg (Nat.not_lt.mpr hlen)] at h
    exact Except.error.inj h ▸ rfl

theorem decode_exact :
    FrameKind.status.ReadsExactly decode
      fun data f => ∃ ds i, encode ds i = .ok data ∧ f = ⟨ds, i, data⟩ where
  read_iff := fun _ _ => decode_eq_ok_iff_encode
  cut := fun data h => ⟨_, decode_of_short h, rfl, rfl⟩
  malformed := fun data d hlen h => by simp [Fault.kind, isShort_of_decode hlen h]

/-- Encoding refuses exactly what no frame can carry, as a wrong value; else reading what was
written gives back the digits, the indicators and the bytes. Reading takes exactly what encoding
writes for some digits and indicators, and for no others. -/
theorem decode_inverts_encode :
    (∀ ds i, (∃ r, encode ds i = .error r ∧ (Fault.rejected r).kind = .value) ↔ ¬ Writable ds i) ∧
      (∀ ds i, Writable ds i →
        ∃ data, encode ds i = .ok data ∧ decode data = .ok ⟨ds, i, data⟩) ∧
      FrameKind.status.ReadsExactly decode
        (fun data f => ∃ ds i, encode ds i = .ok data ∧ f = ⟨ds, i, data⟩) ∧
      ∀ ds i ds' i' data, encode ds i = .ok data → encode ds' i' = .ok data → ds = ds' ∧ i = i' := by
  refine ⟨fun ds i => ?_, fun ds i h => ?_, decode_exact, fun _ _ _ _ _ => encode_injective⟩
  · rw [refused_iff, encode_error_iff]
  · have hencode := encode_of_writable h
    exact ⟨_, hencode, decode_eq_ok_iff_encode.mpr ⟨ds, i, hencode, rfl⟩⟩

end Status

namespace Command

def written (d₁ d₂ control x a : UInt8) : Bytes :=
  [lead, mark, d₁, d₂, control, tail, x, a, terminator]

theorem sealed_eq_written (d₁ d₂ control : UInt8) :
    sealed d₁ d₂ control = written d₁ d₂ control
      (Seal.of [d₁, d₂, control, tail]).xor (Seal.of [d₁, d₂, control, tail]).add := rfl

/-- The two bytes of a frequency, which wraps around. -/
def highByte (f : Command) : UInt8 := UInt8.ofNat f.high.toNat

def lowByte (f : Command) : UInt8 := UInt8.ofNat f.low.toNat

theorem frequency_bytes (f : Command) :
    (f.highByte.toNat : Int) * 256 + f.lowByte.toNat = f.frequency % 65536 := by
  have hhigh : (f.highByte.toNat : Int) = f.high := toNat_ofNat_of_range (by unfold high; omega)
  have hlow : (f.lowByte.toNat : Int) = f.low := toNat_ofNat_of_range (by unfold low; omega)
  rw [hhigh, hlow, high, low]
  omega

theorem toBytes_eq_ok_iff {f : Command} {data : Bytes} :
    f.toBytes = .ok data ↔ ∃ c x a : UInt8, f.control = c.toNat ∧ f.xorByte = x.toNat ∧
      f.addByte = a.toNat ∧ data = written f.highByte f.lowByte c x a := by
  simp only [← byte?_eq_ok_iff]
  constructor
  · intro h
    obtain ⟨bytes, hcovered, h⟩ := bind_eq_ok_iff.mp h
    obtain ⟨c, hc, hbytes⟩ := bind_eq_ok_iff.mp hcovered
    obtain ⟨x, hx, h⟩ := bind_eq_ok_iff.mp h
    obtain ⟨a, ha, h⟩ := bind_eq_ok_iff.mp h
    obtain rfl := Except.ok.inj hbytes
    exact ⟨c, x, a, hc, hx, ha, (Except.ok.inj h).symm⟩
  · rintro ⟨c, x, a, hc, hx, ha, rfl⟩
    simp only [toBytes, covered, hc, hx, ha]
    rfl

theorem toBytes_error_iff {f : Command} :
    (∃ r, f.toBytes = .error r) ↔ ¬ (IsByte f.control ∧ IsByte f.xorByte ∧ IsByte f.addByte) := by
  rw [exists_error_iff]
  simp only [isByte_iff, byte?_eq_ok_iff, toBytes_eq_ok_iff]
  refine not_congr ⟨?_, ?_⟩
  · rintro ⟨data, c, x, a, hc, hx, ha, -⟩
    exact ⟨⟨c, hc⟩, ⟨x, hx⟩, ⟨a, ha⟩⟩
  · rintro ⟨⟨c, hc⟩, ⟨x, hx⟩, ⟨a, ha⟩⟩
    exact ⟨_, c, x, a, hc, hx, ha, rfl⟩

/-- The integrity pair that a frame should have, from what it covers. -/
def IsSealed (f : Command) : Prop :=
  ∃ covered, f.covered = .ok covered ∧ f.xorByte = (Seal.of covered).xor.toNat ∧
    f.addByte = (Seal.of covered).add.toNat

theorem isSealed_iff {f : Command} {c x a : UInt8} (hc : f.control = c.toNat)
    (hx : f.xorByte = x.toNat) (ha : f.addByte = a.toNat) :
    f.IsSealed ↔ (⟨x, a⟩ : Seal) = Seal.of [f.highByte, f.lowByte, c, tail] := by
  have hcovered : f.covered = .ok [f.highByte, f.lowByte, c, tail] := by
    simp only [covered, byte?_eq_ok_iff.mpr hc]
    rfl
  simp only [IsSealed, hcovered, hx, ha, Except.ok.injEq, exists_eq_left', Int.natCast_inj,
    UInt8.toNat_inj, Seal.of, Seal.mk.injEq]

theorem byte_of_parts (d₁ d₂ : UInt8) :
    UInt8.ofNat (((d₁.toNat : Int) * 256 + d₂.toNat) / 256 % 256).toNat = d₁ ∧
      UInt8.ofNat (((d₁.toNat : Int) * 256 + d₂.toNat) % 256).toNat = d₂ := by
  have h₁ := d₁.toNat_lt
  have h₂ := d₂.toNat_lt
  have hhigh : (((d₁.toNat : Int) * 256 + d₂.toNat) / 256 % 256).toNat = d₁.toNat := by omega
  have hlow : (((d₁.toNat : Int) * 256 + d₂.toNat) % 256).toNat = d₂.toNat := by omega
  rw [hhigh, hlow, UInt8.ofNat_toNat, UInt8.ofNat_toNat]
  exact ⟨rfl, rfl⟩

theorem toBytes_shown (d₁ d₂ control : UInt8) :
    (shown d₁ d₂ control).toBytes = .ok (sealed d₁ d₂ control) := by
  obtain ⟨hhigh, hlow⟩ := byte_of_parts d₁ d₂
  refine toBytes_eq_ok_iff.mpr ⟨control, _, _, rfl, rfl, rfl, ?_⟩
  rw [highByte, lowByte, high, low, shown, hhigh, hlow, sealed_eq_written]

/-- Every content of a sealed form is what encoding gives for its frequency and control byte. -/
theorem encode_shown (d₁ d₂ control : UInt8) :
    encode (d₁.toNat * 256 + d₂.toNat) control.toNat = .ok (shown d₁ d₂ control) := by
  have h₁ := d₁.toNat_lt
  have h₂ := d₂.toNat_lt
  have hcontrol : 0 ≤ (control.toNat : Int) ∧ (control.toNat : Int) ≤ 0xFF := isByte_toNat control
  have hfrequency : 0 ≤ (d₁.toNat : Int) * 256 + d₂.toNat ∧
      (d₁.toNat : Int) * 256 + d₂.toNat ≤ 0xFFFF := by omega
  obtain ⟨hhigh, hlow⟩ := byte_of_parts d₁ d₂
  have hdiv : ((d₁.toNat : Int) * 256 + d₂.toNat) / 256 % 256 =
      ((d₁.toNat : Int) * 256 + d₂.toNat) / 256 := by omega
  rw [hdiv] at hhigh
  simp only [encode, hfrequency, hcontrol, hhigh, hlow, Int.toNat_natCast, UInt8.ofNat_toNat]
  rfl

theorem encode_error_iff {frequency control : Int} :
    (∃ r, encode frequency control = .error r) ↔
      ¬ ((0 ≤ frequency ∧ frequency ≤ 0xFFFF) ∧ IsByte control) := by
  unfold encode IsByte
  split_ifs with hfrequency hcontrol
  · simp [hfrequency, hcontrol]
  · simp [hcontrol]
  · simp [hfrequency]

theorem ofBytes_eq_ok_iff {data : Bytes} {f : Command} :
    ofBytes data = .ok f ↔ ∃ d₁ d₂ c, data = sealed d₁ d₂ c ∧ f = shown d₁ d₂ c := by
  constructor
  · intro h
    unfold ofBytes at h
    split at h
    case h_2 => split_ifs at h
    case h_1 s m d₁ d₂ c t x a e =>
      dsimp only at h
      split_ifs at h with hlayout hseal
      simp only [ne_eq, not_or, Decidable.not_not] at hlayout hseal
      obtain ⟨rfl, rfl, rfl, rfl⟩ := hlayout
      obtain ⟨rfl, rfl⟩ := Seal.mk.inj hseal
      exact ⟨d₁, d₂, c, rfl, (Except.ok.inj h).symm⟩
  · rintro ⟨d₁, d₂, c, rfl, rfl⟩
    exact ofBytes_sealed d₁ d₂ c

theorem ofBytes_eq_ok_iff_encode {data : Bytes} {f : Command} :
    ofBytes data = .ok f ↔ (∃ n c, encode n c = .ok f) ∧ f.toBytes = .ok data := by
  rw [ofBytes_eq_ok_iff]
  constructor
  · rintro ⟨d₁, d₂, c, rfl, rfl⟩
    exact ⟨⟨_, _, encode_shown d₁ d₂ c⟩, toBytes_shown d₁ d₂ c⟩
  · rintro ⟨⟨n, c, hencode⟩, hbytes⟩
    obtain ⟨d₁, d₂, c', hshown, hsealed, -, -⟩ := eq_shown_of_encode hencode
    exact ⟨d₁, d₂, c', Except.ok.inj (hbytes.symm.trans hsealed), hshown⟩

theorem ofBytes_of_short {data : Bytes} (h : data.length < FrameKind.command.size) :
    ofBytes data = .error (.short .command data) := by
  unfold ofBytes
  split
  · simp [FrameKind.size] at h
  · rw [if_pos h]

theorem isShort_of_ofBytes {data : Bytes} {d : Defect}
    (hlen : FrameKind.command.size ≤ data.length) (h : ofBytes data = .error d) :
    d.isShort = false := by
  unfold ofBytes at h
  split at h
  · dsimp only at h
    split_ifs at h <;> exact Except.error.inj h ▸ rfl
  · rw [if_neg (Nat.not_lt.mpr hlen)] at h
    exact Except.error.inj h ▸ rfl

theorem ofBytes_exact :
    FrameKind.command.ReadsExactly ofBytes
      fun data f => (∃ n c, encode n c = .ok f) ∧ f.toBytes = .ok data where
  read_iff := fun _ _ => ofBytes_eq_ok_iff_encode
  cut := fun data h => ⟨_, ofBytes_of_short h, rfl, rfl⟩
  malformed := fun data d hlen h => by simp [Fault.kind, isShort_of_ofBytes hlen h]

/-- A frame of any integers that can be written reads back only with the integrity pair of what it
covers; the frequency has then wrapped around. -/
theorem ofBytes_of_toBytes {f : Command} {data : Bytes} (h : f.toBytes = .ok data) :
    ((∃ g, ofBytes data = .ok g) ↔ f.IsSealed) ∧
      ∀ g, ofBytes data = .ok g → g.frequency = f.frequency % 65536 ∧ g.control = f.control := by
  obtain ⟨c, x, a, hc, hx, ha, rfl⟩ := toBytes_eq_ok_iff.mp h
  have hform {d₁ d₂ c' : UInt8} (hsealed : written f.highByte f.lowByte c x a = sealed d₁ d₂ c') :
      (f.highByte = d₁ ∧ f.lowByte = d₂ ∧ c = c') ∧
        (⟨x, a⟩ : Seal) = Seal.of [d₁, d₂, c', tail] := by
    rw [sealed_eq_written] at hsealed
    simp only [written, List.cons.injEq, true_and, and_true] at hsealed
    obtain ⟨hd₁, hd₂, hc', hx', ha'⟩ := hsealed
    exact ⟨⟨hd₁, hd₂, hc'⟩, by rw [hx', ha']⟩
  rw [isSealed_iff hc hx ha]
  refine ⟨⟨?_, ?_⟩, ?_⟩
  · rintro ⟨g, hg⟩
    obtain ⟨d₁, d₂, c', hsealed, -⟩ := ofBytes_eq_ok_iff.mp hg
    obtain ⟨⟨hd₁, hd₂, hc'⟩, hseal⟩ := hform hsealed
    rw [hd₁, hd₂, hc', hseal]
  · intro hseal
    obtain ⟨rfl, rfl⟩ := Seal.mk.inj hseal
    exact ⟨_, ofBytes_sealed f.highByte f.lowByte c⟩
  · intro g hg
    obtain ⟨d₁, d₂, c', hsealed, rfl⟩ := ofBytes_eq_ok_iff.mp hg
    obtain ⟨⟨rfl, rfl, rfl⟩, -⟩ := hform hsealed
    exact ⟨f.frequency_bytes, hc.symm⟩

/-- Encoding refuses exactly what no frame can carry, as a wrong value; else the frame is written as
nine bytes that read back as the frame. Reading takes exactly what some encoded frame is written as,
gives that frame, and no other frequency and control byte are written so. A frame of any integers
can be written exactly when the fields beside its frequency fill a byte each, and then reads back,
with the frequency wrapped around, exactly when its integrity pair is that of what it covers. -/
theorem ofBytes_inverts_toBytes :
    (∀ n c, (∃ r, encode n c = .error r ∧ (Fault.rejected r).kind = .value) ↔
        ¬ ((0 ≤ n ∧ n ≤ 0xFFFF) ∧ IsByte c)) ∧
      (∀ n c f, encode n c = .ok f → f.frequency = n ∧ f.control = c ∧
        ∃ data, f.toBytes = .ok data ∧ data.length = FrameKind.command.size ∧
          ofBytes data = .ok f) ∧
      FrameKind.command.ReadsExactly ofBytes
        (fun data f => (∃ n c, encode n c = .ok f) ∧ f.toBytes = .ok data) ∧
      (∀ n c f n' c' f' data, encode n c = .ok f → f.toBytes = .ok data →
        encode n' c' = .ok f' → f'.toBytes = .ok data → n = n' ∧ c = c') ∧
      (∀ f : Command, (∃ r, f.toBytes = .error r ∧ (Fault.rejected r).kind = .value) ↔
        ¬ (IsByte f.control ∧ IsByte f.xorByte ∧ IsByte f.addByte)) ∧
      ∀ (f : Command) data, f.toBytes = .ok data → ((∃ g, ofBytes data = .ok g) ↔ f.IsSealed) ∧
        ∀ g, ofBytes data = .ok g →
          g.frequency = f.frequency % 65536 ∧ g.control = f.control := by
  refine ⟨fun n c => ?_, fun n c f h => ?_, ofBytes_exact, ?_, fun f => ?_,
    fun f data => ofBytes_of_toBytes⟩
  · rw [refused_iff, encode_error_iff]
  · obtain ⟨d₁, d₂, c', -, hbytes, hfields⟩ := eq_shown_of_encode h
    exact ⟨hfields.1, hfields.2, _, hbytes, rfl, (ofBytes_of_encode h hbytes).1⟩
  · intro n c f n' c' f' data h hdata h' hdata'
    obtain ⟨hread, hn, hc⟩ := ofBytes_of_encode h hdata
    obtain ⟨hread', hn', hc'⟩ := ofBytes_of_encode h' hdata'
    obtain rfl : f = f' := Except.ok.inj (hread.symm.trans hread')
    exact ⟨hn.symm.trans hn', hc.symm.trans hc'⟩
  · rw [refused_iff, toBytes_error_iff]

end Command
end SpindleLink
