import Mathlib.Algebra.Field.Rat
import Mathlib.Tactic.FieldSimp
import Mathlib.Tactic.NormNum
import Mathlib.Tactic.Ring
import SpindleLink.Proofs.StatusForm
import SpindleLink.Report

/-! The texts of a frequency. A reading is written from a quotient and a remainder, a display from
its places in a row; both are numerals with two places behind the point, and they denote the same
number. -/

namespace SpindleLink
namespace Numeral

theorem filled_natCast (base width n : Nat) :
    filled base width n =
      List.replicate (width - (Nat.toDigits base n).length) '0' ++ Nat.toDigits base n := by
  have hsign : ¬ (n : Int) < 0 := by omega
  simp [filled, if_neg hsign]

theorem isDigit_filled {width n : Nat} {c : Char} (h : c ∈ filled 10 width n) :
    c.isDigit = true := by
  rw [filled_natCast, List.mem_append] at h
  rcases h with hzero | hdigit
  · rw [List.eq_of_mem_replicate hzero]
    rfl
  · exact Nat.isDigit_of_mem_toDigits (by decide) (by decide) hdigit

theorem ofDigitChars_zeros (k : Nat) (ds : List Char) :
    Nat.ofDigitChars 10 (List.replicate k '0' ++ ds) 0 = Nat.ofDigitChars 10 ds 0 := by
  induction k with
  | zero => rfl
  | succ k ih => exact ih

theorem ofDigitChars_filled (width n : Nat) : Nat.ofDigitChars 10 (filled 10 width n) 0 = n := by
  rw [filled_natCast, ofDigitChars_zeros, Nat.ofDigitChars_ten_toDigits]

theorem length_filled {width n : Nat} (hwidth : 0 < width) (h : n < 10 ^ width) :
    (filled 10 width n).length = width := by
  have hdigits : (Nat.toDigits 10 n).length ≤ width :=
    (Nat.length_toDigits_le_iff (by decide) hwidth).mpr h
  rw [filled_natCast, List.length_append, List.length_replicate]
  omega

theorem eq_zero_of_head (n : Nat) (h : (filled 10 0 n).head? = some '0') : n = 0 := by
  rw [filled_natCast, Nat.zero_sub, List.replicate_zero, List.nil_append] at h
  induction n using Nat.strongRecOn with
  | ind n ih =>
    by_cases hsmall : n < 10
    · rw [Nat.toDigits_of_lt_base hsmall] at h
      have hchar : n.digitChar.toNat = 48 := congrArg Char.toNat (Option.some.inj h)
      rw [Nat.toNat_digitChar_of_lt_ten hsmall] at hchar
      omega
    · rw [Nat.toDigits_of_base_le (by decide) (Nat.not_lt.mp hsmall),
        List.head?_append_of_ne_nil _ Nat.toDigits_ne_nil] at h
      have := ih (n / 10) (by omega) h
      omega

def whole (text : List Char) : List Char := text.takeWhile (· ≠ '.')

def places (text : List Char) : List Char := (text.dropWhile (· ≠ '.')).tail

/-- The number that digits with a point among them denote. -/
def rational (text : List Char) : ℚ :=
  Nat.ofDigitChars 10 (whole text) 0 +
    Nat.ofDigitChars 10 (places text) 0 / 10 ^ (places text).length

/-- Digits, a point, and digits. -/
structure Pointed (text : List Char) : Prop where
  split : text = whole text ++ ['.'] ++ places text
  whole : whole text ≠ [] ∧ ∀ c ∈ whole text, c.isDigit = true
  places : places text ≠ [] ∧ ∀ c ∈ places text, c.isDigit = true

section Pointed

variable {ws fs : List Char}

theorem ne_point_of_isDigit {c : Char} (h : c.isDigit = true) : decide (c ≠ '.') = true := by
  rw [decide_eq_true_iff]
  rintro rfl
  cases h

theorem whole_append (hws : ∀ c ∈ ws, c.isDigit = true) : whole (ws ++ ['.'] ++ fs) = ws := by
  rw [whole, List.append_assoc,
    List.takeWhile_append_of_pos fun c hc => ne_point_of_isDigit (hws c hc)]
  exact List.append_nil ws

theorem places_append (hws : ∀ c ∈ ws, c.isDigit = true) : places (ws ++ ['.'] ++ fs) = fs := by
  rw [places, List.append_assoc,
    List.dropWhile_append_of_pos fun c hc => ne_point_of_isDigit (hws c hc)]
  rfl

theorem pointed_append (hws : ∀ c ∈ ws, c.isDigit = true) (hfs : ∀ c ∈ fs, c.isDigit = true)
    (hwhole : ws ≠ []) (hplaces : fs ≠ []) : Pointed (ws ++ ['.'] ++ fs) := by
  refine ⟨?_, ?_, ?_⟩
  · rw [whole_append hws, places_append hws]
  · rw [whole_append hws]
    exact ⟨hwhole, hws⟩
  · rw [places_append hws]
    exact ⟨hplaces, hfs⟩

/-- The point divides the number of all digits in a row. -/
theorem rational_append (hws : ∀ c ∈ ws, c.isDigit = true) :
    rational (ws ++ ['.'] ++ fs) = Nat.ofDigitChars 10 (ws ++ fs) 0 / 10 ^ fs.length := by
  have hrow : Nat.ofDigitChars 10 fs (Nat.ofDigitChars 10 ws 0) =
      10 ^ fs.length * Nat.ofDigitChars 10 ws 0 + Nat.ofDigitChars 10 fs 0 :=
    Nat.ofDigitChars_eq_ofDigitChars_zero
  rw [rational, whole_append hws, places_append hws, Nat.ofDigitChars_append, hrow]
  push_cast
  field_simp

end Pointed
end Numeral

open Numeral

/-- Two places behind a point, and the number denoted. -/
structure InHundredths (text : List Char) (hundredths : Nat) : Prop where
  pointed : Pointed text
  two : (places text).length = 2
  value : rational text = hundredths / 100

namespace Reading

theorem hertz_natCast (n : Nat) :
    hertz ⟨n⟩ = filled 10 0 (n / 100 : Nat) ++ ['.'] ++ filled 10 2 (n % 100 : Nat) := by
  simp [hertz]

theorem hertz_inHundredths (n : Nat) : InHundredths (hertz ⟨n⟩) n := by
  have hwhole : ∀ c ∈ filled 10 0 (n / 100 : Nat), c.isDigit = true := fun _ => isDigit_filled
  have htwo : (filled 10 2 (n % 100 : Nat)).length = 2 :=
    length_filled (by decide) (Nat.mod_lt n (by decide))
  have hdigits : Nat.ofDigitChars 10
      (filled 10 0 (n / 100 : Nat) ++ filled 10 2 (n % 100 : Nat)) 0 = n := by
    rw [Nat.ofDigitChars_append, Nat.ofDigitChars_eq_ofDigitChars_zero, ofDigitChars_filled,
      ofDigitChars_filled, htwo]
    exact Nat.div_add_mod n 100
  rw [hertz_natCast]
  refine ⟨pointed_append hwhole (fun _ => isDigit_filled) ?_ ?_, ?_, ?_⟩
  · rw [filled_natCast]
    exact List.append_ne_nil_of_right_ne_nil _ Nat.toDigits_ne_nil
  · exact List.ne_nil_of_length_pos (htwo.symm ▸ Nat.two_pos)
  · rw [places_append hwhole, htwo]
  · rw [rational_append hwhole, hdigits, htwo]
    norm_num

theorem whole_hertz (n : Nat) (h : (whole (hertz ⟨n⟩)).head? = some '0') :
    whole (hertz ⟨n⟩) = ['0'] := by
  rw [hertz_natCast, whole_append fun _ => isDigit_filled] at h ⊢
  rw [eq_zero_of_head _ h]
  rfl

theorem describe_injective {m n : Nat} (h : describe ⟨m⟩ = describe ⟨n⟩) : m = n := by
  have htext : hertz ⟨m⟩ = hertz ⟨n⟩ :=
    String.ofList_injective ((String.append_right_inj _).mp ((String.append_left_inj _).mp h))
  have hvalue := (hertz_inHundredths m).value
  rw [htext, (hertz_inHundredths n).value] at hvalue
  have hcast : (n : ℚ) = m := (div_left_inj' (by norm_num)).mp hvalue
  exact (Nat.cast_injective hcast).symm

end Reading

namespace Status

def inRow (ds : Bytes) : List Char := ds.map fun d => d.toNat.digitChar

theorem isDigit_inRow {ds : Bytes} (h : ∀ d ∈ ds, IsDigit d) :
    ∀ c ∈ inRow ds, c.isDigit = true := by
  intro c hc
  obtain ⟨d, hd, rfl⟩ := List.mem_map.mp hc
  have hlow : d.toNat ≤ 9 := UInt8.le_iff_toNat_le.mp (h d hd)
  rw [Nat.isDigit_digitChar, decide_eq_true_iff]
  omega

theorem flatMap_filled {ds : Bytes} (h : ∀ d ∈ ds, IsDigit d) :
    (ds.map fun d => (d.toNat : Int)).flatMap (fun d => filled 10 0 d) = inRow ds := by
  induction ds with
  | nil => rfl
  | cons d ds ih =>
    obtain ⟨hd, hds⟩ := List.forall_mem_cons.mp h
    have hlow : d.toNat ≤ 9 := UInt8.le_iff_toNat_le.mp hd
    rw [List.map_cons, List.flatMap_cons, ih hds, filled_natCast, Nat.zero_sub,
      Nat.toDigits_of_lt_base (by omega)]
    rfl

theorem foldl_places {ds : Bytes} (h : ∀ d ∈ ds, IsDigit d) (n : Nat) :
    (ds.map fun d => (d.toNat : Int)).foldl (fun n d => n * 10 + d) (n : Int) =
      (Nat.ofDigitChars 10 (inRow ds) n : Nat) := by
  induction ds generalizing n with
  | nil => rfl
  | cons d ds ih =>
    obtain ⟨hd, hds⟩ := List.forall_mem_cons.mp h
    have hlow : d.toNat ≤ 9 := UInt8.le_iff_toNat_le.mp hd
    have hchar : d.toNat.digitChar.toNat - '0'.toNat = d.toNat := by
      rw [Nat.toNat_digitChar_of_lt_ten (by omega)]
      exact Nat.add_sub_cancel_left 48 d.toNat
    have hnext : (n : Int) * 10 + (d.toNat : Int) = (10 * n + d.toNat : Nat) := by
      push_cast
      ring
    rw [inRow, List.map_cons, List.map_cons, List.foldl_cons, Nat.ofDigitChars_cons, hchar, hnext]
    exact ih hds _

/-- A display shows the frequency that is read from it. -/
theorem display_inHundredths {data : Bytes} {f : Status} (h : decode data = .ok f) :
    ∃ n : Nat, Reading.ofFrame f = ⟨n⟩ ∧ InHundredths f.display n ∧
      (whole f.display).length = 3 := by
  obtain ⟨ds, i, hlen, hds, -, rfl⟩ := decode_eq_ok_iff.mp h
  have hrow := isDigit_inRow hds
  have hfive : (inRow ds).length = 5 := by
    rw [inRow, List.length_map, hlen]
    rfl
  have hwhole : ∀ c ∈ (inRow ds).take 3, c.isDigit = true := fun c hc =>
    hrow c (List.mem_of_mem_take hc)
  have hplaces : ∀ c ∈ (inRow ds).drop 3, c.isDigit = true := fun c hc =>
    hrow c (List.mem_of_mem_drop hc)
  have hthree : ((inRow ds).take 3).length = 3 := by simp [hfive]
  have htwo : ((inRow ds).drop 3).length = 2 := by simp [hfive]
  have hdisplay : (shown ds i).display = (inRow ds).take 3 ++ ['.'] ++ (inRow ds).drop 3 := by
    rw [display, shown, flatMap_filled hds]
  refine ⟨Nat.ofDigitChars 10 (inRow ds) 0, congrArg Reading.mk (foldl_places hds 0),
    ⟨?_, ?_, ?_⟩, ?_⟩
  · rw [hdisplay]
    exact pointed_append hwhole hplaces (List.ne_nil_of_length_pos (hthree.symm ▸ Nat.succ_pos 2))
      (List.ne_nil_of_length_pos (htwo.symm ▸ Nat.two_pos))
  · rw [hdisplay, places_append hwhole, htwo]
  · rw [hdisplay, rational_append hwhole, List.take_append_drop, htwo]
    norm_num
  · rw [hdisplay, whole_append hwhole, hthree]

end Status

/-- A reading of any number of hundredths is written with two places and no superfluous zero in
front, and denotes that number exactly; no two have the same text. The display of any frame that is
read is written with three digits and two places, and denotes what the reading of it does. -/
theorem frequency_texts_agree :
    (∀ n : Nat, ∃ text,
        (Reading.mk n).describe = "FrequencyReading(" ++ String.ofList text ++ " Hz)" ∧
        InHundredths text n ∧ ((whole text).head? = some '0' → whole text = ['0'])) ∧
      (∀ m n : Nat, (Reading.mk m).describe = (Reading.mk n).describe → m = n) ∧
      ∀ data f, Status.decode data = .ok f → ∃ shown text, ∃ n : Nat,
        f.describe = "StatusFrame(display=" ++ String.ofList shown ++ ", indicators=0b" ++
          binaryFilled 8 f.indicators ++ ")" ∧
        (Reading.ofFrame f).describe = "FrequencyReading(" ++ String.ofList text ++ " Hz)" ∧
        (whole shown).length = 3 ∧ InHundredths shown n ∧ InHundredths text n := by
  refine ⟨fun n => ?_, fun m n => Reading.describe_injective, fun data f h => ?_⟩
  · exact ⟨Reading.hertz ⟨n⟩, rfl, Reading.hertz_inHundredths n, Reading.whole_hertz n⟩
  · obtain ⟨n, hread, hshown, hthree⟩ := Status.display_inHundredths h
    refine ⟨f.display, Reading.hertz ⟨n⟩, n, rfl, ?_, hthree, hshown, Reading.hertz_inHundredths n⟩
    rw [hread]
    rfl

/-- Seven hundredths and seventy have different texts; a display that begins with zeros shows what
is read from it. -/
theorem frequency_texts_agree_below_ten :
    (Reading.mk (7 : Nat)).describe ≠ (Reading.mk (70 : Nat)).describe ∧
      ∃ f shown text, ∃ n : Nat, Status.decode (Status.sealed [0, 0, 5, 0, 7] 2) = .ok f ∧
        InHundredths shown n ∧ InHundredths text n ∧ (whole shown).length = 3 := by
  have hread : Status.decode (Status.sealed [0, 0, 5, 0, 7] 2) =
      .ok (Status.shown [0, 0, 5, 0, 7] 2) := Status.decode_sealed rfl (by simp [Status.IsDigit])
  obtain ⟨-, hinjective, hframe⟩ := frequency_texts_agree
  obtain ⟨shown, text, n, -, -, hthree, hshown, htext⟩ := hframe _ _ hread
  exact ⟨fun h => absurd (hinjective 7 70 h) (by decide), _, shown, text, n, hread, hshown, htext,
    hthree⟩

end SpindleLink
