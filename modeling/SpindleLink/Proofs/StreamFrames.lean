import Mathlib.Tactic.ByContra
import SpindleLink.Frame.Stream
import SpindleLink.Proofs.StatusForm

/-! The frames in a stream. A window of thirteen bytes that decodes shares no byte with another one,
so a scan that goes on behind the first frame meets all of them: draining gives each window that
decodes, in order, and keeps the longest tail that may still become a frame. -/

namespace SpindleLink
namespace Stream

/-- The thirteen bytes from a place on, fewer near the end. -/
def window (data : Bytes) (i : Nat) : Bytes := (data.drop i).take FrameKind.status.size

def frameAt? (data : Bytes) (i : Nat) : Option Status := (Status.decode (window data i)).toOption

/-- The places at which a frame stands, from the front. -/
def places (data : Bytes) : List Nat :=
  (List.range data.length).filter fun i => (frameAt? data i).isSome

def behindFrames (data : Bytes) : Bytes :=
  data.drop (((places data).getLast?.map (· + FrameKind.status.size)).getD 0)

/-- A cut window with a header, or the first half of one. -/
def MayBegin (t : Bytes) : Prop :=
  t.length < FrameKind.status.size ∧ ([lead, mark] <+: t ∨ t = [lead])

/-- The longest tail that may still become a frame; empty if there is none. -/
structure KeptTail (data t : Bytes) : Prop where
  suffix : t <:+ data
  mayBegin : t = [] ∨ MayBegin t
  longest : ∀ u, u <:+ data → MayBegin u → u.length ≤ t.length

@[simp] theorem window_drop (data : Bytes) (k i : Nat) :
    window (data.drop k) i = window data (k + i) := by
  simp [window, List.drop_drop]

@[simp] theorem frameAt?_drop (data : Bytes) (k i : Nat) :
    frameAt? (data.drop k) i = frameAt? data (k + i) := by
  simp [frameAt?]

@[simp] theorem frameAt?_cons_succ (b : UInt8) (rest : Bytes) (i : Nat) :
    frameAt? (b :: rest) (i + 1) = frameAt? rest i := by
  simp [frameAt?, window]

theorem frameAt?_eq_some_iff {data : Bytes} {i : Nat} {f : Status} :
    frameAt? data i = some f ↔ Status.decode (window data i) = .ok f := by
  unfold frameAt?
  cases Status.decode (window data i) <;> simp [Except.toOption]

theorem getElem?_window {data : Bytes} {i j : Nat} (hj : j < FrameKind.status.size) :
    (window data i)[j]? = data[i + j]? := by
  simp [window, hj]

theorem length_of_frameAt? {data : Bytes} {i : Nat} {f : Status} (h : frameAt? data i = some f) :
    i + FrameKind.status.size ≤ data.length := by
  have hlen := Status.length_of_decode (frameAt?_eq_some_iff.mp h)
  simp only [window, List.length_take, List.length_drop] at hlen
  simp only [FrameKind.size] at hlen ⊢
  omega

theorem frames_apart {data : Bytes} {i j : Nat} {f g : Status} (hf : frameAt? data i = some f)
    (hg : frameAt? data j = some g) (hij : i < j) : i + FrameKind.status.size ≤ j := by
  -- Two frames share no byte: either the mark of the second would be a digit of the first, or the
  -- last byte of the first would be among the first seven of the second.
  have hfirst := frameAt?_eq_some_iff.mp hf
  have hsecond := frameAt?_eq_some_iff.mp hg
  by_contra hclose
  simp only [FrameKind.size, Nat.not_le] at hclose
  rcases Nat.lt_or_ge j (i + 6) with hnear | hfar
  · obtain ⟨d, hd, hlow⟩ := Status.digit_of_decode hfirst (j := j - i + 1) (by omega) (by omega)
    have hmark := (Status.ends_of_decode hsecond).2.1
    rw [getElem?_window (by decide)] at hmark
    rw [getElem?_window (by simp only [FrameKind.size]; omega),
      show i + (j - i + 1) = j + 1 by omega, hmark] at hd
    obtain rfl := Option.some.inj hd
    exact absurd hlow (by decide)
  · have hlast := (Status.ends_of_decode hfirst).2.2
    rw [getElem?_window (by decide)] at hlast
    refine Status.not_terminator_of_decode hsecond (j := i + 12 - j) (by omega) ?_
    rw [getElem?_window (by simp only [FrameKind.size]; omega),
      show j + (i + 12 - j) = i + 12 by omega, hlast]

theorem mem_places {data : Bytes} {i : Nat} :
    i ∈ places data ↔ ∃ f, Status.decode (window data i) = .ok f := by
  simp only [places, List.mem_filter, List.mem_range, Option.isSome_iff_exists,
    frameAt?_eq_some_iff]
  constructor
  · exact And.right
  · rintro ⟨f, hf⟩
    have hlen := length_of_frameAt? (frameAt?_eq_some_iff.mpr hf)
    simp only [FrameKind.size] at hlen
    exact ⟨by omega, f, hf⟩

theorem pairwise_places (data : Bytes) :
    (places data).Pairwise fun i j => i + FrameKind.status.size ≤ j := by
  have hsorted : (places data).Pairwise (· < ·) := List.pairwise_lt_range.filter _
  refine hsorted.imp_of_mem ?_
  intro i j hi hj hij
  obtain ⟨f, hf⟩ := mem_places.mp hi
  obtain ⟨g, hg⟩ := mem_places.mp hj
  exact frames_apart (frameAt?_eq_some_iff.mpr hf) (frameAt?_eq_some_iff.mpr hg) hij

theorem places_cons (b : UInt8) (rest : Bytes) :
    places (b :: rest) =
      (if (frameAt? (b :: rest) 0).isSome then [0] else []) ++ (places rest).map (· + 1) := by
  have hshift : (fun i => (frameAt? (b :: rest) i).isSome) ∘ Nat.succ =
      fun i => (frameAt? rest i).isSome := by
    funext i
    simp
  simp only [places, List.length_cons, List.range_succ_eq_map, List.filter_cons, List.filter_map,
    hshift]
  split <;> rfl

theorem places_drop {data : Bytes} {k : Nat} (h : ∀ i < k, frameAt? data i = none) :
    places data = (places (data.drop k)).map (k + ·) := by
  induction k generalizing data with
  | zero => simp
  | succ k ih =>
    cases data with
    | nil => rfl
    | cons b rest =>
      have hrest : ∀ i < k, frameAt? rest i = none := by
        intro i hi
        rw [← frameAt?_cons_succ b rest i]
        exact h (i + 1) (by omega)
      rw [places_cons, h 0 (Nat.succ_pos k), ih hrest]
      simp only [Option.isSome_none, Bool.false_eq_true, if_false, List.nil_append, List.map_map,
        List.drop_succ_cons]
      congr 1
      funext i
      simp only [Function.comp]
      omega

/-- Behind the first frame the search goes on at its end. -/
theorem places_of_first {data : Bytes} {i : Nat} {f : Status} (hf : frameAt? data i = some f)
    (hfirst : ∀ j < i, frameAt? data j = none) :
    places data = i :: (places (data.drop (i + FrameKind.status.size))).map
      (i + FrameKind.status.size + ·) := by
  have hlen := length_of_frameAt? hf
  obtain ⟨b, rest, hcons⟩ : ∃ b rest, data.drop i = b :: rest := by
    rw [← List.length_pos_iff_exists_cons, List.length_drop]
    simp only [FrameKind.size] at hlen
    omega
  have hzero : (frameAt? (b :: rest) 0).isSome = true := by
    rw [← hcons, frameAt?_drop, Nat.add_zero, hf]
    rfl
  -- The search goes on one place later, but no frame begins among the other bytes of the first.
  have hgap : ∀ j < 12, frameAt? rest j = none := by
    intro j hj
    rw [← frameAt?_cons_succ b, ← hcons, frameAt?_drop]
    by_contra hne
    obtain ⟨g, hg⟩ := Option.ne_none_iff_exists'.mp hne
    have := frames_apart hf hg (by omega)
    simp only [FrameKind.size] at this
    omega
  have hbehind : rest.drop 12 = data.drop (i + FrameKind.status.size) := by
    have : rest = data.drop (i + 1) := by
      rw [← List.drop_drop, hcons, List.drop_one, List.tail_cons]
    rw [this, List.drop_drop]
    rfl
  rw [places_drop hfirst, hcons, places_cons, hzero, places_drop hgap, hbehind]
  simp only [if_true, List.singleton_append, List.map_cons, List.map_map, Nat.add_zero]
  congr 2
  funext j
  simp only [Function.comp, FrameKind.size]
  omega

theorem atHeader_iff {data : Bytes} : atHeader data = true ↔ [lead, mark] <+: data := by
  match data with
  | [] => simp [atHeader]
  | [b] => simp [atHeader, List.cons_prefix_cons]
  | s :: m :: rest =>
    simp only [atHeader, Bool.and_eq_true, decide_eq_true_eq, List.cons_prefix_cons,
      List.nil_prefix, and_true]
    constructor <;> rintro ⟨rfl, rfl⟩ <;> exact ⟨rfl, rfl⟩

theorem atHeader_of_frameAt? {data : Bytes} {f : Status} (h : frameAt? data 0 = some f) :
    atHeader data = true := by
  obtain ⟨hlead, hmark, -⟩ := Status.ends_of_decode (frameAt?_eq_some_iff.mp h)
  rw [getElem?_window (by decide)] at hlead hmark
  match data, hlead, hmark with
  | s :: m :: rest, hlead, hmark =>
    simp only [Nat.zero_add, List.getElem?_cons_zero, List.getElem?_cons_succ,
      Option.some.injEq] at hlead hmark
    simp [atHeader, hlead, hmark]

theorem scan_of_frameAt? {data : Bytes} {f : Status} (h : frameAt? data 0 = some f) :
    scan data = (some f, data.drop FrameKind.status.size) := by
  have hlen := length_of_frameAt? h
  have hwindow := frameAt?_eq_some_iff.mp h
  match data with
  | [] => simp [FrameKind.size] at hlen
  | b :: rest =>
    have hlong : ¬ ((b :: rest).take FrameKind.status.size).length < FrameKind.status.size := by
      rw [List.length_take]
      omega
    rw [window, List.drop_zero] at hwindow
    simp only [scan, atHeader_of_frameAt? h, if_true, hlong, if_false, hwindow]

theorem scan_of_mayBegin {data : Bytes} (h : MayBegin data) : scan data = (none, data) := by
  obtain ⟨hshort, hheader | rfl⟩ := h
  · match data with
    | [] => simp at hheader
    | b :: rest =>
      have hcut : ((b :: rest).take FrameKind.status.size).length < FrameKind.status.size := by
        rw [List.length_take]
        omega
      simp only [scan, atHeader_iff.mpr hheader, if_true, hcut]
  · rfl

theorem scan_of_neither {b : UInt8} {rest : Bytes} (hf : frameAt? (b :: rest) 0 = none)
    (hb : ¬ MayBegin (b :: rest)) : scan (b :: rest) = scan rest := by
  have hwindow : ∀ f, Status.decode ((b :: rest).take FrameKind.status.size) ≠ .ok f := by
    intro f hok
    have := @frameAt?_eq_some_iff (b :: rest) 0 f
    rw [hf, window, List.drop_zero] at this
    exact absurd (this.mpr hok) (by simp)
  simp only [scan]
  split
  · rename_i hheader
    have hlong : ¬ ((b :: rest).take FrameKind.status.size).length < FrameKind.status.size := by
      intro hcut
      refine hb ⟨?_, .inl (atHeader_iff.mp hheader)⟩
      rw [List.length_take] at hcut
      omega
    rw [if_neg hlong]
    split
    · rename_i f hok
      exact absurd hok (hwindow f)
    · rfl
  · have hsingle : ¬ (rest = [] ∧ b = lead) := by
      rintro ⟨rfl, rfl⟩
      exact hb ⟨by decide, .inr rfl⟩
    rw [if_neg hsingle]

theorem KeptTail.cons {b : UInt8} {rest t : Bytes} (h : KeptTail rest t)
    (hb : ¬ MayBegin (b :: rest)) : KeptTail (b :: rest) t where
  suffix := h.suffix.trans (List.suffix_cons b rest)
  mayBegin := h.mayBegin
  longest := by
    intro u hu hbegin
    rcases List.suffix_cons_iff.mp hu with rfl | hu
    · exact absurd hbegin hb
    · exact h.longest u hu hbegin

theorem KeptTail.self {data : Bytes} (h : MayBegin data) : KeptTail data data where
  suffix := List.suffix_refl data
  mayBegin := .inr h
  longest := fun _ hu _ => hu.length_le

theorem KeptTail.nil : KeptTail [] [] where
  suffix := List.suffix_refl []
  mayBegin := .inl rfl
  longest := fun _ hu _ => hu.length_le

theorem frameAt?_of_short {data : Bytes} (h : data.length < FrameKind.status.size) (i : Nat) :
    frameAt? data i = none := by
  by_contra hne
  obtain ⟨f, hf⟩ := Option.ne_none_iff_exists'.mp hne
  have := length_of_frameAt? hf
  omega

theorem places_of_none {data : Bytes} (h : ∀ i, frameAt? data i = none) : places data = [] := by
  simp [places, h]

/-- A scan stops at the first frame, or finds none and keeps the tail. -/
theorem scan_cases (data : Bytes) :
    (∃ i f, frameAt? data i = some f ∧ (∀ j < i, frameAt? data j = none) ∧
      scan data = (some f, data.drop (i + FrameKind.status.size))) ∨
    ((∀ i, frameAt? data i = none) ∧ ∃ t, scan data = (none, t) ∧ KeptTail data t) := by
  induction data with
  | nil => exact .inr ⟨frameAt?_of_short (by decide), [], rfl, .nil⟩
  | cons b rest ih =>
    cases hf : frameAt? (b :: rest) 0 with
    | some f =>
      refine .inl ⟨0, f, hf, fun j hj => absurd hj (Nat.not_lt_zero j), ?_⟩
      rw [scan_of_frameAt? hf, Nat.zero_add]
    | none =>
      by_cases hb : MayBegin (b :: rest)
      · exact .inr ⟨frameAt?_of_short hb.1, _, scan_of_mayBegin hb, .self hb⟩
      · -- The first byte begins neither a frame nor a cut one: the scan is that of the rest.
        rw [scan_of_neither hf hb]
        rcases ih with ⟨i, f, hi, hbefore, hscan⟩ | ⟨hnone, t, hscan, ht⟩
        · refine .inl ⟨i + 1, f, by rwa [frameAt?_cons_succ], ?_, ?_⟩
          · intro j hj
            cases j with
            | zero => exact hf
            | succ j =>
              rw [frameAt?_cons_succ]
              exact hbefore j (by omega)
          · rw [hscan, show i + 1 + FrameKind.status.size = i + FrameKind.status.size + 1 by omega,
              List.drop_succ_cons]
        · refine .inr ⟨?_, t, hscan, ht.cons hb⟩
          intro i
          cases i with
          | zero => exact hf
          | succ i =>
            rw [frameAt?_cons_succ]
            exact hnone i

theorem scan_none {data t : Bytes} (h : scan data = (none, t)) :
    (∀ i, frameAt? data i = none) ∧ KeptTail data t := by
  rcases scan_cases data with ⟨i, f, -, -, hscan⟩ | ⟨hnone, u, hscan, hu⟩
  · rw [h] at hscan
    cases hscan
  · rw [h] at hscan
    cases hscan
    exact ⟨hnone, hu⟩

theorem scan_some {data rest : Bytes} {f : Status} (h : scan data = (some f, rest)) :
    ∃ i, frameAt? data i = some f ∧ (∀ j < i, frameAt? data j = none) ∧
      rest = data.drop (i + FrameKind.status.size) := by
  rcases scan_cases data with ⟨i, g, hg, hfirst, hscan⟩ | ⟨-, u, hscan, -⟩
  · rw [h] at hscan
    cases hscan
    exact ⟨i, hg, hfirst, rfl⟩
  · rw [h] at hscan
    cases hscan

theorem drain_of_none {data t : Bytes} (h : scan data = (none, t)) : drain data = ([], t) := by
  rw [drain]
  split
  · rename_i t' h'
    rw [h] at h'
    cases h'
    rfl
  · rename_i f t' h'
    rw [h] at h'
    cases h'

theorem drain_of_some {data rest : Bytes} {f : Status} (h : scan data = (some f, rest)) :
    drain data = (f :: (drain rest).1, (drain rest).2) := by
  rw [drain]
  split
  · rename_i t' h'
    rw [h] at h'
    cases h'
  · rename_i f' t' h'
    rw [h] at h'
    cases h'
    rfl

theorem behindFrames_of_first {data : Bytes} {i : Nat} {f : Status}
    (hf : frameAt? data i = some f) (hfirst : ∀ j < i, frameAt? data j = none) :
    behindFrames data = behindFrames (data.drop (i + FrameKind.status.size)) := by
  simp only [behindFrames, places_of_first hf hfirst, List.getLast?_cons, List.getLast?_map]
  cases (places (data.drop (i + FrameKind.status.size))).getLast? with
  | none => simp
  | some k => simp [List.drop_drop, Nat.add_assoc]

theorem frames_drain (data : Bytes) :
    (drain data).1.map Except.ok = (places data).map fun i => Status.decode (window data i) := by
  induction data using drain.induct with
  | case1 data t h =>
    rw [drain_of_none h, places_of_none (scan_none h).1]
    rfl
  | case2 data f rest h _ _ _ _ ih =>
    obtain ⟨i, hf, hfirst, rfl⟩ := scan_some h
    rw [drain_of_some h, places_of_first hf hfirst, List.map_cons, List.map_cons, List.map_map, ih,
      frameAt?_eq_some_iff.mp hf]
    simp only [window_drop, Function.comp_def]

theorem keptTail_drain (data : Bytes) : KeptTail (behindFrames data) (drain data).2 := by
  induction data using drain.induct with
  | case1 data t h =>
    rw [drain_of_none h, behindFrames, places_of_none (scan_none h).1]
    exact (scan_none h).2
  | case2 data f rest h _ _ _ _ ih =>
    obtain ⟨i, hf, hfirst, rfl⟩ := scan_some h
    rw [drain_of_some h, behindFrames_of_first hf hfirst]
    exact ih

/-- Draining gives each frame of the stream once, from the front, and keeps the longest tail behind
them that may still become one. Frames share no byte. -/
theorem drain_gives_frames (data : Bytes) :
    (∀ i, i ∈ places data ↔ ∃ f, Status.decode (window data i) = .ok f) ∧
      (places data).Pairwise (fun i j => i + FrameKind.status.size ≤ j) ∧
      (drain data).1.map Except.ok =
        (places data).map (fun i => Status.decode (window data i)) ∧
      KeptTail (behindFrames data) (drain data).2 :=
  ⟨fun _ => mem_places, pairwise_places data, frames_drain data, keptTail_drain data⟩

end Stream
end SpindleLink
