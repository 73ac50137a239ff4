import SpindleLink.Proofs.StreamFrames

/-! Reading a stream in chunks. What a scan throws away can take no part in a later frame, so the
tail it keeps stands for all bytes so far: however a stream is cut, the same frames come out and the
same tail stays. -/

namespace SpindleLink
namespace Stream

/-- The frames of all chunks in a row, and the tail that stays behind the last one. -/
def gathered (kept : Bytes) (fed : List (List Status × Bytes)) : List Status × Bytes :=
  (fed.flatMap Prod.fst, (fed.getLast?.map Prod.snd).getD kept)

@[simp] theorem gathered_nil (kept : Bytes) : gathered kept [] = ([], kept) := rfl

@[simp] theorem gathered_cons (kept : Bytes) (r : List Status × Bytes)
    (fed : List (List Status × Bytes)) :
    gathered kept (r :: fed) = (r.1 ++ (gathered r.2 fed).1, (gathered r.2 fed).2) := by
  simp only [gathered, List.flatMap_cons, List.getLast?_cons, Option.map_some, Option.getD_some]
  cases fed.getLast? <;> rfl

/-- A frame that is there does not depend on what follows. -/
theorem frameAt?_append {a : Bytes} {i : Nat} {f : Status} (h : frameAt? a i = some f) (b : Bytes) :
    frameAt? (a ++ b) i = some f := by
  have hlen := length_of_frameAt? h
  have hwindow : window (a ++ b) i = window a i := by
    rw [window, window, List.drop_append_of_le_length (by omega),
      List.take_append_of_le_length (by rw [List.length_drop]; omega)]
  rwa [frameAt?, hwindow]

theorem frameAt?_append_of_none {a : Bytes} (h : frameAt? a 0 = none)
    (hlong : FrameKind.status.size ≤ a.length) (b : Bytes) : frameAt? (a ++ b) 0 = none := by
  have hwindow : window (a ++ b) 0 = window a 0 := by
    rw [window, window, List.drop_zero, List.drop_zero, List.take_append_of_le_length hlong]
  rwa [frameAt?, hwindow]

theorem neither_append {c : UInt8} {a : Bytes} (hf : frameAt? (c :: a) 0 = none)
    (hb : ¬ MayBegin (c :: a)) (b : Bytes) :
    frameAt? (c :: a ++ b) 0 = none ∧ ¬ MayBegin (c :: a ++ b) := by
  by_cases hlong : FrameKind.status.size ≤ (c :: a).length
  · refine ⟨frameAt?_append_of_none hf hlong b, ?_⟩
    rintro ⟨hshort, -⟩
    rw [List.length_append] at hshort
    omega
  · have hheader : ¬ [lead, mark] <+: c :: a ++ b ∧ c :: a ++ b ≠ [lead] := by
      have hcut : ¬ ([lead, mark] <+: c :: a ∨ c :: a = [lead]) :=
        fun h => hb ⟨Nat.lt_of_not_le hlong, h⟩
      cases a with
      | nil =>
        have hc : c ≠ lead := fun h => hcut (.inr (by rw [h]))
        refine ⟨fun h => hc ?_, fun h => hc (List.cons.inj h).1⟩
        exact (List.cons_prefix_cons.mp h).1.symm
      | cons m rest =>
        refine ⟨fun h => hcut (.inl ?_), by simp⟩
        simpa [List.cons_prefix_cons] using h
    refine ⟨?_, fun h => h.2.elim hheader.1 hheader.2⟩
    by_contra hne
    obtain ⟨f, hf⟩ := Option.ne_none_iff_exists'.mp hne
    exact hheader.1 (atHeader_iff.mp (atHeader_of_frameAt? hf))

theorem scan_append_of_some {a rest : Bytes} {f : Status} (h : scan a = (some f, rest))
    (b : Bytes) : scan (a ++ b) = (some f, rest ++ b) := by
  induction a with
  | nil => simp [scan] at h
  | cons c a ih =>
    cases hf : frameAt? (c :: a) 0 with
    | some g =>
      rw [scan_of_frameAt? hf] at h
      cases h
      rw [scan_of_frameAt? (frameAt?_append hf b), List.drop_append_of_le_length]
      simpa using length_of_frameAt? hf
    | none =>
      by_cases hb : MayBegin (c :: a)
      · rw [scan_of_mayBegin hb] at h
        cases h
      · obtain ⟨hf', hb'⟩ := neither_append hf hb b
        rw [scan_of_neither hf hb] at h
        exact (scan_of_neither hf' hb').trans (ih h)

/-- The kept tail stands for all that was scanned. -/
theorem scan_append_of_none {a t : Bytes} (h : scan a = (none, t)) (b : Bytes) :
    scan (a ++ b) = scan (t ++ b) := by
  induction a with
  | nil =>
    cases h
    rfl
  | cons c a ih =>
    cases hf : frameAt? (c :: a) 0 with
    | some g =>
      rw [scan_of_frameAt? hf] at h
      cases h
    | none =>
      by_cases hb : MayBegin (c :: a)
      · rw [scan_of_mayBegin hb] at h
        cases h
        rfl
      · obtain ⟨hf', hb'⟩ := neither_append hf hb b
        rw [scan_of_neither hf hb] at h
        exact (scan_of_neither hf' hb').trans (ih h)

/-- What is kept is short and is kept again. -/
theorem scan_kept {data t : Bytes} (h : scan data = (none, t)) :
    t.length ≤ 12 ∧ scan t = (none, t) := by
  rcases (scan_none h).2.mayBegin with rfl | hb
  · exact ⟨by decide, rfl⟩
  · exact ⟨Nat.le_of_lt_succ hb.1, scan_of_mayBegin hb⟩

theorem scan_drain (data : Bytes) : scan (drain data).2 = (none, (drain data).2) := by
  induction data using drain.induct with
  | case1 data t h =>
    rw [drain_of_none h]
    exact (scan_kept h).2
  | case2 data f rest h _ _ _ _ ih => rwa [drain_of_some h]

theorem drain_congr {a b : Bytes} (h : scan a = scan b) : drain a = drain b := by
  rcases hscan : scan b with ⟨_ | f, rest⟩
  · rw [drain_of_none (h.trans hscan), drain_of_none hscan]
  · rw [drain_of_some (h.trans hscan), drain_of_some hscan]

/-- Draining in two parts: the tail of the first stands before the second. -/
theorem drain_append (a b : Bytes) :
    drain (a ++ b) =
      ((drain a).1 ++ (drain ((drain a).2 ++ b)).1, (drain ((drain a).2 ++ b)).2) := by
  induction a using drain.induct with
  | case1 a t h =>
    rw [drain_of_none h, drain_congr (scan_append_of_none h b)]
    rfl
  | case2 a f rest h _ _ _ _ ih =>
    rw [drain_of_some h, drain_of_some (scan_append_of_some h b), ih]
    rfl

theorem gathered_feedAll {kept : Bytes} (h : scan kept = (none, kept)) (chunks : List Bytes) :
    gathered kept (feedAll kept chunks) = drain (kept ++ chunks.flatten) := by
  induction chunks generalizing kept with
  | nil => rw [feedAll, gathered_nil, List.flatten_nil, List.append_nil, drain_of_none h]
  | cons chunk chunks ih =>
    rw [feedAll, gathered_cons, feed, ih (scan_drain _), List.flatten_cons, ← List.append_assoc,
      drain_append (kept ++ chunk)]

theorem scan_of_mem_feedAll {kept : Bytes} {chunks : List Bytes} {r : List Status × Bytes}
    (h : r ∈ feedAll kept chunks) : scan r.2 = (none, r.2) := by
  induction chunks generalizing kept with
  | nil => cases h
  | cons chunk chunks ih =>
    rcases List.mem_cons.mp h with rfl | h
    · exact scan_drain _
    · exact ih h

/-- However a stream is cut into chunks, the frames and the last tail are those of the stream fed at
once; and each tail that is kept on the way is short and would be kept again. -/
theorem feedAll_cut_invariant (chunks : List Bytes) :
    gathered [] (feedAll [] chunks) = gathered [] (feedAll [] [chunks.flatten]) ∧
      ∀ r ∈ feedAll [] chunks, r.2.length ≤ 12 ∧ scan r.2 = (none, r.2) := by
  constructor
  · rw [gathered_feedAll rfl, gathered_feedAll rfl, List.flatten_singleton]
  · intro r hr
    exact scan_kept (scan_of_mem_feedAll hr)

end Stream
end SpindleLink
