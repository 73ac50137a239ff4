import Mathlib.Tactic.ByContra
import SpindleLink.Proofs.FrameCodecs

/-! Corrupted frames. The exclusive or of all bytes that it covers and of itself is nothing, so it
counts the changes of each bit modulo two. A change that touches each of the eight bits in one byte
at most, as a changed byte or a burst of eight bits does, is seen there, or it has left alone all
that the sum covers, and is seen in the sum. -/

namespace SpindleLink

def column (k : Nat) (data : Bytes) : List Bool := data.map fun b => b.toNat.testBit k

def parity (u : List Bool) : Bool := u.foldr Bool.xor false

def DifferOnce (u v : List Bool) : Prop := ∀ i j : Nat, u[i]? ≠ v[i]? → u[j]? ≠ v[j]? → i = j

/-- Each bit is another in one byte at most. -/
def Sparse (f g : Bytes) : Prop := ∀ k < 8, DifferOnce (column k f) (column k g)

/-- Another byte string of the same length, where each bit is another in one byte at most. -/
structure Corrupted (f g : Bytes) : Prop where
  length : g.length = f.length
  changed : g ≠ f
  sparse : Sparse f g

def OneByte (f g : Bytes) : Prop := ∃ i : Nat, ∀ j, j ≠ i → f[j]? = g[j]?

/-- All bits that differ stand among eight in a row, in whatever order the bits of a byte come. -/
def Burst (rank : Nat → Nat) (f g : Bytes) : Prop :=
  ∃ first, ∀ i, ∀ k < 8, (column k f)[i]? ≠ (column k g)[i]? →
    first ≤ 8 * i + rank k ∧ 8 * i + rank k < first + 8

theorem differOnce_iff {u v : List Bool} :
    DifferOnce u v ↔ ∀ i < max u.length v.length, ∀ j < max u.length v.length,
      u[i]? ≠ v[i]? → u[j]? ≠ v[j]? → i = j := by
  have hbound {i : Nat} (h : u[i]? ≠ v[i]?) : i < max u.length v.length := by
    by_contra hi
    rw [Nat.not_lt, Nat.max_le] at hi
    exact h (by rw [List.getElem?_eq_none hi.1, List.getElem?_eq_none hi.2])
  exact ⟨fun h i _ j _ => h i j, fun h i j hi hj => h i (hbound hi) j (hbound hj) hi hj⟩

instance (u v : List Bool) : Decidable (DifferOnce u v) := decidable_of_iff' _ differOnce_iff

instance (f g : Bytes) : Decidable (Sparse f g) :=
  inferInstanceAs (Decidable (∀ k < 8, DifferOnce (column k f) (column k g)))

@[simp] theorem getElem?_column (k : Nat) (data : Bytes) (i : Nat) :
    (column k data)[i]? = (data[i]?).map fun b => b.toNat.testBit k := by
  simp [column]

theorem Sparse.of_oneByte {f g : Bytes} (h : OneByte f g) : Sparse f g := by
  obtain ⟨n, hn⟩ := h
  have hplace {k i : Nat} (hi : (column k f)[i]? ≠ (column k g)[i]?) : i = n := by
    by_contra hne
    exact hi (by rw [getElem?_column, getElem?_column, hn i hne])
  exact fun k _ i j hi hj => (hplace hi).trans (hplace hj).symm

theorem Sparse.of_burst {rank : Nat → Nat} {f g : Bytes} (h : Burst rank f g) : Sparse f g := by
  obtain ⟨first, hfirst⟩ := h
  intro k hk i j hi hj
  have := hfirst i k hk hi
  have := hfirst j k hk hj
  omega

theorem Sparse.drop {f g : Bytes} (h : Sparse f g) (n : Nat) : Sparse (f.drop n) (g.drop n) := by
  intro k hk i j hi hj
  simp only [getElem?_column, List.getElem?_drop] at hi hj
  have := h k hk (n + i) (n + j) (by simpa using hi) (by simpa using hj)
  omega

theorem Sparse.take {f g : Bytes} (h : Sparse f g) (n : Nat) : Sparse (f.take n) (g.take n) := by
  have hplace {k i : Nat} (hi : (column k (f.take n))[i]? ≠ (column k (g.take n))[i]?) :
      (column k f)[i]? ≠ (column k g)[i]? := by
    by_cases hn : i < n
    · simpa [List.getElem?_take_of_lt hn] using hi
    · rw [Nat.not_lt] at hn
      simp [List.getElem?_take_eq_none hn] at hi
  exact fun k hk i j hi hj => h k hk i j (hplace hi) (hplace hj)

theorem parity_cons (b : Bool) (u : List Bool) : parity (b :: u) = (b ^^ parity u) := rfl

theorem eq_of_parity {u v : List Bool} (hlen : u.length = v.length) (honce : DifferOnce u v)
    (hparity : parity u = parity v) : u = v := by
  induction u generalizing v with
  | nil => exact (List.length_eq_zero_iff.mp hlen.symm).symm
  | cons x u ih =>
    cases v with
    | nil => cases hlen
    | cons y v =>
      rw [List.length_cons, List.length_cons, Nat.add_right_cancel_iff] at hlen
      rw [parity_cons, parity_cons] at hparity
      by_cases hxy : x = y
      · subst hxy
        have hrest : DifferOnce u v := fun i j hi hj =>
          Nat.succ.inj (honce (i + 1) (j + 1) hi hj)
        rw [ih hlen hrest (Bool.xor_right_inj.mp hparity)]
      · have hrest : u = v := by
          apply List.ext_getElem?
          intro i
          by_contra hi
          exact absurd (honce 0 (i + 1) (by simpa using hxy) hi) (Nat.succ_ne_zero i).symm
        rw [hrest] at hparity
        exact absurd (Bool.xor_left_inj.mp hparity) hxy

theorem testBit_xorOf (k : Nat) (data : Bytes) :
    (xorOf data).toNat.testBit k = parity (column k data) := by
  induction data with
  | nil => simp [parity, column]
  | cons b data ih =>
    have hcolumn : column k (b :: data) = b.toNat.testBit k :: column k data := rfl
    rw [xorOf_cons, UInt8.toNat_xor, Nat.testBit_xor, ih, hcolumn, parity_cons]

theorem eq_of_testBit {a b : UInt8} (h : ∀ k < 8, a.toNat.testBit k = b.toNat.testBit k) :
    a = b := by
  have hhigh (c : UInt8) {k : Nat} (hk : 8 ≤ k) : c.toNat.testBit k = false :=
    Nat.testBit_lt_two_pow (Nat.lt_of_lt_of_le c.toNat_lt (Nat.pow_le_pow_right (by decide) hk))
  apply UInt8.toNat_inj.mp
  apply Nat.eq_of_testBit_eq
  intro k
  by_cases hk : k < 8
  · exact h k hk
  · rw [hhigh a (Nat.not_lt.mp hk), hhigh b (Nat.not_lt.mp hk)]

theorem eq_of_columns {f g : Bytes} (hlen : f.length = g.length)
    (h : ∀ k < 8, column k f = column k g) : f = g := by
  apply List.ext_getElem hlen
  intro i hf hg
  apply eq_of_testBit
  intro k hk
  have hbit : (column k f)[i]? = (column k g)[i]? := by rw [h k hk]
  simpa [hf, hg] using hbit

/-- The exclusive or sees every sparse change. -/
theorem eq_of_xorOf {f g : Bytes} (hlen : f.length = g.length) (hsparse : Sparse f g)
    (hxor : xorOf f = xorOf g) : f = g := by
  apply eq_of_columns hlen
  intro k hk
  apply eq_of_parity
  · simp [column, hlen]
  · exact hsparse k hk
  · rw [← testBit_xorOf, ← testBit_xorOf, hxor]

/-- Covered bytes with their integrity pair behind them, between fixed bytes. -/
def framed (before covered : Bytes) : Bytes :=
  before ++ (covered ++ [(Seal.of covered).xor] ++ [(Seal.of covered).add, terminator])

theorem xorOf_covered (covered : Bytes) : xorOf (covered ++ [(Seal.of covered).xor]) = 0 := by
  rw [xorOf_append, xorOf_cons]
  simp [Seal.of]

theorem eq_of_framed {before covered covered' : Bytes} (hlen : covered.length = covered'.length)
    (hsparse : Sparse (framed before covered) (framed before covered')) : covered = covered' := by
  have hmiddle (bytes : Bytes) :
      ((framed before bytes).drop before.length).take (bytes.length + 1) =
        bytes ++ [(Seal.of bytes).xor] := by
    rw [framed, List.drop_left]
    exact List.take_left' (by simp)
  have hinner := (hsparse.drop before.length).take (covered.length + 1)
  rw [hmiddle, hlen, hmiddle] at hinner
  have hsame := eq_of_xorOf (by simp [hlen]) hinner
    ((xorOf_covered covered).trans (xorOf_covered covered').symm)
  exact (List.append_inj hsame hlen).1

theorem Status.sealed_eq_framed (ds : Bytes) (i : UInt8) :
    sealed ds i = framed [lead] ([mark] ++ ds ++ [i] ++ fixed) := by
  simp [sealed, framed]

theorem Status.eq_of_sparse {f g : Bytes} {a b : Status} (hf : decode f = .ok a)
    (hg : decode g = .ok b) (h : Sparse f g) : f = g := by
  obtain ⟨ds, i, hlen, -, rfl, -⟩ := decode_eq_ok_iff.mp hf
  obtain ⟨ds', i', hlen', -, rfl, -⟩ := decode_eq_ok_iff.mp hg
  rw [sealed_eq_framed, sealed_eq_framed] at h ⊢
  rw [eq_of_framed (by simp [hlen, hlen']) h]

theorem Command.eq_of_sparse {f g : Bytes} {a b : Command} (hf : ofBytes f = .ok a)
    (hg : ofBytes g = .ok b) (h : Sparse f g) : f = g := by
  obtain ⟨d₁, d₂, c, rfl, -⟩ := ofBytes_eq_ok_iff.mp hf
  obtain ⟨d₁', d₂', c', rfl, -⟩ := ofBytes_eq_ok_iff.mp hg
  have hform (d₁ d₂ c : UInt8) : sealed d₁ d₂ c = framed [lead, mark] [d₁, d₂, c, tail] := rfl
  rw [hform, hform] at h
  have hsame : [d₁, d₂, c, tail] = [d₁', d₂', c', tail] := eq_of_framed rfl h
  rw [hform, hform, hsame]

/-- A reader that tells frames apart from all that differ sparsely takes what was corrupted for
malformed. -/
theorem FrameKind.ReadsExactly.rejects {α : Type} {kind : FrameKind}
    {read : Bytes → Except Defect α} {Written : Bytes → α → Prop}
    (h : kind.ReadsExactly read Written)
    (happart : ∀ {f g a b}, read f = .ok a → read g = .ok b → Sparse f g → f = g)
    {f g : Bytes} {a : α} (hf : read f = .ok a) (hg : Corrupted f g) :
    ∃ d, read g = .error d ∧ (Fault.defect d).kind = .badFrame := by
  have hsize : kind.size ≤ g.length := by
    rw [hg.length]
    by_contra hshort
    obtain ⟨d, hd, -⟩ := h.cut f (Nat.not_le.mp hshort)
    rw [hf] at hd
    cases hd
  cases hread : read g with
  | error d => exact ⟨d, rfl, h.malformed g d hsize hread⟩
  | ok b => exact absurd (happart hf hread hg.sparse).symm hg.changed

/-- What a frame of either kind is corrupted into is rejected as malformed. Among the corruptions
are the changes of a single byte, and those of eight bits in a row, whichever bit of a byte comes
first. -/
theorem corrupted_rejected :
    (∀ f g a, Status.decode f = .ok a → Corrupted f g →
        ∃ d, Status.decode g = .error d ∧ (Fault.defect d).kind = .badFrame) ∧
      (∀ f g a, Command.ofBytes f = .ok a → Corrupted f g →
        ∃ d, Command.ofBytes g = .error d ∧ (Fault.defect d).kind = .badFrame) ∧
      ∀ f g, g.length = f.length → g ≠ f →
        (OneByte f g → Corrupted f g) ∧ ∀ rank, Burst rank f g → Corrupted f g :=
  ⟨fun _ _ _ => Status.decode_exact.rejects Status.eq_of_sparse,
    fun _ _ _ => Command.ofBytes_exact.rejects Command.eq_of_sparse,
    fun _ _ hlen hne => ⟨fun h => ⟨hlen, hne, .of_oneByte h⟩, fun _ h => ⟨hlen, hne, .of_burst h⟩⟩⟩

/-- A burst on a display of 25.00 hertz, the low bits of a byte first: the last four bits of one
digit and the first four of the next. -/
theorem burst_rejected :
    ∃ f g a d, Status.decode f = .ok a ∧ Corrupted f g ∧ Status.decode g = .error d ∧
      (Fault.defect d).kind = .badFrame := by
  let f := Status.sealed [0, 2, 5, 0, 0] 1
  let g := (f.set 3 0xF2).set 4 0x0A
  have hf : Status.decode f = .ok (Status.shown [0, 2, 5, 0, 0] 1) :=
    Status.decode_sealed rfl (by simp [Status.IsDigit])
  have hlength : g.length = f.length := by simp [g]
  have hg : Corrupted f g := ⟨hlength, by decide, by decide⟩
  obtain ⟨d, hd, hkind⟩ := corrupted_rejected.1 f g _ hf hg
  exact ⟨f, g, _, d, hf, hg, hd, hkind⟩

/-- Two digits that change places are no such corruption: they change the same bits twice, and that
goes unnoticed. -/
example : ¬ Sparse (Status.sealed [0, 2, 5, 0, 0] 1) (Status.sealed [0, 5, 2, 0, 0] 1) ∧
    (Status.decode (Status.sealed [0, 5, 2, 0, 0] 1)).toOption =
      some (Status.shown [0, 5, 2, 0, 0] 1) := by
  decide

end SpindleLink
