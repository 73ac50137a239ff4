import Mathlib.Algebra.GroupWithZero.Nat
import SpindleLink.Proofs.Arrival
import SpindleLink.Proofs.FrameCodecs
import SpindleLink.Proofs.Resynchronisation

/-! Reading that begins in the midst of a frame. The window that straddles two frames is no frame,
so plain readings reject it; resynchronising goes on to the frame behind and takes no byte more. -/

namespace SpindleLink

variable {T : Type}

namespace Clock

variable [TimeScale T]

/-- Whether bytes that are asked for in portions come before a deadline. Each portion is waited for
as long as a reading of the clock says remains. -/
def Portioned (gap deadline : T) : List Nat → Clock T → Prop
  | [], _ => True
  | n :: ns, c => ¬ deadline - c.tick.now ≤ 0 ∧ c.tick.Within gap (deadline - c.tick.now) n ∧
      Portioned gap deadline ns (c.tick.received gap n)

/-- Whether there is time for `n` bytes before a deadline, however they are portioned. -/
def Ample (gap deadline : T) (n : Nat) (c : Clock T) : Prop :=
  ∀ portions : List Nat, portions.sum = n → (∀ m ∈ portions, 0 < m) →
    Portioned gap deadline portions c

theorem Ample.portion {gap deadline : T} {m n : Nat} {c : Clock T}
    (h : c.Ample gap deadline (m + n)) (hm : 0 < m) :
    ¬ deadline - c.tick.now ≤ 0 ∧ c.tick.Within gap (deadline - c.tick.now) m ∧
      (c.tick.received gap m).Ample gap deadline n := by
  have hsplit (portions : List Nat) (hsum : portions.sum = n) (hpos : ∀ i ∈ portions, 0 < i) :
      Portioned gap deadline (m :: portions) c :=
    h (m :: portions) (by rw [List.sum_cons, hsum]) (List.forall_mem_cons.mpr ⟨hm, hpos⟩)
  have hones := hsplit (List.replicate n 1) (by simp) (by simp)
  exact ⟨hones.1, hones.2.1, fun portions hsum hpos => (hsplit portions hsum hpos).2.2⟩

def still (readings : Nat) : Clock Float := ⟨0, readings, fun _ => 0⟩

theorem tick_still (r : Nat) : (still r).tick = still (r + 1) := by
  have hzero : (0 : Float) + 0 = 0 := by decide +kernel
  simp only [tick, still, hzero]

theorem inTime_still (r n : Nat) :
    (still r).InTime 0 1 n ∧ ∃ r', (still r).behind 0 n = still r' := by
  induction n generalizing r with
  | zero => exact ⟨trivial, r, rfl⟩
  | succ n ih =>
    have hnow : ¬ (1 : Float) - 0 ≤ 0 ∧ (0 : Float) ≤ 1 - 0 := by decide +kernel
    have helapse : (still r).tick.elapse 0 = still (r + 1) := by
      rw [tick_still]
      exact tick_still r
    rw [InTime, behind, helapse, tick_still]
    exact ⟨⟨hnow.1, hnow.2, (ih (r + 1)).1⟩, (ih (r + 1)).2⟩

theorem within_still (r n : Nat) : (still r).Within 0 1 n := by
  have hdeadline : (0 : Float) + 1 = 1 := by decide +kernel
  have hnow : (still (r + 1)).now + 1 = 1 := hdeadline
  rw [Within, tick_still, hnow]
  exact (inTime_still (r + 1) n).1

theorem portioned_still (r : Nat) (portions : List Nat) : (still r).Portioned 0 1 portions := by
  induction portions generalizing r with
  | nil => trivial
  | cons n portions ih =>
    have hopen : ¬ (1 : Float) ≤ 0 ∧ (1 : Float) - 0 = 1 := by decide +kernel
    have hnow : 1 - (still (r + 1)).now = 1 := hopen.2
    obtain ⟨r', hbehind⟩ := (inTime_still (r + 2) n).2
    rw [Portioned, tick_still, received, tick_still, hbehind, hnow]
    exact ⟨hopen.1, within_still (r + 1) n, ih r'⟩

end Clock

namespace Stream

theorem scan_of_first {data : Bytes} {i : Nat} {f : Status} (hf : frameAt? data i = some f)
    (hfirst : ∀ j < i, frameAt? data j = none) :
    scan data = (some f, data.drop (i + FrameKind.status.size)) := by
  rcases scan_cases data with ⟨i', g, hg, hbefore, hscan⟩ | ⟨hnone, -⟩
  · rcases Nat.lt_trichotomy i i' with hlt | rfl | hlt
    · rw [hbefore i hlt] at hf
      cases hf
    · rw [hf] at hg
      rw [hscan, Option.some.inj hg]
    · rw [hfirst i' hlt] at hg
      cases hg
  · rw [hnone i] at hf
    cases hf

theorem length_of_scan {data rest : Bytes} {f : Status} (h : scan data = (some f, rest)) :
    FrameKind.status.size + rest.length ≤ data.length := by
  obtain ⟨i, hf, -, rfl⟩ := scan_some h
  have := length_of_frameAt? hf
  rw [List.length_drop]
  omega

theorem frameAt?_of_decode {data : Bytes} {f : Status} (h : Status.decode data = .ok f) :
    frameAt? data 0 = some f := by
  have hwindow : window data 0 = data :=
    List.take_of_length_le (Nat.le_of_eq (Status.length_of_decode h))
  exact frameAt?_eq_some_iff.mpr (hwindow.symm ▸ h)

section Straddling

variable {first second : Bytes} {f₀ f₁ : Status} {k : Nat}

theorem drop_straddling (hfirst : Status.decode first = .ok f₀) (more : Bytes) :
    first.drop (FrameKind.status.size - k) ++ more =
      (first ++ more).drop (FrameKind.status.size - k) := by
  rw [List.drop_append_of_le_length]
  rw [Status.length_of_decode hfirst]
  exact Nat.sub_le _ _

theorem length_straddling (hfirst : Status.decode first = .ok f₀) (hk : k ≤ 12) :
    (first.drop (FrameKind.status.size - k)).length = k := by
  rw [List.length_drop, Status.length_of_decode hfirst]
  simp only [FrameKind.size]
  omega

theorem frameAt?_straddling (hfirst : Status.decode first = .ok f₀) (hk : k ≤ 12) (more : Bytes)
    {j : Nat} (hj : j < k) :
    frameAt? (first.drop (FrameKind.status.size - k) ++ more) j = none := by
  by_contra hne
  obtain ⟨g, hg⟩ := Option.ne_none_iff_exists'.mp hne
  rw [drop_straddling hfirst, frameAt?_drop] at hg
  have hzero := frameAt?_append (frameAt?_of_decode hfirst) more
  have hapart := frames_apart hzero hg (by simp only [FrameKind.size]; omega)
  simp only [FrameKind.size] at hapart
  omega

/-- A scan from the midst of a frame finds the next one. -/
theorem scan_straddling (hfirst : Status.decode first = .ok f₀)
    (hsecond : Status.decode second = .ok f₁) (hk : k ≤ 12) (later : Bytes) :
    scan (first.drop (FrameKind.status.size - k) ++ (second ++ later)) = (some f₁, later) := by
  have hlen := length_straddling hfirst hk
  have hfound : frameAt? (first.drop (FrameKind.status.size - k) ++ (second ++ later)) k =
      some f₁ := by
    have hzero := frameAt?_append (frameAt?_of_decode hsecond) later
    have hdrop : (first.drop (FrameKind.status.size - k) ++ (second ++ later)).drop k =
        second ++ later := List.drop_left' hlen
    rw [← hdrop, frameAt?_drop] at hzero
    exact hzero
  rw [scan_of_first hfound fun j hj => frameAt?_straddling hfirst hk _ hj, ← List.drop_drop,
    List.drop_left' hlen, List.drop_left' (Status.length_of_decode hsecond)]

end Straddling
end Stream

namespace Drive

variable {d : Drive T} {source : ByteSource T} {clock : Clock T} {b : Bench T}

theorem decode_error (h : d.line.Listens source clock b) {data : Bytes} {defect : Defect}
    (hdecode : Status.decode data = .error defect) :
    ∃ b', decode data b = (.error (.defect defect), b') ∧ d.line.Listens source clock b' := by
  rw [decode, hdecode]
  by_cases hlong : defect.isShort = false
  · obtain ⟨b', hnote, h'⟩ := h.note (.statusRejected data (.defect defect))
    simp only [Act.onlyIf, if_pos hlong]
    exact ⟨b', Act.bind_ok hnote, h'⟩
  · simp only [Act.onlyIf, if_neg hlong]
    exact ⟨b, rfl, h⟩

/-- What thirteen bytes from `k` bytes before a frame on are taken for: the content of the frame
when they are the frame itself, else a wrong frame. -/
def Judged {α : Type} (k : Nat) (content : α) (outcome : Except Fault α) : Prop :=
  if k = 0 then outcome = .ok content else ∃ f, outcome = .error f ∧ f.kind = .badFrame

theorem decode_straddling (h : d.line.Listens source clock b) {first second data rest : Bytes}
    {f₀ f₁ : Status} (hfirst : Status.decode first = .ok f₀)
    (hsecond : Status.decode second = .ok f₁) {k : Nat} (hk : k ≤ 12)
    (hlen : data.length = FrameKind.status.size) {later : Bytes}
    (hbytes : first.drop (FrameKind.status.size - k) ++ (second ++ later) = data ++ rest) {α : Type}
    (content : Status → α) :
    ∃ outcome b', (content <$> decode data : Act (Bench T) α) b = (outcome, b') ∧
      Judged k (content f₁) outcome ∧ d.line.Listens source clock b' := by
  rcases Nat.eq_zero_or_pos k with rfl | hpos
  · have hdata : data = second := by
      have hnil := List.eq_nil_of_length_eq_zero (Stream.length_straddling hfirst hk)
      rw [hnil, List.nil_append] at hbytes
      exact (List.append_inj_left hbytes
        ((Status.length_of_decode hsecond).trans hlen.symm)).symm
    refine ⟨.ok (content f₁), b, ?_, by rw [Judged, if_pos rfl], h⟩
    rw [Act.map_apply, decode_ok (hdata ▸ hsecond)]
    rfl
  · have hnone := Stream.frameAt?_straddling hfirst hk (second ++ later) hpos
    rcases hdecode : Status.decode data with defect | g
    · obtain ⟨b', hrun, h'⟩ := decode_error h hdecode
      have hlong := Status.isShort_of_decode (Nat.le_of_eq hlen.symm) hdecode
      have hkind : (Fault.defect defect).kind = .badFrame := by simp [Fault.kind, hlong]
      refine ⟨.error (.defect defect), b', ?_, ?_, h'⟩
      · rw [Act.map_apply, hrun]
        rfl
      · rw [Judged, if_neg (Nat.ne_of_gt hpos)]
        exact ⟨_, rfl, hkind⟩
    · rw [hbytes, Stream.frameAt?_append (Stream.frameAt?_of_decode hdecode)] at hnone
      cases hnone

variable [TimeScale T]

theorem readSpeed_within (h : d.line.Listens source clock b) {data rest : Bytes}
    (hlen : data.length = FrameKind.status.size) (hincoming : source.incoming = data ++ rest)
    {wait : Option (Wait T)} {t : T} (hwait : (wait.getD d.readTimeout).toTime = .ok t)
    (htime : clock.Within source.gap t FrameKind.status.size) :
    ∃ b', d.readSpeed wait b = (Reading.ofFrame <$> decode data : Act (Bench T) Reading) b' ∧
      d.line.Listens { source with stale := [], incoming := rest }
        (clock.received source.gap FrameKind.status.size) b' := by
  rw [← hlen] at htime ⊢
  obtain ⟨b', hawait, h'⟩ := awaitBytes_fresh h hincoming hwait htime
  refine ⟨b', ?_, h'⟩
  rw [readSpeed, ← hlen, Act.bind_ok hawait]

/-- A report is read off the first thirteen incoming bytes, or they are where resynchronising
begins. -/
theorem readReport_within (h : d.line.Listens source clock b) {data rest : Bytes}
    (hlen : data.length = FrameKind.status.size) (hincoming : source.incoming = data ++ rest)
    {wait : Option (Wait T)} {t : T} (hwait : (wait.getD d.readTimeout).toTime = .ok t)
    (htime : clock.tick.Within source.gap t FrameKind.status.size) (resync : Bool) :
    ∃ b', d.readReport wait resync b = (if resync then
        Report.ofFrame <$> d.resynchronise (clock.tick.now + t) (rest.length + 1) data
        else Report.ofFrame <$> decode data : Act (Bench T) Report) b' ∧
      d.line.Listens { source with stale := [], incoming := rest }
        (clock.tick.received source.gap FrameKind.status.size) b' := by
  obtain ⟨b₁, hclock, h₁⟩ := h.readClock
  rw [← hlen] at htime ⊢
  obtain ⟨b₂, hawait, h₂⟩ := awaitBytes_fresh h₁ hincoming hwait htime
  refine ⟨b₂, ?_, h₂⟩
  rw [readReport_start hclock hwait, ← hlen, Act.bind_ok hawait]
  cases resync with
  | false => rfl
  | true =>
    simp only [if_true]
    rw [Act.bind_ok (Act.observe_apply _ b₂), h₂.source_eq]
    rfl

/-- The rounds meet the frame that a scan of all bytes finds. -/
theorem resynchronise_ample {deadline : T} {rounds : Nat} {consumed buffer left later : Bytes}
    {frame : Status} (h : d.line.Listens source clock b) (hstale : source.stale = [])
    (hincoming : source.incoming = left ++ later)
    (hfull : buffer.length = FrameKind.status.size) (hstands : Stream.StandsFor buffer consumed)
    (hscan : Stream.scan (consumed ++ (left ++ later)) = (some frame, later))
    (htime : clock.Ample source.gap deadline left.length) (hrounds : left.length < rounds) :
    ∃ clock' b', d.resynchronise deadline rounds buffer b = (.ok frame, b') ∧
      d.line.Listens { source with incoming := later } clock' b' := by
  induction rounds generalizing source clock b consumed buffer left with
  | zero => exact absurd hrounds (Nat.not_lt_zero _)
  | succ rounds ih =>
    rw [hstands.2] at hscan
    rcases hbuffer : Stream.scan buffer with ⟨_ | found, rest⟩
    · have hkept := hstands.kept hbuffer
      have hrest := (Stream.scan_kept hbuffer).1
      rw [Stream.scan_append_of_none hbuffer] at hscan
      obtain ⟨m, hm⟩ : ∃ m, FrameKind.status.size - rest.length = m := ⟨_, rfl⟩
      -- The frame ends behind the buffer, so a round never asks for more than is left of it.
      have hfits : m ≤ left.length := by
        have := Stream.length_of_scan hscan
        simp only [List.length_append] at this
        omega
      have hm0 : 0 < m := by
        simp only [FrameKind.size] at hm
        omega
      obtain ⟨more, left, rfl, rfl⟩ : ∃ more left', left = more ++ left' ∧ more.length = m :=
        ⟨left.take m, left.drop m, (List.take_append_drop m left).symm, by simp [hfits]⟩
      rw [List.length_append] at htime hrounds
      obtain ⟨hopen, hwithin, hample⟩ := htime.portion hm0
      obtain ⟨b₁, hnote, h₁⟩ := h.note (.resynchronising more.length)
      obtain ⟨b₂, hclock, h₂⟩ := h₁.readClock
      rw [List.append_assoc] at hincoming hscan
      obtain ⟨b₃, hawait, h₃⟩ :=
        awaitBytes_within h₂ hstale hincoming (Wait.toTime_time (deadline - clock.tick.now)) hwithin
      obtain ⟨clock', b₄, hrun, h₄⟩ := ih h₃ hstale rfl
        (by rw [List.length_append, ← hm]; simp only [FrameKind.size]; omega) (hkept.append more)
        (by rw [List.append_assoc, hkept.2]; exact hscan) hample (by omega)
      refine ⟨clock', b₄, ?_, h₄⟩
      rw [resynchronise, hbuffer]
      simp only
      rw [hm, Act.bind_ok hnote, Act.bind_ok hclock, if_neg hopen,
        Act.bind_ok (Act.relabel_ok hawait), hrun]
    · obtain rfl := Stream.scan_some_of_full hfull hbuffer
      rw [Stream.scan_append_of_some hbuffer, List.nil_append] at hscan
      obtain ⟨hfound, hlater⟩ := Prod.mk.inj hscan
      obtain rfl := Option.some.inj hfound
      refine ⟨clock, b, resynchronise_of_scan deadline hbuffer b, ?_⟩
      rw [← hlater, ← hincoming]
      exact h

/-- From the last `k` bytes of a frame on, behind any stale bytes, plain readings take thirteen
bytes and reject them, unless these are the next frame itself. Resynchronising reads on to the end
of the next frame and reports it. -/
theorem read_from_midst (h : d.line.Listens source clock b) {first second later : Bytes}
    {f₀ f₁ : Status} (hfirst : Status.decode first = .ok f₀)
    (hsecond : Status.decode second = .ok f₁) {k : Nat} (hk : k ≤ 12)
    (hincoming : source.incoming = first.drop (FrameKind.status.size - k) ++ (second ++ later))
    {wait : Option (Wait T)} {t : T} (hwait : (wait.getD d.readTimeout).toTime = .ok t)
    (hspeed : clock.Within source.gap t FrameKind.status.size)
    (hreport : clock.tick.Within source.gap t FrameKind.status.size)
    (hrefill : (clock.tick.received source.gap FrameKind.status.size).Ample source.gap
      (clock.tick.now + t) k) :
    (∃ outcome b', d.readSpeed wait b = (outcome, b') ∧ Judged k (Reading.ofFrame f₁) outcome ∧
        (d.line.channel.source b').unread = source.incoming.drop FrameKind.status.size) ∧
      (∃ outcome b', d.readReport wait false b = (outcome, b') ∧
        Judged k (Report.ofFrame f₁) outcome ∧
        (d.line.channel.source b').unread = source.incoming.drop FrameKind.status.size) ∧
      ∃ b', d.readReport wait true b = (.ok (Report.ofFrame f₁), b') ∧
        (d.line.channel.source b').unread =
          source.incoming.drop (k + FrameKind.status.size) := by
  have hfront := Stream.length_straddling hfirst hk
  have hlast := Status.length_of_decode hsecond
  obtain ⟨data, rest, hbytes, hlen⟩ : ∃ data rest, source.incoming = data ++ rest ∧
      data.length = FrameKind.status.size := by
    refine ⟨source.incoming.take FrameKind.status.size, source.incoming.drop FrameKind.status.size,
      (List.take_append_drop _ _).symm, ?_⟩
    rw [hincoming, List.length_take, List.length_append, List.length_append, hfront, hlast]
    omega
  have hrest : source.incoming.drop FrameKind.status.size = rest := by
    rw [hbytes, List.drop_left' hlen]
  -- Without resynchronising both operations decode the first thirteen bytes, and no more.
  have hplain {α : Type} (content : Status → α) {x : Act (Bench T) α} {clock' : Clock T}
      {b₁ : Bench T} (hread : x b = (content <$> decode data : Act (Bench T) α) b₁)
      (h₁ : d.line.Listens { source with stale := [], incoming := rest } clock' b₁) :
      ∃ outcome b', x b = (outcome, b') ∧ Judged k (content f₁) outcome ∧
        (d.line.channel.source b').unread = source.incoming.drop FrameKind.status.size := by
    obtain ⟨outcome, b₂, hdecode, hjudged, h₂⟩ := decode_straddling h₁ hfirst hsecond hk hlen
      (hincoming.symm.trans hbytes) content
    refine ⟨outcome, b₂, hread.trans hdecode, hjudged, ?_⟩
    rw [h₂.source_eq, hrest]
    rfl
  refine ⟨?_, ?_, ?_⟩
  · obtain ⟨b₁, hread, h₁⟩ := readSpeed_within h hlen hbytes hwait hspeed
    exact hplain Reading.ofFrame hread h₁
  · obtain ⟨b₁, hread, h₁⟩ := readReport_within h hlen hbytes hwait hreport false
    exact hplain Report.ofFrame hread h₁
  · obtain ⟨b₁, hread, h₁⟩ := readReport_within h hlen hbytes hwait hreport true
    have hscan := Stream.scan_straddling hfirst hsecond hk later
    have hlater : rest.drop k = later := by
      rw [← hrest, List.drop_drop, Nat.add_comm, ← List.drop_drop, hincoming,
        List.drop_left' hfront, List.drop_left' hlast]
    -- The thirteen bytes reach into the second frame: as many of it are left as they began early.
    obtain ⟨left, rfl, rfl⟩ : ∃ left, rest = left ++ later ∧ left.length = k := by
      refine ⟨rest.take k, by rw [← hlater, List.take_append_drop], ?_⟩
      have := congrArg List.length (hincoming.symm.trans hbytes)
      simp only [List.length_append, hfront, hlast, hlen] at this
      rw [List.length_take]
      omega
    rw [← hincoming, hbytes] at hscan
    have hrounds : left.length < (left ++ later).length + 1 := by
      rw [List.length_append]
      omega
    obtain ⟨clock', b₂, hrun, h₂⟩ :=
      resynchronise_ample h₁ rfl rfl hlen (.refl data) hscan hrefill hrounds
    refine ⟨b₂, ?_, ?_⟩
    · rw [hread, if_pos rfl, Act.map_apply, hrun]
      rfl
    · rw [h₂.source_eq, Nat.add_comm, ← List.drop_drop, hrest, List.drop_left]
      rfl

/-- Behind a stale byte, seven last bytes that look like a header come before the frame. -/
theorem read_from_false_header :
    let d : Drive Float :=
      .make ⟨0, .scripted 0, .scripted 0, .whole 1, .delay⟩ .forward (.time 1)
    let source : ByteSource Float :=
      ⟨[0x07], (Status.sealed [1, 2, 3, 4, 0] mark).drop 6 ++
        (Status.sealed [0, 1, 2, 3, 4] 2 ++ [lead]), 0, .all, false⟩
    (∃ f b', d.readSpeed none (Bench.withChannel source) = (.error f, b') ∧ f.kind = .badFrame) ∧
      ∃ b', d.readReport none true (Bench.withChannel source) = (.ok ⟨⟨1234⟩, 2⟩, b') ∧
        (b'.scripts.get 0).unread = [lead] := by
  intro d source
  have hfirst : Status.decode (Status.sealed [1, 2, 3, 4, 0] mark) =
      .ok (Status.shown [1, 2, 3, 4, 0] mark) := Status.decode_sealed rfl (by simp [Status.IsDigit])
  have hsecond : Status.decode (Status.sealed [0, 1, 2, 3, 4] 2) =
      .ok (Status.shown [0, 1, 2, 3, 4] 2) := Status.decode_sealed rfl (by simp [Status.IsDigit])
  have hlisten : d.line.Listens source (Clock.still 0) (Bench.withChannel source) :=
    .withChannel rfl rfl
  have hwait : ((none : Option (Wait Float)).getD d.readTimeout).toTime = .ok 1 := rfl
  have hstart : (Clock.still 0).tick = Clock.still 1 := Clock.tick_still 0
  have hrefill : ((Clock.still 0).tick.received 0 FrameKind.status.size).Ample 0
      ((Clock.still 0).tick.now + 1) 7 := by
    obtain ⟨r, hbehind⟩ := (Clock.inTime_still 2 FrameKind.status.size).2
    have hdeadline : (0 : Float) + 1 = 1 := by decide +kernel
    have hnow : (Clock.still 1).now + 1 = 1 := hdeadline
    rw [Clock.received, hstart, Clock.tick_still, hbehind, hnow]
    exact fun portions _ _ => Clock.portioned_still r portions
  obtain ⟨⟨outcome, b₁, hspeed, hjudged, -⟩, -, b₂, hreport, hunread⟩ :=
    read_from_midst hlisten hfirst hsecond (k := 7) (by decide) rfl hwait
      (Clock.within_still 0 _) (hstart ▸ Clock.within_still 1 _) hrefill
  rw [Judged, if_neg (by decide)] at hjudged
  obtain ⟨f, rfl, hkind⟩ := hjudged
  exact ⟨⟨f, b₁, hspeed, hkind⟩, b₂, hreport, hunread⟩

end Drive
end SpindleLink
