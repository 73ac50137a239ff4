import SpindleLink.Proofs.ByteConservation
import SpindleLink.Proofs.Resynchronisation

/-! The loop by which a drive slides on to a valid frame, without a bound on its passes. On a
channel that answers, whatever the clock does, each pass finds a frame, or is late, or refills the
buffer by as many bytes as the kept tail lacks. As it takes one byte at least, the unread bytes
bound the passes. -/

namespace SpindleLink

variable {T : Type}

/-- A line that is held over a channel on which no call for input fails. What there is to read, when
it comes, and what the clock does is left open; a phantom channel answers too. -/
structure Line.Answers (l : Line) (b : Bench T) : Prop where
  held : l.isReleased b = false
  clear : ∀ p ∈ l.channel.inputPoints, (b.plans.get p).Clear
  connected : ∀ c, l.channel = .serial c → c.connected b = true

namespace Line

variable {l : Line} {b : Bench T}

theorem Listens.answers {source : ByteSource T} {clock : Clock T} (h : l.Listens source clock b) :
    l.Answers b where
  held := h.held
  clear := h.clear
  connected := by
    intro c hchannel
    have hgives := h.gives
    rwa [hchannel] at hgives

namespace Answers

theorem listens (h : l.Answers b) (hgives : l.channel.gives b = true) :
    l.Listens (l.channel.source b) b.clock b :=
  ⟨h.held, h.clear, hgives, rfl, rfl⟩

theorem phantom (h : l.Answers b) (hgives : l.channel.gives b = false) :
    ∃ id, l.channel = .scripted id ∧ (b.scripts.get id).phantom = true := by
  cases hchannel : l.channel with
  | scripted id =>
    rw [hchannel, Channel.gives, Bool.not_eq_false'] at hgives
    exact ⟨id, rfl, hgives⟩
  | serial c =>
    rw [hchannel, Channel.gives, h.connected c hchannel] at hgives
    cases hgives

theorem note (h : l.Answers b) (n : Note) :
    ∃ b', Bench.note n b = (.ok (), b') ∧ l.Answers b' ∧
      l.channel.source b' = l.channel.source b := by
  refine ⟨_, rfl, ⟨h.held, h.clear, h.connected⟩, ?_⟩
  cases l.channel <;> rfl

variable [TimeScale T]

theorem readClock (h : l.Answers b) :
    ∃ now b', Bench.readClock b = (.ok now, b') ∧ l.Answers b' ∧
      l.channel.source b' = l.channel.source b := by
  refine ⟨_, _, rfl, ⟨h.held, h.clear, h.connected⟩, ?_⟩
  cases l.channel <;> rfl

theorem next_phantom (h : l.Answers b) {id : Nat} (hchannel : l.channel = .scripted id)
    (hphantom : (b.scripts.get id).phantom = true) (wait : Option T) :
    ∃ b', l.channel.next wait b = (.ok none, b') ∧ l.Answers b' ∧
      l.channel.source b' = l.channel.source b := by
  have hpoint : (Call.read id wait).point ∈ l.channel.inputPoints := by
    simp [hchannel, Channel.inputPoints, Call.point]
  have hcounted : ((b.counted (.read id wait)).scripts.get id).phantom = true := hphantom
  rw [hchannel, Channel.next, Bench.perform_of_clear (h.clear _ hpoint).current]
  simp only [hcounted, if_true]
  refine ⟨_, rfl, ⟨h.held, ?_, by simp [hchannel]⟩, rfl⟩
  exact fun p hp => Bench.plans_counted_clear (h.clear p hp)

theorem receive_phantom (h : l.Answers b) (hgives : l.channel.gives b = false) {n : Nat}
    (hn : 0 < n) (t : T) :
    ∃ b', l.receive n (some (.time t)) false b = (.error (.truncated [] n), b') ∧ l.Answers b' ∧
      l.channel.source b' = l.channel.source b := by
  obtain ⟨id, hchannel, hphantom⟩ := h.phantom hgives
  -- One byte is asked for at least, and the first that does not come ends the reading.
  obtain ⟨m, rfl⟩ := Nat.exists_eq_add_one_of_ne_zero (Nat.ne_of_gt hn)
  obtain ⟨start, b₁, hstart, h₁, hsource₁⟩ := h.readClock
  obtain ⟨now, b₂, hnow, h₂, hsource₂⟩ := h₁.readClock
  have hcollect : ∃ b₃, l.collect (some (start + t)) (m + 1) [] b₁ = (.ok [], b₃) ∧
      l.Answers b₃ ∧ l.channel.source b₃ = l.channel.source b₂ := by
    rw [collect, Act.bind_ok hnow]
    split
    · exact ⟨b₂, rfl, h₂, rfl⟩
    · have hphantom₂ : (b₂.scripts.get id).phantom = true := by
        have hsource := hsource₂.trans hsource₁
        rw [hchannel] at hsource
        exact (congrArg ByteSource.phantom hsource).trans hphantom
      obtain ⟨b₃, hnext, h₃, hsource₃⟩ :=
        h₂.next_phantom hchannel hphantom₂ (some (start + t - now))
      exact ⟨b₃, Act.bind_ok hnext, h₃, hsource₃⟩
  obtain ⟨b₃, hcollect, h₃, hsource₃⟩ := hcollect
  refine ⟨b₃, ?_, h₃, hsource₃.trans (hsource₂.trans hsource₁)⟩
  rw [receive, Act.bind_ok (requireHeld_of_held h.held), Act.onlyIf, if_neg Bool.false_ne_true,
    Act.bind_ok (Act.pure_apply () b)]
  simp only
  rw [Act.bind_ok hstart, Act.bind_ok (Wait.resolve_time t b₁), Act.bind_ok (Act.pure_apply _ b₁),
    Int.toNat_natCast, Act.bind_ok hcollect, if_pos (by simp)]
  rfl

/-- Bytes that are waited for come in full, or the fault tells those that came. -/
theorem receive (h : l.Answers b) {n : Nat} (hn : 0 < n) (t : T) :
    ∃ got b', l.Answers b' ∧ (l.channel.source b).unread = got ++ (l.channel.source b').unread ∧
      (l.receive n (some (.time t)) false b = (.ok got, b') ∧ got.length = n ∨
        l.receive n (some (.time t)) false b = (.error (.truncated got n), b')) := by
  cases hgives : l.channel.gives b with
  | false =>
    obtain ⟨b', hrun, h', hsource⟩ := h.receive_phantom hgives hn t
    exact ⟨[], b', h', by rw [hsource, List.nil_append], .inr hrun⟩
  | true =>
    obtain ⟨flushing, start, reads, deadline, hconserves⟩ :=
      (h.listens hgives).receive_conserves n (some (.time t)) false
    obtain ⟨clock', h'⟩ := hconserves.listens
    refine ⟨brought reads, _, h'.answers, hconserves.conserved, ?_⟩
    have htells := hconserves.tells
    rcases hrun : l.receive n (some (.time t)) false b with ⟨f | data, b'⟩
    · rw [hrun] at htells
      rcases htells with ⟨rfl, -⟩ | ⟨hdeadline, -⟩
      · exact .inr rfl
      · -- A wait that is a time has one.
        have hsets := hconserves.sets
        rw [hdeadline] at hsets
        cases hsets with
        | fault start hwait htime =>
          obtain rfl := Option.some.inj hwait
          cases htime
    · rw [hrun] at htells
      obtain ⟨rfl, hlength⟩ := htells
      exact .inl ⟨rfl, by omega⟩

end Answers
end Line

namespace Drive

variable [TimeScale T]

/-- Refills a buffer of which a scan kept a tail, within a deadline. -/
def refill (d : Drive T) (deadline : T) (kept : Bytes) : Act (Bench T) Bytes := do
  let missing := FrameKind.status.size - kept.length
  Bench.note (.resynchronising missing)
  let remaining := deadline - (← Bench.readClock)
  if remaining ≤ 0 then .raise (.late .beforeDeadline kept)
  else
    let more ← (d.awaitBytes (.time remaining) missing false).relabel fun f =>
      if f.isA .late then .late (lateness f) (kept ++ f.received) else f
    pure (kept ++ more)

/-- One pass of the loop: it ends with the frame in the buffer, or goes on with a buffer that was
refilled. -/
def pass (d : Drive T) (deadline : T) (buffer : Bytes) : Act (Bench T) (Status ⊕ Bytes) :=
  match Stream.scan buffer with
  | (some frame, _) => pure (.inl frame)
  | (none, kept) => .inr <$> d.refill deadline kept

/-- The loop is its passes. -/
theorem resynchronise_succ (d : Drive T) (deadline : T) (rounds : Nat) (buffer : Bytes) :
    d.resynchronise deadline (rounds + 1) buffer = (do
      match ← d.pass deadline buffer with
      | .inl frame => pure frame
      | .inr buffer => d.resynchronise deadline rounds buffer) := by
  rw [resynchronise, pass]
  rcases hscan : Stream.scan buffer with ⟨_ | frame, kept⟩
  · simp only [refill, map_eq_pure_bind, bind_assoc]
    congr 1
    funext _
    congr 1
    funext now
    split
    · rfl
    · simp only [bind_assoc, pure_bind]
  · rfl

/-- The whole loop, however many passes it takes: the buffers that are scanned, each with the bench
behind it, and how the last pass ends. -/
inductive Loops (d : Drive T) (deadline : T) :
    List (Bytes × Bench T) → Except Fault Status × Bench T → Prop
  | found {buffer : Bytes} {b b' : Bench T} {frame : Status}
    (h : d.pass deadline buffer b = (.ok (.inl frame), b')) :
    Loops d deadline [(buffer, b)] (.ok frame, b')
  | failed {buffer : Bytes} {b b' : Bench T} {f : Fault}
    (h : d.pass deadline buffer b = (.error f, b')) : Loops d deadline [(buffer, b)] (.error f, b')
  | again {buffer buffer' : Bytes} {b b' : Bench T} {later : List (Bytes × Bench T)}
    {r : Except Fault Status × Bench T} (h : d.pass deadline buffer b = (.ok (.inr buffer'), b'))
    (rest : Loops d deadline ((buffer', b') :: later) r) :
    Loops d deadline ((buffer, b) :: (buffer', b') :: later) r

/-- With as many rounds as it has passes the loop comes to its end, as each pass uses up one. -/
theorem Loops.resynchronise_eq {d : Drive T} {deadline : T} {visited : List (Bytes × Bench T)}
    {r : Except Fault Status × Bench T} (h : d.Loops deadline visited r) {buffer : Bytes}
    {b : Bench T} (hstart : visited.head? = some (buffer, b)) {rounds : Nat}
    (hrounds : visited.length ≤ rounds) : d.resynchronise deadline rounds buffer b = r := by
  induction h generalizing buffer b rounds with
  | found h =>
    obtain ⟨rfl, rfl⟩ := Prod.mk.inj (Option.some.inj hstart)
    obtain ⟨n, rfl⟩ := Nat.exists_eq_add_of_le' hrounds
    rw [List.length_singleton, resynchronise_succ, Act.bind_ok h]
    rfl
  | failed h =>
    obtain ⟨rfl, rfl⟩ := Prod.mk.inj (Option.some.inj hstart)
    obtain ⟨n, rfl⟩ := Nat.exists_eq_add_of_le' hrounds
    rw [List.length_singleton, resynchronise_succ, Act.bind_error h]
  | again h rest ih =>
    obtain ⟨rfl, rfl⟩ := Prod.mk.inj (Option.some.inj hstart)
    obtain ⟨n, rfl⟩ := Nat.exists_eq_add_of_le' hrounds
    rw [List.length_cons, ← Nat.add_assoc, resynchronise_succ, Act.bind_ok h]
    exact ih rfl (Nat.le_add_left _ n)

/-- What a pass comes to. The scan of a full buffer finds a frame that is all of it; or it keeps
twelve bytes at most, and the pass is late, or as many more bytes are taken as a full buffer lacks:
one at least, and thirteen at most. -/
inductive Advances (d : Drive T) (deadline : T) (buffer : Bytes) (b : Bench T) : Prop
  | found (frame : Status) (hscan : Stream.scan buffer = (some frame, []))
    (hpass : d.pass deadline buffer b = (.ok (.inl frame), b))
  | late (kept : Bytes) (why : Lateness) (received : Bytes) (b' : Bench T)
    (hscan : Stream.scan buffer = (none, kept)) (hkept : kept.length ≤ 12)
    (hpass : d.pass deadline buffer b = (.error (.late why received), b'))
  | refilled (kept more : Bytes) (b' : Bench T) (hscan : Stream.scan buffer = (none, kept))
    (hpass : d.pass deadline buffer b = (.ok (.inr (kept ++ more)), b'))
    (hmore : kept.length + more.length = FrameKind.status.size) (hleast : 1 ≤ more.length)
    (hmost : more.length ≤ 13)
    (htaken : (d.line.channel.source b).unread = more ++ (d.line.channel.source b').unread)

variable {d : Drive T} {b : Bench T}

theorem awaitBytes_answers (h : d.line.Answers b) {n : Nat} (hn : 0 < n) (t : T) :
    ∃ got b', d.line.Answers b' ∧
      (d.line.channel.source b).unread = got ++ (d.line.channel.source b').unread ∧
      (d.awaitBytes (.time t) n false b = (.ok got, b') ∧ got.length = n ∨
        d.awaitBytes (.time t) n false b =
          (.error (.late (.within (TimeScale.thousandths t)) got), b')) := by
  obtain ⟨got, b₁, h₁, htaken, ⟨hreceive, hlen⟩ | hreceive⟩ := h.receive hn t
  · exact ⟨got, b₁, h₁, htaken, .inl ⟨Act.orElse_ok hreceive, hlen⟩⟩
  · obtain ⟨b₂, hnote, h₂, hsource⟩ :=
      h₁.note (.statusMissing (TimeScale.thousandths t) got.length)
    refine ⟨got, b₂, h₂, by rw [htaken, hsource], .inr ?_⟩
    have hcut : (Fault.truncated got n).isA .cutFrame = true := rfl
    have hgot : (Fault.truncated got n).received = got := rfl
    rw [awaitBytes, Act.orElse_error hreceive]
    simp only [hcut, hgot, if_true]
    rw [Act.bind_ok (Wait.resolve_time t b₁), Act.bind_ok hnote]
    rfl

theorem refill_answers (h : d.line.Answers b) (deadline : T) {kept : Bytes}
    (hkept : kept.length ≤ 12) :
    ∃ b', d.line.Answers b' ∧
      ((∃ why received, d.refill deadline kept b = (.error (.late why received), b')) ∨
        ∃ more, d.refill deadline kept b = (.ok (kept ++ more), b') ∧
          kept.length + more.length = FrameKind.status.size ∧
          (d.line.channel.source b).unread = more ++ (d.line.channel.source b').unread) := by
  have hmissing : 0 < FrameKind.status.size - kept.length := by
    simp only [FrameKind.size]
    omega
  obtain ⟨b₁, hnote, h₁, hsource₁⟩ :=
    h.note (.resynchronising (FrameKind.status.size - kept.length))
  obtain ⟨now, b₂, hclock, h₂, hsource₂⟩ := h₁.readClock
  by_cases hpassed : deadline - now ≤ 0
  · refine ⟨b₂, h₂, .inl ⟨.beforeDeadline, kept, ?_⟩⟩
    rw [refill, Act.bind_ok hnote, Act.bind_ok hclock, if_pos hpassed]
    rfl
  · obtain ⟨more, b₃, h₃, htaken, ⟨hawait, hlen⟩ | hawait⟩ :=
      awaitBytes_answers h₂ hmissing (deadline - now)
    · refine ⟨b₃, h₃, .inr ⟨more, ?_, by omega, by rw [← hsource₁, ← hsource₂, htaken]⟩⟩
      rw [refill, Act.bind_ok hnote, Act.bind_ok hclock, if_neg hpassed,
        Act.bind_ok (Act.relabel_ok hawait)]
      rfl
    · refine ⟨b₃, h₃, .inl ⟨.within (TimeScale.thousandths (deadline - now)), kept ++ more, ?_⟩⟩
      rw [refill, Act.bind_ok hnote, Act.bind_ok hclock, if_neg hpassed]
      exact Act.bind_error (Act.relabel_error hawait)

/-- Every pass over a full buffer advances, and one that goes on does so over a full buffer, on a
line that still answers. -/
theorem pass_advances (h : d.line.Answers b) (deadline : T) {buffer : Bytes}
    (hfull : buffer.length = FrameKind.status.size) :
    d.Advances deadline buffer b ∧
      ∀ buffer' b', d.pass deadline buffer b = (.ok (.inr buffer'), b') →
        buffer'.length = FrameKind.status.size ∧ d.line.Answers b' ∧
          (d.line.channel.source b').unread.length < (d.line.channel.source b).unread.length := by
  rcases hscan : Stream.scan buffer with ⟨_ | frame, kept⟩
  · have hkept := (Stream.scan_kept hscan).1
    have hrun : d.pass deadline buffer b = (Sum.inr <$> d.refill deadline kept) b := by
      rw [pass, hscan]
    obtain ⟨b₁, h₁, ⟨why, received, hrefill⟩ | ⟨more, hrefill, hmore, htaken⟩⟩ :=
      refill_answers h deadline hkept
    · have hpass : d.pass deadline buffer b = (.error (.late why received), b₁) := by
        rw [hrun, Act.map_apply, hrefill]
        rfl
      refine ⟨.late kept why received b₁ hscan hkept hpass, fun buffer' b' hagain => ?_⟩
      rw [hpass] at hagain
      cases hagain
    · have hpass : d.pass deadline buffer b = (.ok (.inr (kept ++ more)), b₁) := by
        rw [hrun, Act.map_apply, hrefill]
        rfl
      have hsize : FrameKind.status.size = 13 := rfl
      refine ⟨.refilled kept more b₁ hscan hpass hmore (by omega) (by omega) htaken,
        fun buffer' b' hagain => ?_⟩
      rw [hpass] at hagain
      obtain ⟨hbuffer, rfl⟩ := Prod.mk.inj hagain
      obtain rfl := Sum.inr.inj (Except.ok.inj hbuffer)
      refine ⟨by rw [List.length_append, hmore], h₁, ?_⟩
      rw [htaken, List.length_append]
      omega
  · obtain rfl := Stream.scan_some_of_full hfull hscan
    have hpass : d.pass deadline buffer b = (.ok (.inl frame), b) := by
      rw [pass, hscan]
      rfl
    refine ⟨.found frame hscan hpass, fun buffer' b' hagain => ?_⟩
    rw [hpass] at hagain
    cases hagain

theorem exists_loops (h : d.line.Answers b) (deadline : T) {buffer : Bytes}
    (hfull : buffer.length = FrameKind.status.size) :
    ∃ later outcome, d.Loops deadline ((buffer, b) :: later) outcome ∧
      later.length ≤ (d.line.channel.source b).unread.length ∧
      (∀ v ∈ (buffer, b) :: later,
        v.1.length = FrameKind.status.size ∧ d.Advances deadline v.1 v.2) ∧
      ((∃ frame, outcome.1 = .ok frame) ∨
        ∃ why received, outcome.1 = .error (.late why received)) := by
  -- The unread bytes are the measure: a pass that goes on has as full a buffer and fewer left.
  induction hn : (d.line.channel.source b).unread.length using Nat.strongRecOn
    generalizing b buffer with
  | ind n ih =>
    obtain ⟨hadvances, hagain⟩ := pass_advances h deadline hfull
    have hfirst : buffer.length = FrameKind.status.size ∧ d.Advances deadline buffer b :=
      ⟨hfull, hadvances⟩
    cases hadvances with
    | found frame hscan hpass =>
      exact ⟨[], _, .found hpass, Nat.zero_le n, List.forall_mem_singleton.mpr hfirst,
        .inl ⟨frame, rfl⟩⟩
    | late kept why received b' hscan hkept hpass =>
      exact ⟨[], _, .failed hpass, Nat.zero_le n, List.forall_mem_singleton.mpr hfirst,
        .inr ⟨why, received, rfl⟩⟩
    | refilled kept more b' hscan hpass hmore hleast hmost htaken =>
      obtain ⟨hfull', h', hless⟩ := hagain _ _ hpass
      rw [hn] at hless
      obtain ⟨later, outcome, hloops, hlength, hvisited, hend⟩ := ih _ hless h' hfull' rfl
      exact ⟨(kept ++ more, b') :: later, outcome, .again hpass hloops,
        Nat.le_trans (Nat.succ_le_succ hlength) hless,
        List.forall_mem_cons.mpr ⟨hfirst, hvisited⟩, hend⟩

/-- From a full buffer, on a line that answers and with any clock, the loop ends with a frame or
late. It goes on at most as often as bytes are unread, so one more is the most that it can scan and
ask for bytes; each buffer that it scans is full, and each pass advances. More rounds than unread
bytes make no difference. -/
theorem resynchronise_ends (h : d.line.Answers b) (deadline : T) {buffer : Bytes}
    (hfull : buffer.length = FrameKind.status.size) :
    ∃ later outcome, d.Loops deadline ((buffer, b) :: later) outcome ∧
      ((buffer, b) :: later).length ≤ (d.line.channel.source b).unread.length + 1 ∧
      (∀ v ∈ (buffer, b) :: later,
        v.1.length = FrameKind.status.size ∧ d.Advances deadline v.1 v.2) ∧
      ((∃ frame, outcome.1 = .ok frame) ∨
        ∃ why received, outcome.1 = .error (.late why received)) ∧
      ∀ rounds, (d.line.channel.source b).unread.length < rounds →
        d.resynchronise deadline rounds buffer b = outcome := by
  obtain ⟨later, outcome, hloops, hlength, hvisited, hend⟩ := exists_loops h deadline hfull
  refine ⟨later, outcome, hloops, Nat.succ_le_succ hlength, hvisited, hend, ?_⟩
  intro rounds hrounds
  exact hloops.resynchronise_eq rfl (Nat.le_trans (Nat.succ_le_succ hlength) hrounds)

/-- A clock that stands still, and a buffer that ends with the header of a frame of which eleven
bytes are unread: twelve rounds are as many as can be used. -/
theorem resynchronise_ends_frozen :
    let d : Drive Float :=
      .make ⟨0, .scripted 0, .scripted 0, .whole 1, .delay⟩ .forward (.time 1)
    let buffer : Bytes := List.replicate 11 0 ++ [lead, mark]
    let source : ByteSource Float :=
      ⟨[], (Status.sealed [0, 1, 2, 3, 4] 2).drop 2, 0, .all, false⟩
    let b := Bench.withChannel source
    d.line.Answers b ∧ buffer.length = FrameKind.status.size ∧
      ∃ outcome, (∀ rounds, 12 ≤ rounds → d.resynchronise 1 rounds buffer b = outcome) ∧
        ((∃ frame, outcome.1 = .ok frame) ∨
          ∃ why received, outcome.1 = .error (.late why received)) := by
  intro d buffer source b
  have hlistens : d.line.Listens source ⟨0, 0, fun _ => 0⟩ b := .withChannel rfl rfl
  have hunread : (d.line.channel.source b).unread.length = 11 := by
    rw [hlistens.source_eq]
    rfl
  have hfull : buffer.length = FrameKind.status.size := rfl
  obtain ⟨later, outcome, -, -, -, hend, hrounds⟩ :=
    resynchronise_ends hlistens.answers 1 hfull
  rw [hunread] at hrounds
  exact ⟨hlistens.answers, hfull, outcome, fun rounds hle => hrounds rounds hle, hend⟩

end Drive
end SpindleLink
