import SpindleLink.Proofs.Reception
import SpindleLink.Proofs.StreamChunks

/-! Resynchronising on a line. The drive refills a buffer by as many bytes as the kept tail lacks,
and so meets the frame that a scan of the whole stream finds, reads not one byte past it, and, when
time runs out, has passed no frame by. -/

namespace SpindleLink
namespace Stream

theorem scan_some_of_full {data rest : Bytes} {f : Status}
    (hlen : data.length = FrameKind.status.size) (h : scan data = (some f, rest)) : rest = [] := by
  obtain ⟨i, hf, -, rfl⟩ := scan_some h
  have hfits := length_of_frameAt? hf
  exact List.drop_eq_nil_of_le (by omega)

theorem scan_of_decode {data : Bytes} {f : Status} (h : Status.decode data = .ok f) :
    scan data = (some f, []) := by
  have hlen := Status.length_of_decode h
  have hwindow : window data 0 = data := List.take_of_length_le (Nat.le_of_eq hlen)
  have hf : frameAt? data 0 = some f := frameAt?_eq_some_iff.mpr (hwindow.symm ▸ h)
  rw [scan_of_frameAt? hf, List.drop_eq_nil_of_le (Nat.le_of_eq hlen)]

theorem scan_of_short {data : Bytes} (h : data.length < FrameKind.status.size) :
    ∃ t, scan data = (none, t) := by
  rcases scan_cases data with ⟨i, f, hf, -⟩ | ⟨-, t, hscan, -⟩
  · rw [frameAt?_of_short h] at hf
    cases hf
  · exact ⟨t, hscan⟩

/-- A buffer stands for a longer run of bytes when scans that go on behind both agree. -/
def StandsFor (buffer consumed : Bytes) : Prop :=
  buffer <:+ consumed ∧ ∀ more, scan (consumed ++ more) = scan (buffer ++ more)

theorem StandsFor.refl (data : Bytes) : StandsFor data data := ⟨List.suffix_refl data, fun _ => rfl⟩

theorem StandsFor.scan_eq {buffer consumed : Bytes} (h : StandsFor buffer consumed) :
    scan consumed = scan buffer := by
  simpa using h.2 []

/-- The tail that a scan keeps stands for what the buffer stood for. -/
theorem StandsFor.kept {buffer consumed t : Bytes} (h : StandsFor buffer consumed)
    (hscan : scan buffer = (none, t)) : StandsFor t consumed :=
  ⟨(scan_none hscan).2.suffix.trans h.1,
    fun more => (h.2 more).trans (scan_append_of_none hscan more)⟩

theorem StandsFor.append {buffer consumed : Bytes} (h : StandsFor buffer consumed) (more : Bytes) :
    StandsFor (buffer ++ more) (consumed ++ more) := by
  refine ⟨?_, fun rest => by rw [List.append_assoc, List.append_assoc, h.2]⟩
  obtain ⟨front, hfront⟩ := h.1
  exact ⟨front, by rw [← hfront, List.append_assoc]⟩

end Stream

/-- A fault by which a status frame is late after some bytes were taken: none of them makes a frame,
and the fault tells the last few. -/
def Fault.LateAfter (consumed : Bytes) (f : Fault) : Prop :=
  ∃ why received, f = .late why received ∧ received <:+ consumed ∧ received.length ≤ 12 ∧
    ∀ i, Stream.frameAt? consumed i = none

theorem Stream.StandsFor.lateAfter {buffer consumed : Bytes} (h : Stream.StandsFor buffer consumed)
    (hshort : buffer.length < FrameKind.status.size) (why : Lateness) :
    (Fault.late why buffer).LateAfter consumed := by
  obtain ⟨t, hscan⟩ := Stream.scan_of_short hshort
  refine ⟨why, buffer, rfl, h.1, Nat.le_of_lt_succ hshort, ?_⟩
  exact (Stream.scan_none (h.scan_eq.trans hscan)).1

namespace Drive

variable {T : Type}

theorem decode_ok {data : Bytes} {frame : Status} (h : Status.decode data = .ok frame)
    (b : Bench T) : decode data b = (.ok frame, b) := by
  rw [decode, h]
  rfl

variable [TimeScale T] {d : Drive T} {id : Nat} {b : Bench T}

theorem resynchronise_ready (hchannel : d.line.channel = .scripted id) (deadline : T)
    {rounds : Nat} {consumed buffer incoming : Bytes} (h : Ready d.line id [] incoming b)
    (hfull : buffer.length = FrameKind.status.size) (hstands : Stream.StandsFor buffer consumed)
    (hrounds : incoming.length < rounds) :
    ∃ outcome taken unread b', d.resynchronise deadline rounds buffer b = (outcome, b') ∧
      incoming = taken ++ unread ∧ Ready d.line id [] unread b' ∧ b.Gave id taken b' ∧
      match outcome with
      | .ok frame => Stream.scan (consumed ++ incoming) = (some frame, unread)
      | .error f => f.LateAfter (consumed ++ taken) := by
  -- The buffer keeps standing for all bytes consumed. Each round takes a byte at least, so the bytes
  -- are used up before the rounds.
  induction rounds generalizing consumed buffer incoming b with
  | zero => exact absurd hrounds (Nat.not_lt_zero _)
  | succ rounds ih =>
    rcases hscan : Stream.scan buffer with ⟨_ | frame, rest⟩
    · have hkept := hstands.kept hscan
      have hrest := (Stream.scan_kept hscan).1
      have hmissing : rest.length + (FrameKind.status.size - rest.length) =
          FrameKind.status.size := by
        simp only [FrameKind.size]
        omega
      obtain ⟨b₁, hnote, h₁, htrace₁⟩ :=
        h.note (.resynchronising (FrameKind.status.size - rest.length))
      obtain ⟨now, b₂, hclock, h₂, htrace₂⟩ := h₁.readClock
      have hquiet : b.Gave id [] b₂ := .of_trace (htrace₂.trans htrace₁)
      by_cases hpassed : deadline - now ≤ 0
      · refine ⟨.error (.late .beforeDeadline rest), [], incoming, b₂, ?_, rfl, h₂, hquiet, ?_⟩
        · rw [resynchronise, hscan]
          simp only
          rw [Act.bind_ok hnote, Act.bind_ok hclock, if_pos hpassed]
          rfl
        · rw [List.append_nil]
          exact hkept.lateAfter (Nat.lt_succ_of_le hrest) _
      · obtain ⟨more, unread, b₃, rfl, h₃, hgave, ⟨hawait, hlen⟩ | ⟨hawait, hlen⟩⟩ :=
          awaitBytes_ready hchannel h₂ (FrameKind.status.size - rest.length)
            (Wait.toTime_time (deadline - now))
        · have hstands' := hkept.append more
          have hfull' : (rest ++ more).length = FrameKind.status.size := by
            rw [List.length_append, hlen, hmissing]
          have hrounds' : unread.length < rounds := by
            rw [List.length_append, hlen] at hrounds
            simp only [FrameKind.size] at hrounds
            omega
          obtain ⟨outcome, taken, unread', b₄, hrun, rfl, h₄, hgave', houtcome⟩ :=
            ih h₃ hfull' hstands' hrounds'
          refine ⟨outcome, more ++ taken, unread', b₄, ?_, (List.append_assoc ..).symm, h₄,
            hquiet.trans (hgave.trans hgave'), ?_⟩
          · rw [resynchronise, hscan]
            simp only
            rw [Act.bind_ok hnote, Act.bind_ok hclock, if_neg hpassed,
              Act.bind_ok (Act.relabel_ok hawait), hrun]
          · rw [← List.append_assoc consumed, ← List.append_assoc consumed]
            exact houtcome
        · refine ⟨.error (.late (.within (TimeScale.thousandths (deadline - now))) (rest ++ more)),
            more, unread, b₃, ?_, rfl, h₃, hquiet.trans hgave, ?_⟩
          · rw [resynchronise, hscan]
            simp only
            rw [Act.bind_ok hnote, Act.bind_ok hclock, if_neg hpassed]
            exact Act.bind_error (Act.relabel_error hawait)
          · refine (hkept.append more).lateAfter ?_ _
            rw [List.length_append]
            omega
    · obtain rfl := Stream.scan_some_of_full hfull hscan
      refine ⟨.ok frame, [], incoming, b, ?_, rfl, h, .of_trace rfl, ?_⟩
      · rw [resynchronise, hscan]
        rfl
      · rw [hstands.2 incoming]
        exact Stream.scan_append_of_some hscan incoming

/-- The first bytes of a report: stale ones are dropped, then thirteen come or time runs out. -/
theorem awaitBytes_dropping (hchannel : d.line.channel = .scripted id) {stale incoming : Bytes}
    (h : Ready d.line id stale incoming b) (n : Nat) {wait : Wait T} {t : T}
    (hwait : wait.toTime = .ok t) :
    ∃ drops got unread, ∃ b₁ b' : Bench T, b₁.trace = b.trace ++ drops ∧
      drops.map Entry.did = discarding id stale ∧ incoming = got ++ unread ∧
      Ready d.line id [] unread b' ∧ b₁.Gave id got b' ∧
      (d.awaitBytes wait n true b = (.ok got, b') ∧ got.length = n ∨
        d.awaitBytes wait n true b =
          (.error (.late (.within (TimeScale.thousandths t)) got), b') ∧ got.length < n) := by
  obtain ⟨drops, b₁, hdrop, h₁, htrace, hdrops⟩ := Line.discardWaiting_ready hchannel h
  obtain ⟨got, unread, b', hbytes, h', hgave, hawait⟩ := awaitBytes_ready hchannel h₁ n hwait
  rw [← awaitBytes_flush h hdrop h₁] at hawait
  exact ⟨drops, got, unread, b₁, b', htrace, hdrops, hbytes, h', hgave, hawait⟩

theorem readReport_start {now t : T} {b₁ : Bench T} (hclock : Bench.readClock b = (.ok now, b₁))
    {wait : Option (Wait T)} (hwait : (wait.getD d.readTimeout).toTime = .ok t) (resync : Bool) :
    d.readReport wait resync b =
      (d.awaitBytes (wait.getD d.readTimeout) FrameKind.status.size true >>= fun data =>
        if resync then do
          let unread ← Act.observe fun b => (d.line.channel.source b).unread.length
          Report.ofFrame <$> d.resynchronise (now + t) (unread + 1) data
        else Report.ofFrame <$> decode data : Act (Bench T) Report) b₁ := by
  rw [readReport, Act.bind_ok hclock, Act.bind_ok (Wait.resolve_of_toTime hwait b₁)]

theorem resynchronise_of_scan (deadline : T) {rounds : Nat} {buffer rest : Bytes} {frame : Status}
    (h : Stream.scan buffer = (some frame, rest)) (b : Bench T) :
    d.resynchronise deadline (rounds + 1) buffer b = (.ok frame, b) := by
  rw [resynchronise, h]
  rfl

/-- Reading a report drops exactly the stale bytes. Then it gives the frame that a scan of the
incoming bytes finds and leaves the rest of that scan unread, or the frame is late and none was
passed by. Where no byte has to be passed over, it does what reading without resynchronising
does. -/
theorem readReport_resynchronised (hchannel : d.line.channel = .scripted id)
    {stale incoming : Bytes} (h : Ready d.line id stale incoming b) {wait : Option (Wait T)} {t : T}
    (hwait : (wait.getD d.readTimeout).toTime = .ok t) :
    ∃ outcome b' drops reads unread, d.readReport wait true b = (outcome, b') ∧
      b'.trace = b.trace ++ drops ++ reads ∧ drops.map Entry.did = discarding id stale ∧
      (∀ e ∈ reads, e.IsRead id) ∧ incoming = delivered reads ++ unread ∧
      Ready d.line id [] unread b' ∧
      (match outcome with
        | .ok report =>
          ∃ frame, Stream.scan incoming = (some frame, unread) ∧ report = Report.ofFrame frame
        | .error f => f.LateAfter (delivered reads)) ∧
      ((∃ frame, Status.decode (incoming.take FrameKind.status.size) = .ok frame) ∨
          (delivered reads).length < FrameKind.status.size →
        d.readReport wait false b = (outcome, b')) := by
  obtain ⟨now, b₁, hclock, h₁, htrace₁⟩ := h.readClock
  obtain ⟨drops, got, unread, b₂, b₃, htrace₂, hdrops, rfl, h₃, hgave,
    ⟨hawait, hlen⟩ | ⟨hawait, hlen⟩⟩ := awaitBytes_dropping hchannel h₁ FrameKind.status.size hwait
  · have hfull : unread.length < ((d.line.channel.source b₃).unread.length + 1) := by
      rw [hchannel, Channel.source, ByteSource.unread, h₃.staleBytes, h₃.incomingBytes]
      exact Nat.lt_succ_self _
    obtain ⟨outcome, taken, unread', b₄, hrun, rfl, h₄, hgave', houtcome⟩ :=
      resynchronise_ready hchannel (now + t) h₃ hlen (Stream.StandsFor.refl got) hfull
    obtain ⟨reads, htrace₄, hreads, hdelivered⟩ := hgave.trans hgave'
    have hreport : d.readReport wait true b = (outcome.map Report.ofFrame, b₄) := by
      rw [readReport_start hclock hwait, Act.bind_ok hawait]
      simp only [if_true]
      rw [Act.bind_ok (Act.observe_apply _ b₃), Act.map_apply, hrun]
    have htake : (got ++ (taken ++ unread')).take FrameKind.status.size = got := by
      rw [← hlen, List.take_left']
      rfl
    refine ⟨_, b₄, drops, reads, unread', hreport, ?_, hdrops, hreads, ?_, h₄, ?_, ?_⟩
    · rw [htrace₄, htrace₂, htrace₁]
    · rw [hdelivered, List.append_assoc]
    · cases outcome with
      | ok frame => exact ⟨frame, houtcome, rfl⟩
      | error f => exact hdelivered ▸ houtcome
    · rintro (⟨frame, hdecode⟩ | hshort)
      · rw [htake] at hdecode
        have hfirst := hrun.symm.trans
          (resynchronise_of_scan (now + t) (Stream.scan_of_decode hdecode) b₃)
        obtain ⟨rfl, rfl⟩ := Prod.mk.inj hfirst
        rw [readReport_start hclock hwait, Act.bind_ok hawait]
        simp only [Bool.false_eq_true, if_false]
        rw [Act.map_apply, decode_ok hdecode]
      · rw [hdelivered, List.length_append, hlen] at hshort
        exact absurd hshort (Nat.not_lt.mpr (Nat.le_add_right _ _))
  · obtain ⟨reads, htrace₃, hreads, rfl⟩ := hgave
    have hreport (resync : Bool) : d.readReport wait resync b =
        (.error (.late (.within (TimeScale.thousandths t)) (delivered reads)), b₃) := by
      rw [readReport_start hclock hwait]
      exact Act.bind_error hawait
    refine ⟨_, b₃, drops, reads, unread, hreport true, ?_, hdrops, hreads, rfl, h₃, ?_,
      fun _ => hreport false⟩
    · rw [htrace₃, htrace₂, htrace₁]
    · exact (Stream.StandsFor.refl _).lateAfter hlen _

/-- Behind a stale byte and half a header the frame is met, and nothing is left. -/
theorem readReport_behind_half_header :
    let d : Drive Float :=
      .make ⟨0, .scripted 0, .scripted 0, .whole 1, .delay⟩ .forward (.time 1)
    let source : ByteSource Float :=
      ⟨[0x07], [lead, mark] ++ Status.sealed [0, 1, 2, 3, 4] 2, 0, .all, false⟩
    ∃ b', d.readReport none true (Bench.withChannel source) = (.ok ⟨⟨1234⟩, 2⟩, b') ∧
      (b'.scripts.get 0).incoming = [] := by
  intro d source
  have hwait : ((none : Option (Wait Float)).getD d.readTimeout).toTime = .ok 1 := rfl
  obtain ⟨outcome, b', -, reads, unread, hrun, -, -, -, -, hready, houtcome, -⟩ :=
    readReport_resynchronised rfl (Ready.withChannel d.line (rfl : source.phantom = false)) hwait
  have hscan : Stream.scan source.incoming =
      (some ⟨[0, 1, 2, 3, 4], 2, Status.sealed [0, 1, 2, 3, 4] 2⟩, []) := by decide
  have hreturns : (d.readReport none true (Bench.withChannel source)).1.toBool = true := by
    decide +kernel
  rw [hrun] at hreturns
  cases outcome with
  | ok report =>
    obtain ⟨frame, hframe, rfl⟩ := houtcome
    obtain ⟨hfound, rfl⟩ := Prod.mk.inj (hscan.symm.trans hframe)
    obtain rfl := Option.some.inj hfound
    exact ⟨b', hrun, hready.incomingBytes⟩
  | error f => cases hreturns

end Drive
end SpindleLink
