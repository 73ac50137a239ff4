import SpindleLink.Proofs.Misalignment
import SpindleLink.Proofs.WaitBounds

/-! A speed on its way to the inverter and back. The frequency in the frame that is sent, the speed
that the operator is told, and the speed that is read when the display shows that frequency are one
and the same, below what was asked for by less than a hertz. -/

namespace SpindleLink

/-- The speeds that have no frequency: below zero, above zero and below one hertz, and those beyond
the payload. -/
def Uncommandable (rpm : Int) : Prop := rpm < 0 ∨ 1 ≤ rpm ∧ rpm ≤ 59 ∨ 39360 ≤ rpm

instance (rpm : Int) : Decidable (Uncommandable rpm) := inferInstanceAs (Decidable (_ ∨ _))

theorem frequencyOf_error_iff {rpm : Int} :
    (∃ limit, frequencyOf rpm = .error limit) ↔ Uncommandable rpm := by
  unfold frequencyOf Uncommandable
  split_ifs with hneg hlow hhigh
  · simp [hneg]
  · simp only [Except.error.injEq, exists_eq', true_iff]
    omega
  · simp only [Except.error.injEq, exists_eq', true_iff]
    omega
  · simp only [exists_false, false_iff]
    omega

theorem frequencyOf_of_commandable {rpm : Int} (h : ¬ Uncommandable rpm) :
    ∃ frequency, frequencyOf rpm = .ok frequency := by
  by_contra hnone
  exact h (frequencyOf_error_iff.mp (exists_error_iff.mpr hnone))

/-- What a frequency is like that a speed is commanded by. -/
structure CommandedBy (rpm frequency : Int) : Prop where
  whole : frequency % 100 = 0
  least : 0 ≤ frequency
  most : frequency ≤ 65500
  below : rpmOf frequency ≤ rpm
  close : rpm < rpmOf frequency + 60
  cut : rpmOf frequency = rpm / 60 * 60

theorem commandedBy_of_frequencyOf {rpm frequency : Int} (h : frequencyOf rpm = .ok frequency) :
    CommandedBy rpm frequency := by
  unfold frequencyOf at h
  split_ifs at h with hneg hlow hhigh
  obtain rfl := Except.ok.inj h
  constructor <;> (try unfold rpmOf) <;> omega

/-- The five places of a display that shows a frequency. -/
def displayOf (frequency : Int) : List Int :=
  [frequency / 10000 % 10, frequency / 1000 % 10, frequency / 100 % 10, frequency / 10 % 10,
    frequency % 10]

theorem writable_displayOf (frequency : Int) {indicators : Int} (h : IsByte indicators) :
    Status.Writable (displayOf frequency) indicators where
  five := rfl
  digits := by
    simp only [displayOf, List.mem_cons, List.not_mem_nil, or_false, forall_eq_or_imp, forall_eq]
    omega
  indicators := h

theorem Reading.ofFrame_displayOf {frequency : Int} (hleast : 0 ≤ frequency)
    (hmost : frequency < 100000) (indicators : Int) (raw : Bytes) :
    Reading.ofFrame ⟨displayOf frequency, indicators, raw⟩ = ⟨frequency⟩ := by
  simp only [ofFrame, displayOf, List.foldl_cons, List.foldl_nil, Reading.mk.injEq]
  omega

namespace Command

theorem isByte_speedKeys (running : Bool) : IsByte (speedKeys running) := by
  cases running <;> decide

theorem speed_ok {rpm frequency control : Int} (h : frequencyOf rpm = .ok frequency)
    (hcontrol : IsByte control) :
    ∃ frame data, speed rpm control = .ok frame ∧ frame.toBytes = .ok data ∧
      data.length = FrameKind.command.size ∧ ofBytes data = .ok frame ∧
      frame.frequency = frequency := by
  have hcommanded := commandedBy_of_frequencyOf h
  have hleast := hcommanded.least
  have hmost := hcommanded.most
  cases hencode : encode frequency control with
  | error r =>
    have hrefused := encode_error_iff.mp ⟨r, hencode⟩
    exact absurd ⟨⟨hleast, by omega⟩, hcontrol⟩ hrefused
  | ok frame =>
    obtain ⟨d₁, d₂, c, rfl, hbytes, hfrequency, -⟩ := eq_shown_of_encode hencode
    refine ⟨_, _, ?_, hbytes, rfl, ofBytes_sealed d₁ d₂ c, hfrequency⟩
    simp only [speed, h, Command.frame]
    exact congrArg (Except.mapError Fault.rejected) hencode

end Command

namespace Drive

variable {T : Type} [TimeScale T] {d : Drive T} {b : Bench T}

/-- On a line that works a speed with a frequency is set by one frame. -/
theorem changeSpeed_works {rpm frequency : Int} (h : d.line.Works FrameKind.command.size b)
    (htimed : d.line.Timed T FrameKind.command.size) (hrpm : frequencyOf rpm = .ok frequency) :
    ∃ b' calls data frame, d.changeSpeed rpm b = (.ok (), b') ∧
      d.line.Works FrameKind.command.size b' ∧ b'.trace = b.trace ++ calls ∧
      calls.filterMap (fun e => e.call.handed?) = [data] ∧ Command.ofBytes data = .ok frame ∧
      frame.frequency = frequency := by
  obtain ⟨frame, data, hframe, hdata, hlen, hread, hfrequency⟩ :=
    Command.speed_ok hrpm (Command.isByte_speedKeys d.isOn)
  rw [← hlen] at h htimed
  obtain ⟨b₁, hsend, h₁⟩ := send_works h hdata htimed
  obtain ⟨b₂, hnote, h₂⟩ := h₁.note (.speedSet rpm frame.frequency)
  have hrun : d.changeSpeed rpm b = (.ok (), b₂) := by
    rw [changeSpeed, hframe, Act.bind_ok (Act.ofExcept_apply _ b), Act.bind_ok hsend, hnote]
  obtain ⟨calls, hgrew, hcommanded⟩ := d.changeSpeed_emits rpm b
  rw [hrun] at hgrew hcommanded
  have hpayload : payload? (Command.speed rpm (speedKeys d.isOn)) = some data :=
    payload?_eq_some.mpr ⟨frame, hframe, hdata⟩
  rw [Commanded, hpayload] at hcommanded
  exact ⟨b₂, calls, data, frame, hrun, hlen ▸ h₂, hgrew.trace,
    (hcommanded.returned.mp ⟨(), rfl⟩).handed, hread, hfrequency⟩

theorem changeSpeed_of_limit {rpm : Int} {limit : SpeedLimit}
    (h : frequencyOf rpm = .error limit) : d.changeSpeed rpm b = (.error (.speed limit), b) := by
  rw [changeSpeed, Command.speed_of_limit h]
  rfl

/-- A display that is broadcast behind any stale bytes, and in time, is read as the frequency that
it shows. -/
theorem readSpeed_shown {source : ByteSource T} {clock : Clock T}
    (h : d.line.Listens source clock b) {frequency indicators : Int} (hleast : 0 ≤ frequency)
    (hmost : frequency < 100000) {shown later : Bytes}
    (hshown : Status.encode (displayOf frequency) indicators = .ok shown)
    (hincoming : source.incoming = shown ++ later) {wait : Option (Wait T)} {t : T}
    (hwait : (wait.getD d.readTimeout).toTime = .ok t)
    (htime : clock.Within source.gap t FrameKind.status.size) :
    ∃ b', d.readSpeed wait b = (.ok ⟨frequency⟩, b') := by
  have hdecode : Status.decode shown = .ok ⟨displayOf frequency, indicators, shown⟩ :=
    Status.decode_eq_ok_iff_encode.mpr ⟨_, _, hshown, rfl⟩
  obtain ⟨b', hread, -⟩ :=
    readSpeed_within h (Status.length_of_decode hdecode) hincoming hwait htime
  refine ⟨b', ?_⟩
  rw [hread, Act.map_apply, decode_ok hdecode,
    ← Reading.ofFrame_displayOf hleast hmost indicators shown]
  rfl

end Drive

namespace Station

/-- A station at an instant when its inverter has other bytes to send. -/
def facing (st : Station) (source : ByteSource Float) (now : Float) : Station :=
  { st with bench := { st.bench with device := source, now := now } }

/-- Whether a speed is read back at a station: a display that shows the frequency, broadcast with
any indicators behind any stale bytes, and in time, is reported as that frequency and that speed. -/
def ReadsBack (st : Station) (frequency rpm : Int) : Prop :=
  ∃ link, st.link = some link ∧ ∀ indicators, IsByte indicators →
    ∃ shown, Status.encode (displayOf frequency) indicators = .ok shown ∧
      ∀ (source : ByteSource Float) (later : Bytes) (now : Float) (wait : Option (Wait Float))
        (t : Float), source.incoming = shown ++ later →
        (wait.getD link.drive.readTimeout).toTime = .ok t →
        Clock.Within source.gap t FrameKind.status.size { st.bench.clock with now := now } →
          ∃ reading, (readSpeed wait (st.facing source now)).1 = .ok (.speed reading) ∧
            reading.hundredths = frequency ∧ reading.rpm = rpm

theorem readsBack_of_works {st : Station} {link : Link} (hlink : st.link = some link)
    (hbuilt : link.Built) {length : Nat} (h : link.drive.line.Works length st.bench)
    {frequency : Int} (hleast : 0 ≤ frequency) (hmost : frequency < 100000) :
    st.ReadsBack frequency (rpmOf frequency) := by
  refine ⟨link, hlink, fun indicators hindicators => ⟨_,
    Status.encode_of_writable (writable_displayOf frequency hindicators), ?_⟩⟩
  intro source later now wait t hincoming hwait htime
  have hlistens := h.listens.taken_serial hbuilt.channel source now
  obtain ⟨b, hread⟩ := Drive.readSpeed_shown hlistens hleast hmost
    (Status.encode_of_writable (writable_displayOf frequency hindicators)) hincoming hwait htime
  have hfacing : (st.facing source now).link = some link := hlink
  have hdrive : (do
      let reading ← link.drive.readSpeed wait
      pure (link.drive, Answer.speed reading) : Act (Bench Float) (Drive Float × Answer))
        (st.facing source now).bench = (.ok (link.drive, .speed ⟨frequency⟩), b) :=
    Act.bind_ok hread
  refine ⟨⟨frequency⟩, ?_, rfl, rfl⟩
  rw [readSpeed, operate_ok hfacing hdrive]

/-- A speed without a frequency is refused as a value, and nothing is sent. Any other goes out in
one frame, cut to whole hertz; the operator is told the speed that is left, and that speed is read
back when the display shows the frequency. -/
theorem speed_agrees {st st₁ : Station} (h : Reachable st) {link : Link}
    (hlink : st.link = some link)
    (hworks : link.drive.line.Works FrameKind.command.size st.bench) {rpm : Int}
    {r : Except Fault Answer} (hrun : changeSpeed rpm st = (r, st₁)) :
    ∃ calls, st₁.bench.trace = st.bench.trace ++ calls ∧
      ((∃ message, r = .ok (.refused .value message)) ∧ calls = [] ↔ Uncommandable rpm) ∧
      (¬ Uncommandable rpm → ∃ data frame commanded,
        calls.filterMap (fun e => e.call.handed?) = [data] ∧ Command.ofBytes data = .ok frame ∧
        frame.frequency % 100 = 0 ∧ 0 ≤ frame.frequency ∧ frame.frequency ≤ 65500 ∧
        r = .ok (.speedSet rpm commanded link.drive.isOn) ∧ commanded = rpmOf frame.frequency ∧
        commanded ≤ rpm ∧ rpm < commanded + 60 ∧ st₁.ReadsBack frame.frequency commanded) := by
  by_cases hrpm : Uncommandable rpm
  · obtain ⟨limit, hlimit⟩ := frequencyOf_error_iff.mpr hrpm
    have hdrive : (do
        link.drive.changeSpeed rpm
        pure (link.drive, Answer.speedSet rpm (rpm / 60 * 60) link.drive.isOn) :
          Act (Bench Float) (Drive Float × Answer)) st.bench = (.error (.speed limit), st.bench) :=
      Act.bind_error (Drive.changeSpeed_of_limit hlimit)
    rw [changeSpeed, operate_refused hlink hdrive rfl] at hrun
    obtain ⟨rfl, rfl⟩ := Prod.mk.inj hrun
    refine ⟨[], (List.append_nil _).symm, ?_, fun hcommandable => absurd hrpm hcommandable⟩
    exact iff_of_true ⟨⟨limit.message, rfl⟩, rfl⟩ hrpm
  · obtain ⟨frequency, hfrequency⟩ := frequencyOf_of_commandable hrpm
    have hcommanded := commandedBy_of_frequencyOf hfrequency
    have hbuilt := h.built hlink
    obtain ⟨b, calls, data, frame, hset, hworks', htrace, hhanded, hread, rfl⟩ :=
      Drive.changeSpeed_works hworks (hbuilt.timed (by decide)) hfrequency
    have hdrive : (do
        link.drive.changeSpeed rpm
        pure (link.drive, Answer.speedSet rpm (rpm / 60 * 60) link.drive.isOn) :
          Act (Bench Float) (Drive Float × Answer)) st.bench =
          (.ok (link.drive, .speedSet rpm (rpm / 60 * 60) link.drive.isOn), b) :=
      Act.bind_ok hset
    rw [changeSpeed, operate_ok hlink hdrive] at hrun
    obtain ⟨rfl, rfl⟩ := Prod.mk.inj hrun
    refine ⟨calls, htrace, iff_of_false (fun ⟨⟨_, hrefused⟩, _⟩ => by cases hrefused) hrpm,
      fun _ => ⟨data, frame, rpm / 60 * 60, hhanded, hread, hcommanded.whole, hcommanded.least,
        hcommanded.most, rfl, hcommanded.cut.symm, ?_, ?_, ?_⟩⟩
    · rw [← hcommanded.cut]
      exact hcommanded.below
    · rw [← hcommanded.cut]
      exact hcommanded.close
    · rw [← hcommanded.cut]
      exact readsBack_of_works rfl hbuilt hworks' hcommanded.least
        (Int.lt_of_le_of_lt hcommanded.most (by decide))

def fresh : Station := connectedFrom ⟨Bench.empty 0 0, none⟩

theorem fresh_works : ∃ link, fresh.link = some link ∧ link.drive.isOn = false ∧
    link.drive.line.Works FrameKind.command.size fresh.bench := by
  have hplans : fresh.bench.plans =
      ⟨[(.portOpen, ⟨1, fun _ => none⟩), (.portRts, ⟨1, fun _ => none⟩)], fun _ => .never⟩ := rfl
  have hlink : fresh.link.map (fun link => (link.drive.isOn, link.drive.line.isReleased fresh.bench,
      link.drive.line.channel.gives fresh.bench, link.drive.line.direction.isLive fresh.bench,
      link.drive.line.channel.accepted fresh.bench FrameKind.command.size)) =
        some (false, false, true, true, some 9) := by
    decide +kernel
  obtain ⟨link, hlink, hparts⟩ := Option.map_eq_some_iff.mp hlink
  simp only [Prod.mk.injEq] at hparts
  obtain ⟨hoff, hheld, hgives, hlive, haccepts⟩ := hparts
  refine ⟨link, hlink, hoff, hheld, fun p n => ?_, hgives, hlive, haccepts⟩
  rw [hplans]
  simp only [Table.get, Table.find]
  split_ifs <;> rfl

/-- Between two hertz the lower one is commanded, told and read back. -/
theorem speed_agrees_between_hertz :
    let source : ByteSource Float :=
      ⟨[mark], Status.sealed [0, 2, 5, 0, 0] 3 ++ [lead], 0, .all, false⟩
    ∃ st₁, changeSpeed 1559 fresh = (.ok (.speedSet 1559 1500 false), st₁) ∧
      ∃ reading, (readSpeed (some (.time 1)) (st₁.facing source 0)).1 = .ok (.speed reading) ∧
        reading.hundredths = 2500 ∧ reading.rpm = 1500 := by
  intro source
  obtain ⟨link, hlink, hoff, hworks⟩ := fresh_works
  have hreachable : Reachable fresh := .tool (.start (by simp [Bench.empty])) [] (.connect [])
  have hclock : Clock.Within (0 : Float) 1 FrameKind.status.size
      { (changeSpeed 1559 fresh).2.bench.clock with now := 0 } := by
    decide +kernel
  rcases hrun : changeSpeed 1559 fresh with ⟨r, st₁⟩
  rw [hrun] at hclock
  obtain ⟨calls, -, -, hset⟩ := speed_agrees hreachable hlink hworks hrun
  obtain ⟨data, frame, commanded, -, -, hwhole, -, -, rfl, rfl, hbelow, hclose, link₁, -, hreads⟩ :=
    hset (by decide)
  have hfrequency : frame.frequency = 2500 := by
    unfold rpmOf at hbelow hclose
    omega
  rw [hfrequency] at hreads
  obtain ⟨shown, hshown, hread⟩ := hreads 3 (by decide)
  obtain rfl : Status.sealed [0, 2, 5, 0, 0] 3 = shown := Except.ok.inj hshown
  refine ⟨st₁, ?_, hread source [lead] 0 (some (.time 1)) 1 rfl rfl hclock⟩
  rw [hoff, hfrequency]
  rfl

end Station
end SpindleLink
