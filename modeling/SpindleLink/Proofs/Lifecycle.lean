import SpindleLink.Proofs.StationRuns

/-! The life of a link. Whatever tools are called and whatever fails, a link is the one that its
settings ask for: connecting makes such a link, the tools of the spindle at most switch its drive on
or off, and disconnecting leaves it or drops it. -/

namespace SpindleLink

structure Settings.Checked (s : Settings) : Prop where
  baud : 0 < s.baud
  pin : s.wiring = .gpio → s.pin.isSome = true

namespace Settings

theorem readBaud_pos {v : Value} {n : Int} (h : readBaud v = .ok n) : 0 < n := by
  unfold readBaud at h
  cases hv : v.toInt with
  | error c =>
    rw [hv] at h
    cases h
  | ok m =>
    rw [hv] at h
    by_cases hm : 0 < m
    · obtain rfl : m = n := by simpa [bind, Except.bind, hm] using h
      exact hm
    · simp [bind, Except.bind, hm] at h

theorem baud_pos {o : Option Value} {n : Int}
    (h : resolve SerialChannel.defaultBaud readBaud o = .ok n) : 0 < n := by
  cases o with
  | none =>
    obtain rfl := Except.ok.inj h
    decide
  | some v => exact readBaud_pos h

theorem settle_checked {offer : Offer} {s : Settings} (h : settle offer = .ok s) : s.Checked := by
  unfold settle at h
  dsimp only at h
  split at h
  · rename_i port baud wiring pin reverse wait _ hbaud _ _ _ _
    split at h
    · cases h
    · rename_i hpin
      obtain rfl := Except.ok.inj h
      refine ⟨baud_pos hbaud, fun hwiring => ?_⟩
      exact Option.isSome_iff_ne_none.mpr fun hnone => hpin ⟨hwiring, hnone⟩
  · cases h

end Settings

/-- A link that is the one its settings ask for. -/
structure Link.Built (link : Link) : Prop where
  checked : link.settings.Checked
  port : link.channel.name = link.settings.port
  baud : link.channel.baud = link.settings.baud
  channel : link.drive.line.channel = .serial link.channel
  direction : ∃ id, link.drive.line.direction =
    Station.directionFor link.settings link.channel id
  byteTime : ∃ t, link.settings.byteTime = .ok t ∧ link.drive.line.byteTime = .real t
  pacing : link.drive.line.pacing = .sleep
  rotation : link.drive.rotation = link.settings.rotation
  readTimeout : link.drive.readTimeout = .time link.settings.readTimeout

namespace Link.Built

variable {link : Link}

theorem switched (h : link.Built) (isOn : Bool) :
    Link.Built { link with drive := { link.drive with isOn := isOn } } :=
  ⟨h.checked, h.port, h.baud, h.channel, h.direction, h.byteTime, h.pacing, h.rotation,
    h.readTimeout⟩

theorem pin_iff (h : link.Built) :
    link.drive.line.direction.pin?.isSome = true ↔ link.settings.wiring = .gpio := by
  obtain ⟨id, hdirection⟩ := h.direction
  rw [hdirection, Station.directionFor]
  cases hwiring : link.settings.wiring with
  | rts => simp [DirectionLine.pin?]
  | gpio =>
    obtain ⟨pin, hpin⟩ := Option.isSome_iff_exists.mp (h.checked.pin hwiring)
    simp [hpin, DirectionLine.pin?]

end Link.Built

/-- What a tool has the drive do, and the faults of it that the tool answers for. -/
structure Deed where
  answers : Fault → Bool
  act : Drive Float → Act (Bench Float) (Drive Float × Answer)

def ToolStep.deed? : ToolStep → Option Deed
  | start => some ⟨Station.ofInverter, fun d => do
      let d ← d.start
      pure (d, .started d.isOn d.rotation)⟩
  | stop => some ⟨Station.ofInverter, fun d => do
      let d ← d.stop
      pure (d, .stopped d.isOn)⟩
  | changeSpeed rpm => some ⟨fun f => Station.ofInverter f || f.isA .value, fun d => do
      d.changeSpeed rpm
      pure (d, .speedSet rpm (rpm / 60 * 60) d.isOn)⟩
  | readSpeed wait => some ⟨Station.ofInverter, fun d => do
      let reading ← d.readSpeed wait
      pure (d, .speed reading)⟩
  | readReport wait => some ⟨Station.ofInverter, fun d => do
      let report ← d.readReport wait true
      pure (d, .status report)⟩
  | connect _ | disconnect | state => none

theorem ToolStep.switches {step : ToolStep} {deed : Deed} (h : step.deed? = some deed)
    {d d' : Drive Float} {b b' : Bench Float} {a : Answer}
    (hrun : deed.act d b = (.ok (d', a), b')) : ∃ isOn, d' = { d with isOn := isOn } := by
  cases step with
  | connect | disconnect | state => cases h
  | start =>
    obtain rfl := Option.some.inj h
    obtain ⟨started, b₁, hstart, hpure⟩ := Act.of_bind_ok hrun
    cases hpure
    exact ⟨true, Drive.start_ok hstart⟩
  | stop =>
    obtain rfl := Option.some.inj h
    obtain ⟨stopped, b₁, hstop, hpure⟩ := Act.of_bind_ok hrun
    cases hpure
    exact ⟨false, Drive.stop_ok hstop⟩
  | changeSpeed | readSpeed | readReport =>
    obtain rfl := Option.some.inj h
    obtain ⟨told, b₁, -, hpure⟩ := Act.of_bind_ok hrun
    cases hpure
    exact ⟨d.isOn, rfl⟩

namespace Station

section Operating

variable {answers : Fault → Bool}
  {x : Drive Float → Act (Bench Float) (Drive Float × Answer)} {st : Station} {link : Link}
  {b : Bench Float}

theorem operate_unlinked (hlink : st.link = none) :
    operate answers x st = (.error .notConnected, st) := by
  rw [operate, Act.bind_ok (Act.observe_apply _ st), hlink]
  rfl

theorem operate_linked (hlink : st.link = some link) {r : Except Fault (Drive Float × Answer)}
    (hrun : x link.drive st.bench = (r, b)) :
    operate answers x st = (match r with
      | .ok (drive, answer) => do
        setLink (some { link with drive := drive })
        pure answer
      | .error f => if answers f then refuse f.kind f.message else .raise f :
        Act Station Answer) ⟨b, some link⟩ := by
  obtain ⟨bench, _⟩ := st
  obtain rfl := hlink
  rw [operate, Act.bind_ok (Act.observe_apply _ _)]
  simp only
  rw [Act.bind_ok (attempt_onBench hrun)]
  rcases r with f | ⟨drive, answer⟩ <;> rfl

theorem operate_ok (hlink : st.link = some link) {drive : Drive Float} {answer : Answer}
    (hrun : x link.drive st.bench = (.ok (drive, answer), b)) :
    operate answers x st = (.ok answer, ⟨b, some { link with drive := drive }⟩) :=
  operate_linked hlink hrun

/-- A fault that the tool answers for is noted, and nothing else changes. -/
theorem operate_refused (hlink : st.link = some link) {f : Fault}
    (hrun : x link.drive st.bench = (.error f, b)) (hanswers : answers f = true) :
    operate answers x st = (.ok (.refused f.kind f.message),
      ⟨{ b with log := b.log ++ [.refused f.kind f.message] }, some link⟩) := by
  rw [operate_linked hlink hrun]
  simp only [hanswers, if_true]
  rfl

theorem operate_raised (hlink : st.link = some link) {f : Fault}
    (hrun : x link.drive st.bench = (.error f, b)) (hanswers : answers f = false) :
    operate answers x st = (.error f, ⟨b, some link⟩) := by
  rw [operate_linked hlink hrun]
  simp only [hanswers, Bool.false_eq_true, if_false]
  rfl

end Operating

theorem toolStep_operates (env : Settings.Environment) {step : ToolStep} {deed : Deed}
    (h : step.deed? = some deed) :
    Session.toolStep env step = Outcome.answer <$> operate deed.answers deed.act := by
  cases step <;> cases h <;> rfl

/-- The link behind a tool of the spindle is the one before, switched on or off. -/
theorem link_spindle (env : Settings.Environment) {step : ToolStep} {deed : Deed}
    (h : step.deed? = some deed) {st : Station} {link' : Link}
    (hlink' : (Session.toolStep env step st).2.link = some link') :
    ∃ link isOn, st.link = some link ∧
      link' = { link with drive := { link.drive with isOn := isOn } } := by
  rw [toolStep_operates env h, Act.map_apply] at hlink'
  cases hlink : st.link with
  | none =>
    rw [operate_unlinked hlink] at hlink'
    rw [hlink] at hlink'
    cases hlink'
  | some link =>
    refine ⟨link, ?_⟩
    rcases hrun : deed.act link.drive st.bench with ⟨f | ⟨drive, answer⟩, b⟩
    · refine ⟨link.drive.isOn, rfl, ?_⟩
      cases hanswers : deed.answers f with
      | true =>
        rw [operate_refused hlink hrun hanswers] at hlink'
        exact (Option.some.inj hlink').symm
      | false =>
        rw [operate_raised hlink hrun hanswers] at hlink'
        exact (Option.some.inj hlink').symm
    · obtain ⟨isOn, rfl⟩ := step.switches h hrun
      rw [operate_ok hlink hrun] at hlink'
      exact ⟨isOn, rfl, (Option.some.inj hlink').symm⟩

theorem openPort_ok {settings : Settings} {channel : SerialChannel} {direction : DirectionLine}
    {b b' : Bench Float} (h : openPort settings b = (.ok (channel, direction), b')) :
    channel.name = settings.port ∧ channel.baud = settings.baud ∧
      ∃ id, direction = directionFor settings channel id := by
  obtain ⟨id, b₁, -, h₁⟩ := Act.of_bind_ok h
  obtain ⟨u, b₂, -, h₂⟩ := Act.of_bind_ok h₁
  obtain ⟨id', b₃, -, h₃⟩ := Act.of_bind_ok h₂
  cases h₃
  exact ⟨rfl, rfl, id', rfl⟩

theorem prepare_ok {settings : Settings} {channel : SerialChannel} {direction : DirectionLine}
    {b b' : Bench Float} {line : Line}
    (h : prepare settings channel direction b = (.ok line, b')) :
    line.channel = .serial channel ∧ line.direction = direction ∧ line.pacing = .sleep ∧
      ∃ t, settings.byteTime = .ok t ∧ line.byteTime = .real t := by
  obtain ⟨u, b₁, -, h₁⟩ := Act.of_bind_ok h
  obtain ⟨t, b₂, htime, h₂⟩ := Act.of_bind_ok h₁
  obtain ⟨rfl, -⟩ := Line.make_ok h₂
  refine ⟨rfl, rfl, rfl, t, ?_, rfl⟩
  cases hbyte : settings.byteTime with
  | error f =>
    rw [hbyte] at htime
    cases htime
  | ok t' =>
    rw [hbyte] at htime
    cases htime
    rfl

/-- A link that is established with checked settings is built from them, and is off. -/
theorem establish_built {settings : Settings} (hchecked : settings.Checked) {b b' : Bench Float}
    {link : Link} (h : establish settings b = (.ok link, b')) :
    link.settings = settings ∧ link.Built ∧ link.drive.isOn = false := by
  rcases hopen : openPort settings b with ⟨f | ⟨channel, direction⟩, b₁⟩
  · rw [establish_eq, Act.bind_error hopen] at h
    cases h
  · rcases hprepare : prepare settings channel direction b₁ with ⟨f | line, b₂⟩
    · obtain ⟨f', hestablish⟩ := establish_of_prepare_error hopen hprepare
      rw [hestablish] at h
      cases h
    · rw [establish_of_prepare_ok hopen hprepare] at h
      cases h
      obtain ⟨hport, hbaud, hdirection⟩ := openPort_ok hopen
      obtain ⟨hchannel, rfl, hpacing, hbyteTime⟩ := prepare_ok hprepare
      exact ⟨rfl, ⟨hchecked, hport, hbaud, hchannel, hdirection, hbyteTime, hpacing, rfl, rfl⟩, rfl⟩

theorem link_connect {env : Settings.Environment} {given : Settings.Overrides} {st : Station}
    (hlink : st.link = none) {link : Link} (hlink' : (connect env given st).2.link = some link) :
    link.Built ∧ link.drive.isOn = false ∧ (connect env given st).1 =
      .ok (.connected link.settings.port link.settings.baud link.settings.wiring
        link.settings.rotation) := by
  cases hload : Settings.loadPresent env given with
  | error problems =>
    rw [connect_of_problems hlink hload] at hlink'
    rw [show (refuse .validation (Problem.summary problems) st).2.link = st.link from rfl, hlink]
      at hlink'
    cases hlink'
  | ok settings =>
    rcases hestablish : establish settings st.bench with ⟨f | link', b⟩
    · rw [connect_of_establish_error hlink hload hestablish, hlink] at hlink'
      cases hlink'
    · have hrun := connect_of_establish_ok hlink hload hestablish
      rw [hrun] at hlink'
      obtain rfl := Option.some.inj hlink'
      obtain ⟨rfl, hbuilt, hoff⟩ := establish_built (Settings.settle_checked hload) hestablish
      exact ⟨hbuilt, hoff, by rw [hrun]⟩

/-- Whoever is told that the station got connected was not connected before. -/
theorem linked_of_connected {env : Settings.Environment} {given : Settings.Overrides} {st : Station}
    {port : String} {baud : Int} {wiring : Wiring} {rotation : Rotation}
    (h : (connect env given st).1 = .ok (.connected port baud wiring rotation)) :
    st.link = none ∧ ∃ link, (connect env given st).2.link = some link := by
  cases hlink : st.link with
  | some link =>
    rw [already_of_linked hlink] at h
    cases h
  | none =>
    refine ⟨rfl, ?_⟩
    cases hload : Settings.loadPresent env given with
    | error problems =>
      rw [connect_of_problems hlink hload] at h
      cases h
    | ok settings =>
      rcases hestablish : establish settings st.bench with ⟨f | link, b⟩
      · rw [connect_of_establish_error hlink hload hestablish] at h
        cases h
      · exact ⟨link, by rw [connect_of_establish_ok hlink hload hestablish]⟩

theorem link_disconnect {st : Station} {link' : Link}
    (h : (disconnect st).2.link = some link') : st.link = some link' := by
  cases hlink : st.link with
  | none =>
    rw [disconnect_of_unlinked hlink, hlink] at h
    cases h
  | some link =>
    rw [disconnect_of_link hlink] at h
    dsimp only at h
    split at h
    · exact h
    · cases h

theorem built_toolStep {st : Station} (h : ∀ link, st.link = some link → link.Built)
    (env : Settings.Environment) (step : ToolStep) {link' : Link}
    (hlink' : (Session.toolStep env step st).2.link = some link') : link'.Built := by
  have hspindle {deed : Deed} (hdeed : step.deed? = some deed) : link'.Built := by
    obtain ⟨link, isOn, hlink, rfl⟩ := link_spindle env hdeed hlink'
    exact (h link hlink).switched isOn
  cases step with
  | connect given =>
    rw [Session.toolStep, Act.map_apply] at hlink'
    cases hlink : st.link with
    | none => exact (link_connect hlink hlink').1
    | some link =>
      rw [already_of_linked hlink] at hlink'
      exact h link' hlink'
  | disconnect =>
    rw [Session.toolStep, Act.map_apply] at hlink'
    exact h link' (link_disconnect hlink')
  | state => exact h link' hlink'
  | start => exact hspindle rfl
  | stop => exact hspindle rfl
  | changeSpeed rpm => exact hspindle rfl
  | readSpeed wait => exact hspindle rfl
  | readReport wait => exact hspindle rfl

/-- In every state that can be reached a link is built from its settings. -/
theorem Reachable.built {st : Station} (h : Reachable st) {link : Link}
    (hlink : st.link = some link) : link.Built := by
  induction h generalizing link with
  | start hb => cases hlink
  | tool _ env step ih => exact built_toolStep (fun _ => ih) env step hlink
  | adjust _ change ih => exact ih hlink

end Station
end SpindleLink
