import Mathlib.Data.List.Forall2
import SpindleLink.Proofs.DriveOrders
import SpindleLink.Proofs.OwnershipRuns
import SpindleLink.Proofs.SerialOperations

/-! Whole runs on a serial port and on a script, from the making of the line on. Step by step the
outcomes are the same and the same bytes are written; behind every step the same bytes are unread,
the clocks agree, each drive is on or off alike, and the modem line is at rest. -/

namespace SpindleLink

variable {T : Type}

namespace SourceChange

variable {source : ByteSource Float}

theorem real_apply (c : SourceChange) (hreal : c.phantom ≠ some true)
    (h : source.phantom = false) : (c.apply source).phantom = false := by
  rw [apply, h]
  cases hphantom : c.phantom with
  | none => rfl
  | some phantom =>
    cases phantom with
    | false => rfl
    | true => exact absurd hphantom hreal

theorem told_apply (c : SourceChange) (htold : c.acceptance ≠ some .untold)
    (h : source.acceptance ≠ .untold) : (c.apply source).acceptance ≠ .untold := by
  rw [apply]
  cases hacceptance : c.acceptance with
  | none => exact h
  | some acceptance => exact fun huntold => htold (hacceptance.trans (congrArg some huntold))

end SourceChange

namespace Line

theorem make_unowned {l : Line} {b b₁ : Bench T} (htime : l.byteTime.atMostZero = false)
    (hchannel : l.channel.resource ∉ b.owned) (hdirection : l.direction.resource ∉ b.owned)
    (hdown : l.direction.disengage b = (.ok (), b₁)) (hid : b₁.nextId = l.id) :
    make l.channel l.direction l.byteTime l.pacing b =
      (.ok l, l.take { b₁ with nextId := b₁.nextId + 1 }) := by
  have hchannel' : ¬owns l.channel.resource b = true := by simpa [owns] using hchannel
  have hdirection' : ¬owns l.direction.resource b = true := by simpa [owns] using hdirection
  have hswitch : switch l.direction.disengage b = (.ok (), b₁) := Act.relabel_ok hdown
  rw [make, htime, if_neg Bool.false_ne_true, Act.bind_ok (Act.observe_apply _ b), if_neg hchannel',
    Act.bind_ok (Act.observe_apply _ b), if_neg hdirection', Act.bind_ok hswitch]
  have hfresh : Bench.fresh b₁ = (.ok l.id, { b₁ with nextId := b₁.nextId + 1 }) := by
    rw [Bench.fresh, hid]
  rw [Act.bind_ok hfresh]
  rfl

end Line

namespace Session

variable {s : Session} {number : Nat}

theorem perform_line_none (h : s.lines[number]? = none) (step : LineStep) :
    perform (.line number step) s = (.ok .nothing, s) := by
  rw [perform, Act.bind_ok (Act.observe_apply _ s), h]
  rfl

theorem perform_drive_none (h : s.drives[number]? = none) (step : DriveStep) :
    perform (.drive number step) s = (.ok .nothing, s) := by
  rw [perform, Act.bind_ok (Act.observe_apply _ s), h]
  rfl

theorem perform_newDrive_error {rotation : Option String} {f : Fault}
    (h : rotationOf rotation = .error f) (readTimeout : Option (Wait Float)) :
    perform (.newDrive number rotation readTimeout) s = (.error f, s) := by
  rw [perform, h]
  rfl

theorem perform_newDrive_none {rotation : Option String} {r : Rotation}
    (h : rotationOf rotation = .ok r) (hl : s.lines[number]? = none)
    (readTimeout : Option (Wait Float)) :
    perform (.newDrive number rotation readTimeout) s = (.ok .nothing, s) := by
  rw [perform, h, Act.bind_ok (Act.ofExcept_apply _ s), Act.bind_ok (Act.observe_apply _ s), hl]
  rfl

theorem perform_newDrive_ok {rotation : Option String} {r : Rotation} {l : Line}
    (h : rotationOf rotation = .ok r) (hl : s.lines[number]? = some l)
    (readTimeout : Option (Wait Float)) :
    perform (.newDrive number rotation readTimeout) s =
      (.ok (.integer s.drives.length), { s with
        drives := s.drives ++
          [Drive.make l r (readTimeout.getD (.time Settings.defaultTimeout))] }) := by
  rw [perform, h, Act.bind_ok (Act.ofExcept_apply _ s), Act.bind_ok (Act.observe_apply _ s), hl]
  rfl

end Session

namespace Twins

variable {t : Twins}

section Steps

theorem lineStep_simulates {step : LineStep} (h : step ≠ .release) :
    t.Simulates false false false Eq (Session.lineStep t.serial step)
      (Session.lineStep t.scripted step) := by
  cases step with
  | send data => exact (send_simulates data).bind fun _ _ _ => .pure rfl
  | receive n wait flush =>
    exact (receive_simulates n wait flush).map fun _ _ => congrArg Outcome.bytes
  | holdTime length => exact (Simulates.ofExcept _).map fun _ _ => congrArg Outcome.integer
  | byteTime => exact (Simulates.ofExcept _).map fun _ _ => congrArg Outcome.time
  | discardWaiting =>
    exact discardWaiting_simulates.map fun _ _ => congrArg fun n : Nat => Outcome.integer n
  | release => exact absurd rfl h

theorem driveStep_simulates {d d' : Drive Float} (h : t.Drives d d') (step : DriveStep) :
    t.Simulates false false false (fun p p' => t.Drives p.1 p'.1 ∧ p.2 = p'.2)
      (Session.driveStep d step) (Session.driveStep d' step) := by
  cases step with
  | start => exact (start_simulates h).bind fun _ _ h₁ => .pure ⟨h₁, rfl⟩
  | stop => exact (stop_simulates h).bind fun _ _ h₁ => .pure ⟨h₁, rfl⟩
  | changeSpeed rpm => exact (changeSpeed_simulates h rpm).bind fun _ _ _ => .pure ⟨h, rfl⟩
  | readSpeed wait =>
    exact (readSpeed_simulates h wait).bind fun _ _ hreading =>
      .pure ⟨h, congrArg Outcome.reading hreading⟩
  | readReport wait resync =>
    exact (readReport_simulates h wait resync).bind fun _ _ hreport =>
      .pure ⟨h, congrArg Outcome.report hreport⟩
  | state =>
    obtain rfl := h.twin
    exact .pure ⟨h, rfl⟩

end Steps

/-- The same change on the device of the port and on the script. The source stays one that gives
what it has and counts what it takes. -/
inductive Changes (t : Twins) : Adjustment → Adjustment → Prop
  | source (c : SourceChange) (hreal : c.phantom ≠ some true)
      (htold : c.acceptance ≠ some .untold) :
    Changes t (.device c) (.source t.script c)
  | clockStep (step : Float) : Changes t (.clockStep step) (.clockStep step)
  | elapse (time : Float) : Changes t (.elapse time) (.elapse time)

/-- The same step for the one line and the other: traffic on the line or by a drive on it, a new
drive, or a change from outside. -/
inductive Alongside (t : Twins) : Step → Step → Prop
  | adjust {cs cs' : List Adjustment} (h : List.Forall₂ t.Changes cs cs') :
    Alongside t (.adjust cs) (.adjust cs')
  | newDrive (number : Nat) (rotation : Option String) (readTimeout : Option (Wait Float)) :
    Alongside t (.newDrive number rotation readTimeout) (.newDrive number rotation readTimeout)
  | line (number : Nat) {step : LineStep} (h : step ≠ .release) :
    Alongside t (.line number step) (.line number step)
  | drive (number : Nat) (step : DriveStep) :
    Alongside t (.drive number step) (.drive number step)

def makeSerial (t : Twins) : Step :=
  .newLine t.serial.channel t.serial.direction (some t.byteTime) t.pacing

def makeScripted (t : Twins) : Step :=
  .newLine t.scripted.channel t.scripted.direction (some t.byteTime) t.pacing

/-- Two sessions before their lines are made: the benches are alike, and nobody owns what the lines
are made of. -/
structure Facing (t : Twins) (s s' : Session) : Prop where
  matched : t.Matched s.station.bench s'.station.bench
  timed : t.byteTime.atMostZero = false
  lines : s.lines = []
  lines' : s'.lines = []
  drives : s.drives = []
  drives' : s'.drives = []
  fresh : s.station.bench.nextId = t.serialId
  fresh' : s'.station.bench.nextId = t.scriptedId
  held : t.serial.isReleased s.station.bench = false
  held' : t.scripted.isReleased s'.station.bench = false
  unowned : t.serial.channel.resource ∉ s.station.bench.owned ∧
    t.serial.direction.resource ∉ s.station.bench.owned
  unowned' : t.scripted.channel.resource ∉ s'.station.bench.owned ∧
    t.scripted.direction.resource ∉ s'.station.bench.owned

/-- Two sessions with the two lines, at rest between two steps. Their drives differ in the line. -/
structure Sessions (t : Twins) (s s' : Session) : Prop where
  linked : t.Linked false s.station.bench s'.station.bench
  lines : s.lines = [t.serial]
  lines' : s'.lines = [t.scripted]
  onSerial : ∀ d ∈ s.drives, d.line = t.serial
  twins : s'.drives = s.drives.map t.onScript

/-- Two steps went alike. They gave the same outcome, wrote the same bytes, made the same notes and
left the same bytes unread at the same time and each drive on or off alike, with the modem line at
rest. The calls to the port render those of the scripted line. -/
structure Agree (t : Twins) (m m' : Moment) : Prop where
  outcome : m.record.outcome = m'.record.outcome
  written : m.calls.filterMap (·.call.handed?) = m'.calls.filterMap (·.call.handed?)
  rendered : m.calls.map Entry.call =
    t.render ((t.port.port? m.before.station.bench).bind Port.timeout) (m'.calls.map Entry.call)
  notes : m.record.notes = m'.record.notes
  now : m.record.now = m'.record.now
  aside : m.record.aside = m'.record.aside
  unread : (t.serial.channel.source m.after.station.bench).unread =
    (t.scripted.channel.source m'.after.station.bench).unread
  isOn : m.after.drives.map Drive.isOn = m'.after.drives.map Drive.isOn
  resting : m.after.station.bench.rtsLevel = some !t.activeHigh

theorem handed?_render [TimeScale T] (told : Option (Wait T)) (cs : List (Call T)) :
    (t.render told cs).filterMap Call.handed? = cs.filterMap Call.handed? := by
  induction cs generalizing told with
  | nil => rfl
  | cons c cs ih =>
    have hcall : (t.renderCall told c).filterMap Call.handed? = [c].filterMap Call.handed? := by
      cases c with
      | read id wait =>
        rw [renderCall]
        split <;> rfl
      | _ => rfl
    rw [render, List.filterMap_append, ih, hcall, ← List.filterMap_append, List.singleton_append]

theorem Recorded.start [TimeScale T] {b b' : Bench T} {p : Port T} (hp : t.port.port? b = some p) :
    t.Recorded p.timeout b b' b b' := by
  refine ⟨[], [], [], by simp, by simp, rfl, by simp, by simp, fun q hq => ?_⟩
  rw [hp] at hq
  exact congrArg Port.timeout (Option.some.inj hq).symm

theorem Linked.changed {b b' : Bench Float} {high : Bool} (h : t.Linked high b b')
    {c : SourceChange} (hreal : c.phantom ≠ some true) (htold : c.acceptance ≠ some .untold) :
    t.Linked high (Adjustment.apply b (.device c)) (Adjustment.apply b' (.source t.script c)) := by
  refine { h with
    source_eq := ?_, real := c.real_apply hreal h.real, told := c.told_apply htold h.told }
  rw [Adjustment.apply, Table.update, h.source_eq]
  exact Table.get_set_self _ _ _

theorem adjusted {told : Option (Wait Float)} {start start' b b' : Bench Float} {high : Bool}
    {cs cs' : List Adjustment} (hcs : List.Forall₂ t.Changes cs cs')
    (h : t.Alike told start start' high b b') :
    t.Alike told start start' high (cs.foldl Adjustment.apply b)
      (cs'.foldl Adjustment.apply b') := by
  induction hcs generalizing b b' with
  | nil => exact h
  | cons hc hcs ih =>
    refine ih ⟨?_, ?_⟩
    · cases hc with
      | source c hreal htold => exact h.linked.changed hreal htold
      | clockStep step =>
        exact { h.linked with
          clock_eq := congrArg (fun c : Clock Float => { c with step := fun _ => step })
            h.linked.clock_eq }
      | elapse time => exact h.linked.advance time
    · cases hc <;> exact h.recorded

namespace Sessions

variable {s s' s₁ s₁' : Session} {x x' : Step}

theorem agree_of_perform {r : Except Fault Outcome} {p : Port Float}
    (hp : t.port.port? s.station.bench = some p) (hrun : Session.perform x s = (r, s₁))
    (hrun' : Session.perform x' s' = (r, s₁')) (hafter : t.Sessions s₁ s₁')
    (hrecorded : t.Recorded p.timeout s.station.bench s'.station.bench s₁.station.bench
      s₁'.station.bench)
    (haside : Session.asideOf s₁ x = Session.asideOf s₁' x') :
    t.Agree ⟨s, x⟩ ⟨s', x'⟩ ∧ t.Sessions (s.step x).2 (s'.step x').2 := by
  obtain ⟨es, es', notes, htrace, htrace', hrender, hlog, hlog', -⟩ := hrecorded
  have hstep : s.step x = (⟨r, es, notes, s₁.station.bench.now, Session.asideOf s₁ x⟩, s₁) := by
    simp [Session.step, hrun, htrace, hlog]
  have hstep' : s'.step x' =
      (⟨r, es', notes, s₁'.station.bench.now, Session.asideOf s₁' x'⟩, s₁') := by
    simp [Session.step, hrun', htrace', hlog']
  have hwritten : es.filterMap (·.call.handed?) = es'.filterMap (·.call.handed?) := by
    have h := congrArg (List.filterMap Call.handed?) hrender
    rw [handed?_render, List.filterMap_map, List.filterMap_map] at h
    exact h
  rw [hstep, hstep']
  refine ⟨?_, hafter⟩
  constructor
  all_goals simp only [Moment.record, Moment.calls, Moment.after, hstep, hstep']
  case written => exact hwritten
  case rendered =>
    rw [hp]
    exact hrender
  case now => exact (congrArg Clock.now hafter.linked.clock_eq).symm
  case aside => exact haside
  case unread => exact congrArg ByteSource.unread hafter.linked.source_eq.symm
  case isOn =>
    rw [hafter.twins, List.map_map]
    rfl
  case resting => rw [hafter.linked.level, Bool.false_beq]

theorem put {b b' : Bench Float} (h : t.Sessions s s') (hlinked : t.Linked false b b') :
    t.Sessions { s with station := { s.station with bench := b } }
      { s' with station := { s'.station with bench := b' } } :=
  { h with linked := hlinked }

theorem drive? (h : t.Sessions s s') (number : Nat) :
    s'.drives[number]? = (s.drives[number]?).map t.onScript := by
  rw [h.twins, List.getElem?_map]

theorem agree_adjust (h : t.Sessions s s') {p : Port Float}
    (hp : t.port.port? s.station.bench = some p) {cs cs' : List Adjustment}
    (hcs : List.Forall₂ t.Changes cs cs') :
    t.Agree ⟨s, .adjust cs⟩ ⟨s', .adjust cs'⟩ ∧
      t.Sessions (s.step (.adjust cs)).2 (s'.step (.adjust cs')).2 := by
  have halike : t.Alike p.timeout s.station.bench s'.station.bench false
      (cs.foldl Adjustment.apply s.station.bench) (cs'.foldl Adjustment.apply s'.station.bench) :=
    adjusted hcs ⟨h.linked, .start hp⟩
  exact agree_of_perform hp rfl rfl { h with linked := halike.linked } halike.recorded rfl

theorem agree_line (h : t.Sessions s s') {p : Port Float}
    (hp : t.port.port? s.station.bench = some p) (number : Nat) {step : LineStep}
    (hstep : step ≠ .release) :
    t.Agree ⟨s, .line number step⟩ ⟨s', .line number step⟩ ∧
      t.Sessions (s.step (.line number step)).2 (s'.step (.line number step)).2 := by
  cases number with
  | succ number =>
    -- There is one line on each side; by another number nothing is asked of it.
    have hline : s.lines[number + 1]? = none := by simp [h.lines]
    have hline' : s'.lines[number + 1]? = none := by simp [h.lines']
    exact agree_of_perform hp (Session.perform_line_none hline step)
      (Session.perform_line_none hline' step) h (.start hp) rfl
  | zero =>
    have hline : s.lines[0]? = some t.serial := by simp [h.lines]
    have hline' : s'.lines[0]? = some t.scripted := by simp [h.lines']
    have hperform := Session.perform_line hline step
    have hperform' := Session.perform_line hline' step
    have hended := lineStep_simulates hstep _ _ _ _ _ ⟨h.linked, .start hp⟩
    rcases hrun : Session.lineStep t.serial step s.station.bench with ⟨r, b⟩
    rcases hrun' : Session.lineStep t.scripted step s'.station.bench with ⟨r', b'⟩
    rw [hrun, hrun'] at hended
    rw [Session.onBench_eq hrun] at hperform
    rw [Session.onBench_eq hrun'] at hperform'
    cases hended with
    | good hvalue halike =>
      subst hvalue
      exact agree_of_perform hp hperform hperform' (h.put halike.linked) halike.recorded rfl
    | bad f halike =>
      exact agree_of_perform hp hperform hperform' (h.put halike.linked) halike.recorded rfl

theorem add (h : t.Sessions s s') {d d' : Drive Float} (hd : t.Drives d d') :
    t.Sessions { s with drives := s.drives ++ [d] } { s' with drives := s'.drives ++ [d'] } :=
  { h with
    onSerial := by
      intro d₁ hd₁
      rcases List.mem_append.mp hd₁ with hold | hnew
      · exact h.onSerial d₁ hold
      · rw [List.mem_singleton.mp hnew]
        exact hd.line
    twins := by rw [h.twins, List.map_append, List.map_singleton, hd.twin] }

theorem agree_newDrive (h : t.Sessions s s') {p : Port Float}
    (hp : t.port.port? s.station.bench = some p) (number : Nat) (rotation : Option String)
    (readTimeout : Option (Wait Float)) :
    t.Agree ⟨s, .newDrive number rotation readTimeout⟩ ⟨s', .newDrive number rotation readTimeout⟩ ∧
      t.Sessions (s.step (.newDrive number rotation readTimeout)).2
        (s'.step (.newDrive number rotation readTimeout)).2 := by
  cases hrotation : Session.rotationOf rotation with
  | error f =>
    exact agree_of_perform hp (Session.perform_newDrive_error hrotation readTimeout)
      (Session.perform_newDrive_error hrotation readTimeout) h (.start hp) rfl
  | ok r =>
    cases number with
    | succ number =>
      have hline : s.lines[number + 1]? = none := by simp [h.lines]
      have hline' : s'.lines[number + 1]? = none := by simp [h.lines']
      exact agree_of_perform hp (Session.perform_newDrive_none hrotation hline readTimeout)
        (Session.perform_newDrive_none hrotation hline' readTimeout) h (.start hp) rfl
    | zero =>
      have hline : s.lines[0]? = some t.serial := by simp [h.lines]
      have hline' : s'.lines[0]? = some t.scripted := by simp [h.lines']
      have hmade : s'.drives.length = s.drives.length := by rw [h.twins, List.length_map]
      have hperform' := Session.perform_newDrive_ok hrotation hline' readTimeout
      rw [hmade] at hperform'
      have hdrives (w : Wait Float) :
          t.Drives (Drive.make t.serial r w) (Drive.make t.scripted r w) := ⟨rfl, rfl⟩
      exact agree_of_perform hp (Session.perform_newDrive_ok hrotation hline readTimeout) hperform'
        (h.add (hdrives _)) (.start hp) rfl

theorem set (h : t.Sessions s s') {b b' : Bench Float} (hlinked : t.Linked false b b')
    {d d' : Drive Float} (hd : t.Drives d d') (number : Nat) :
    t.Sessions
      { s with station := { s.station with bench := b }, drives := s.drives.set number d }
      { s' with
        station := { s'.station with bench := b' }, drives := s'.drives.set number d' } where
  linked := hlinked
  lines := h.lines
  lines' := h.lines'
  onSerial := by
    intro d₁ hd₁
    rcases List.mem_or_eq_of_mem_set hd₁ with hold | rfl
    · exact h.onSerial d₁ hold
    · exact hd.line
  twins := by rw [h.twins, List.map_set, hd.twin]

theorem agree_drive (h : t.Sessions s s') {p : Port Float}
    (hp : t.port.port? s.station.bench = some p) (number : Nat) (step : DriveStep) :
    t.Agree ⟨s, .drive number step⟩ ⟨s', .drive number step⟩ ∧
      t.Sessions (s.step (.drive number step)).2 (s'.step (.drive number step)).2 := by
  have haside {s s' : Session} (h : t.Sessions s s') :
      Session.asideOf s (.drive number step) = Session.asideOf s' (.drive number step) := by
    rw [Session.asideOf, Session.asideOf, h.drive? number, Option.map_map]
    rfl
  cases hd : s.drives[number]? with
  | none =>
    have hd' : s'.drives[number]? = none := by rw [h.drive? number, hd, Option.map_none]
    exact agree_of_perform hp (Session.perform_drive_none hd step)
      (Session.perform_drive_none hd' step) h (.start hp) (haside h)
  | some d =>
    have hd' : s'.drives[number]? = some (t.onScript d) := by
      rw [h.drive? number, hd, Option.map_some]
    have hdrives : t.Drives d (t.onScript d) := ⟨h.onSerial d (List.mem_of_getElem? hd), rfl⟩
    have hended := driveStep_simulates hdrives step _ _ _ _ _ ⟨h.linked, .start hp⟩
    rcases hrun : Session.driveStep d step s.station.bench with ⟨r, b⟩
    rcases hrun' : Session.driveStep (t.onScript d) step s'.station.bench with ⟨r', b'⟩
    rw [hrun, hrun'] at hended
    cases hended with
    | good hvalue halike =>
      obtain ⟨hdrives', hvalue⟩ := hvalue
      have hafter := h.set halike.linked hdrives' number
      have hperform' := Session.perform_drive_ok hd' hrun'
      rw [← hvalue] at hperform'
      exact agree_of_perform hp (Session.perform_drive_ok hd hrun) hperform' hafter
        halike.recorded (haside hafter)
    | bad f halike =>
      have hafter := h.put halike.linked
      exact agree_of_perform hp (Session.perform_drive_error hd hrun)
        (Session.perform_drive_error hd' hrun') hafter halike.recorded (haside hafter)

theorem agree (h : t.Sessions s s') (hx : t.Alongside x x') :
    t.Agree ⟨s, x⟩ ⟨s', x'⟩ ∧ t.Sessions (s.step x).2 (s'.step x').2 := by
  obtain ⟨p, hp, -⟩ := h.linked.port
  cases hx with
  | adjust hcs => exact h.agree_adjust hp hcs
  | newDrive number rotation readTimeout => exact h.agree_newDrive hp number rotation readTimeout
  | line number hstep => exact h.agree_line hp number hstep
  | drive number step => exact h.agree_drive hp number step

/-- All steps of a run, one behind the other. -/
theorem history_agree (h : t.Sessions s s') {xs xs' : List Step}
    (hxs : List.Forall₂ t.Alongside xs xs') :
    List.Forall₂ t.Agree (s.history xs) (s'.history xs') := by
  induction hxs generalizing s s' with
  | nil => exact .nil
  | cons hx _ ih =>
    obtain ⟨hagree, hafter⟩ := h.agree hx
    exact .cons hagree (ih hafter)

end Sessions

namespace Facing

variable {s s' : Session}

theorem agree_make (h : t.Facing s s') :
    t.Agree ⟨s, t.makeSerial⟩ ⟨s', t.makeScripted⟩ ∧
      t.Sessions (s.step t.makeSerial).2 (s'.step t.makeScripted).2 := by
  obtain ⟨p, hp, -⟩ := h.matched.port
  obtain ⟨b, b', hdown, hdown', hmatched, hlevel, hsame, hsame', hrecorded⟩ :=
    h.matched.drive false
  simp only [Bench.holdings, Prod.mk.injEq] at hsame hsame'
  obtain ⟨-, hreleased, hnext⟩ := hsame
  obtain ⟨-, hreleased', hnext'⟩ := hsame'
  have hheld : t.serial.isReleased b = false := by
    rw [Line.isReleased, hreleased]
    exact h.held
  have hheld' : t.scripted.isReleased b' = false := by
    rw [Line.isReleased, hreleased']
    exact h.held'
  have hmake := Line.make_unowned (l := t.serial) h.timed h.unowned.1 h.unowned.2 hdown
    (hnext.trans h.fresh)
  have hmake' := Line.make_unowned (l := t.scripted) h.timed h.unowned'.1 h.unowned'.2 hdown'
    (hnext'.trans h.fresh')
  have htime (c : Channel) :
      (some t.byteTime).elim (Session.defaultByteTime c) .ok = .ok t.byteTime := rfl
  have hperform : Session.perform t.makeSerial s = _ :=
    Session.perform_newLine_ok (htime t.serial.channel) hmake
  have hperform' : Session.perform t.makeScripted s' = _ :=
    Session.perform_newLine_ok (htime t.scripted.channel) hmake'
  rw [h.lines] at hperform
  rw [h.lines'] at hperform'
  refine Sessions.agree_of_perform hp hperform hperform' ?_ (hrecorded (.start hp)) rfl
  constructor
  case linked => exact { hmatched with held := hheld, held' := hheld', level := hlevel }
  case lines => rfl
  case lines' => rfl
  case onSerial => simp [h.drives]
  case twins => simp [h.drives, h.drives']

/-- A port that was just opened before a device faces a script with the contents of the device. -/
theorem of_opened (t : Twins) (htime : t.byteTime.atMostZero = false) {resources : Nat}
    (hserial : resources = t.serialId) (hscripted : resources = t.scriptedId)
    (start clockStep : Float) (env env' : Settings.Environment) {c : SourceChange}
    (hreal : c.phantom ≠ some true) (htold : c.acceptance ≠ some .untold) :
    t.Facing
      ((Session.begin start clockStep resources env [.device c]).step (.channel t.port .open)).2
      (Session.begin start clockStep resources env' [.source t.script c]) := by
  let b : Bench Float := (Session.begin start clockStep resources env [.device c]).station.bench
  have hclear (p : Point) : (b.plans.get p).Clear := FaultPlan.clear_never
  have hclosed : t.port.connected b = false := rfl
  have hopen : Session.channelStep t.port .open b = (.ok .nothing, _) :=
    Act.bind_ok ((Act.bind_ok (Act.observe_apply _ b)).trans (by
      rw [hclosed]
      exact Act.bind_ok (Act.relabel_ok (Bench.signal_of_clear (hclear _).current _))))
  have hstep : Session.perform (.channel t.port .open)
      (Session.begin start clockStep resources env [.device c]) = _ := Session.onBench_eq hopen
  rw [Session.step, hstep]
  constructor
  case matched =>
    constructor
    case clear => exact fun p => Bench.plans_counted_clear (hclear p)
    case clear' => exact fun p => FaultPlan.clear_never
    case opened =>
      simp [SerialChannel.connected, SerialChannel.port?, SerialChannel.setPort]
    case source_eq => exact Table.get_set_self _ _ _
    case real => exact c.real_apply hreal rfl
    case told => exact c.told_apply htold (Acceptance.noConfusion : Acceptance.all ≠ .untold)
    case clock_eq => rfl
  case timed => exact htime
  case fresh => exact hserial
  case fresh' => exact hscripted
  case unowned => exact ⟨List.not_mem_nil, List.not_mem_nil⟩
  case unowned' => exact ⟨List.not_mem_nil, List.not_mem_nil⟩
  all_goals rfl

/-- A line over a serial port refines one over a script. From the making of the two lines on, every
run without failures goes alike on both: step by step the same outcome, the same bytes written, the
same bytes unread, the same clock and the same commanded states, with the modem line at rest behind
every step. -/
theorem serial_refines_script {t : Twins} {s s' : Session} (h : t.Facing s s')
    {xs xs' : List Step} (hxs : List.Forall₂ t.Alongside xs xs') :
    (s.run (t.makeSerial :: xs)).1 = (s.history (t.makeSerial :: xs)).map Moment.record ∧
      (s'.run (t.makeScripted :: xs')).1 =
        (s'.history (t.makeScripted :: xs')).map Moment.record ∧
      List.Forall₂ t.Agree (s.history (t.makeSerial :: xs))
        (s'.history (t.makeScripted :: xs')) := by
  refine ⟨Session.run_records _ _, Session.run_records _ _, ?_⟩
  obtain ⟨hagree, hafter⟩ := h.agree_make
  exact .cons hagree (hafter.history_agree hxs)

/-- A drive that starts, has its display read and stops, on a port whose signal is active low and
over a script. -/
theorem serial_refines_script_active_low :
    let t : Twins := ⟨⟨0, "/dev/ttyUSB0", 9600⟩, false, 1, 2, 0, 1, 2, .whole 1, .delay⟩
    let c : SourceChange := ⟨[0x55], [0x01, 0x02, 0x03], some 0.25, none, none⟩
    let s := ((Session.begin 0 0 2 [] [.device c]).step (.channel t.port .open)).2
    let s' := Session.begin 0 0 2 [] [.source t.script c]
    let steps : List Step := [.newDrive 0 none none, .drive 0 .start,
      .drive 0 (.readReport (some (.time 1)) true), .line 0 (.receive 2 none false), .drive 0 .stop]
    t.Facing s s' ∧ List.Forall₂ t.Alongside steps steps ∧
      List.Forall₂ t.Agree (s.history (t.makeSerial :: steps))
        (s'.history (t.makeScripted :: steps)) := by
  intro t c s s' steps
  have hfacing : t.Facing s s' :=
    of_opened t rfl rfl rfl 0 0 [] [] (by simp [c]) (by simp [c])
  have hsteps : List.Forall₂ t.Alongside steps steps :=
    .cons (.newDrive 0 none none) (.cons (.drive 0 .start) (.cons (.drive 0 _)
      (.cons (.line 0 (by simp)) (.cons (.drive 0 .stop) .nil))))
  exact ⟨hfacing, hsteps, (serial_refines_script hfacing hsteps).2.2⟩

end Facing

end Twins
end SpindleLink
